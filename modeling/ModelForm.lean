import ModelForm.Json.Writer
import ModelForm.Model.Loading
import ModelForm.Model.Writing
import ModelForm.Session
import ModelForm.Main
import ModelForm.Proofs.Compiled
import ModelForm.Proofs.FormValidity
import ModelForm.Proofs.FormCoherence
import ModelForm.Proofs.Places
import ModelForm.Proofs.Reports
import ModelForm.Proofs.Aborts
import ModelForm.Proofs.Conformance
import ModelForm.Proofs.FormSweep
import ModelForm.Proofs.FormReset
import ModelForm.Proofs.FormSnapshot
import ModelForm.Proofs.FormPaths
import ModelForm.Proofs.AddedRules
import ModelForm.Proofs.Documents
import ModelForm.Proofs.EntryPoints
import ModelForm.Proofs.Timestamps
import ModelForm.Proofs.Shapes
import ModelForm.Proofs.RecordShapes
import ModelForm.Proofs.RoundTrip
import ModelForm.Proofs.FormFields
import ModelForm.Proofs.CommandModes
import ModelForm.Proofs.Texts
import ModelForm.Proofs.Outcomes
import ModelForm.Proofs.FormSettled
import ModelForm.Proofs.RuleSets
import ModelForm.Proofs.RuleFolds
import ModelForm.Proofs.Refinements
import ModelForm.Proofs.Insertions
import ModelForm.Proofs.UniqueNames
import ModelForm.Proofs.Lengths
import ModelForm.Proofs.Rounding
import ModelForm.Proofs.Bounds
import ModelForm.Proofs.Addresses
import ModelForm.Proofs.Directories
import ModelForm.Proofs.ExitStatus
import ModelForm.Proofs.SavedSettings
import ModelForm.Proofs.FormMessages
import ModelForm.Proofs.Variables
