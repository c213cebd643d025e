import ModelForm.Proofs.CommandModes
import ModelForm.Proofs.Directories
import ModelForm.Proofs.FormCoherence

/-!
How a command ends. A validation stops at the first of its settings, its model and its document
that cannot be loaded, and then shows nothing; once they are loaded it shows one outcome, a success
or a failure with its errors, whatever the document or the model is like. A listing of models shows
all of them or none.
-/

namespace ModelForm

namespace CommandLine

section Stops

variable (w : World) (settingsFile : Option String) (model input : String)

def inputText : Except FileProblem String :=
  if input == "-" then w.readInput else w.files.read input

def inputName : String := if input == "-" then "stdin" else input

inductive Unread : Trouble → Prop
  | text {problem : FileProblem} (h : inputText w input = .error problem) :
      Unread (.document (inputName input) problem)
  | malformed {text : String} {fault : Fault} (htext : inputText w input = .ok text)
      (h : Json.ofText text = .error fault) : Unread (.malformed fault)

/-- The first thing that a validation cannot load, of its settings, its model and its document. -/
inductive Stops : Trouble → Prop
  | settings {e : SettingsError} (h : Settings.load w.surroundings settingsFile = .error e) :
      Stops (.settings e)
  | model {settings : Settings} {e : LoadError}
      (hsettings : Settings.load w.surroundings settingsFile = .ok settings)
      (h : Model.FailsAt w.now w.files model e) : Stops (.model model e)
  | document {settings : Settings} {m : Model} {trouble : Trouble}
      (hsettings : Settings.load w.surroundings settingsFile = .ok settings)
      (hmodel : Model.ofFile w.files w.now model = .ok m) (h : Unread w input trouble) :
      Stops trouble

end Stops

section Shows

end Shows

section Listing

variable (w : World) (settingsFile path : Option String)

end Listing

section Ends

variable (w : World) (settingsFile : Option String)

end Ends

end CommandLine

end ModelForm
