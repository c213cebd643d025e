import ModelForm.Messages
import ModelForm.Model.Metadata
import ModelForm.Schema.Refine

/-!
From metadata to schemas. The type of a field gives its base schema, its rules are
folded onto it in order, and unless the field is required the result is optional. A
rule that does not fit is skipped, so every model has a schema.
-/

namespace ModelForm

structure Checks where
  entries : List Check := []
  deriving Inhabited

namespace Checks

/-- Makes a check known under its name, instead of one with the same name. -/
def register (cs : Checks) (check : Check) : Checks := ⟨check :: cs.entries⟩

def find? (cs : Checks) (name : String) : Option Check :=
  cs.entries.find? fun check => check.name == name

end Checks

namespace Rule

/-- Lengths are kept in 64 bits. -/
def lastLength : Nat := Nat.pow 2 64 - 1

/-- What a rule requires. Bounds have to be finite, a greatest length not negative; a length bound
between two whole numbers is moved to the one that allows the same lengths. -/
def requirement? (r : Rule) (checks : Checks) : Option Requirement :=
  match r.kind with
  | .required => none
  | .minLength => (r.number?.bind Binary64.ceilNat?).map fun n => .minLength (min n lastLength)
  | .maxLength => (r.number?.bind Binary64.floorNat?).map fun n => .maxLength (min n lastLength)
  | .min => (r.number?.filter Binary64.isFinite).map .min
  | .max => (r.number?.filter Binary64.isFinite).map .max
  | .pattern => r.text?.map fun source => .pattern (Pattern.ofText source)
  | .email => some .email
  | .url => some .url
  | .custom => (r.text?.bind checks.find?).map .custom

end Rule

namespace Schema

/-- Whether rules of a kind are meant for a schema, optional or not. A check looks at anything. -/
def admits (s : Schema) : RuleKind → Bool
  | .minLength | .maxLength | .pattern | .email | .url => s.isString
  | .min | .max => s.isNumber
  | .required | .custom => true

def applyRule (checks : Checks) (s : Schema) (r : Rule) : Schema :=
  match r.requirement? checks with
  | some requirement => if s.admits r.kind then s.require requirement r.message else s
  | none => s

def applyRules (checks : Checks) (s : Schema) (rules : List Rule) : Schema :=
  rules.foldl (applyRule checks) s

end Schema

structure Compiler where
  messages : Messages := {}
  checks : Checks := {}
  deriving Inhabited

namespace Compiler

/-- The schema of a type before any rules. Dates, relations and unknown types are texts. -/
def baseSchema (c : Compiler) (t : FieldType) : Schema :=
  match t.dataType with
  | .number => Schema.number c.messages.number
  | .boolean => Schema.boolean c.messages.boolean
  | .json => .unknown
  | .enumeration =>
    match t.enumValues with
    | some values => Schema.literal values c.messages.enumeration
    | none => Schema.string c.messages.string
  | _ => Schema.string c.messages.string

def compileField (c : Compiler) (f : Field) : Schema :=
  let s := (c.baseSchema f.type).applyRules c.checks f.allRules
  if f.editRule.required then s else s.orAbsent

/-- The schema of a model. A repeated name keeps its place and takes the last definition. -/
def compile (c : Compiler) (m : Model) : Members :=
  Members.ofList (m.fields.map fun f => (f.name, c.compileField f))

end Compiler

end ModelForm
