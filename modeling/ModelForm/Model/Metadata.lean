import ModelForm.Json.Value
import ModelForm.Model.Instant
import ModelForm.Unicode.Case

/-!
Descriptions of record types: a model is an ordered list of fields, each with a data
type, rules, and a rule on how it is edited. Nothing here validates anything.
-/

namespace ModelForm

inductive DataType where
  | string
  | number
  | boolean
  | date
  | datetime
  | time
  | email
  | url
  | text
  | json
  | enumeration
  | relation
  | unknown
  deriving DecidableEq, Repr, Inhabited

namespace DataType

/-- The types that have a name of their own; every other name means `unknown`. -/
def all : List DataType :=
  [.string, .number, .boolean, .date, .datetime, .time, .email, .url, .text, .json, .enumeration,
    .relation, .unknown]

def name : DataType → String
  | .string => "string"
  | .number => "number"
  | .boolean => "boolean"
  | .date => "date"
  | .datetime => "datetime"
  | .time => "time"
  | .email => "email"
  | .url => "url"
  | .text => "text"
  | .json => "json"
  | .enumeration => "enum"
  | .relation => "relation"
  | .unknown => "unknown"

def ofName (n : String) : DataType :=
  (all.find? fun t => t.name == n).getD .unknown

theorem ofName_name (t : DataType) : ofName t.name = t := by
  cases t <;> decide

end DataType

inductive RuleKind where
  | required
  | min
  | max
  | minLength
  | maxLength
  | pattern
  | email
  | url
  | custom
  deriving DecidableEq, Repr, Inhabited

namespace RuleKind

def all : List RuleKind :=
  [.required, .min, .max, .minLength, .maxLength, .pattern, .email, .url, .custom]

def name : RuleKind → String
  | .required => "required"
  | .min => "min"
  | .max => "max"
  | .minLength => "minLength"
  | .maxLength => "maxLength"
  | .pattern => "pattern"
  | .email => "email"
  | .url => "url"
  | .custom => "custom"

def ofName? (n : String) : Option RuleKind := all.find? fun k => k.name == n

theorem ofName?_name (k : RuleKind) : ofName? k.name = some k := by
  cases k <;> decide

end RuleKind

inductive RuleValue where
  | number (value : Binary64)
  | text (value : String)
  deriving DecidableEq, Repr, Inhabited

structure Rule where
  kind : RuleKind
  value : Option RuleValue := none
  message : Option String := none
  deriving DecidableEq, Repr, Inhabited

namespace Rule

def number? (r : Rule) : Option Binary64 :=
  match r.value with
  | some (.number x) => some x
  | _ => none

def text? (r : Rule) : Option String :=
  match r.value with
  | some (.text s) => some s
  | _ => none

end Rule

structure FieldType where
  dataType : DataType
  rules : List Rule := []
  defaultValue : Option Json := none
  enumValues : Option (List String) := none
  deriving Repr, Inhabited

def FieldType.enumeration (values : List String) : FieldType :=
  { dataType := .enumeration, enumValues := some values }

structure Display where
  label : String
  placeholder : Option String := none
  helpText : Option String := none
  visible : Bool := true
  order : Option Int := none
  width : Option String := none
  format : Option String := none
  deriving DecidableEq, Repr, Inhabited

/-- An override of the edit rule, kept for those who show the form. -/
structure ConditionalRule where
  field : String
  value : Json
  outcome : Json
  deriving Repr, Inhabited

/-- How a field is edited; only `required` matters to validation. -/
structure EditRule where
  editable : Bool := false
  readonly : Bool := false
  required : Bool := false
  hidden : Bool := false
  dependsOn : List String := []
  conditionalRules : List ConditionalRule := []
  deriving Repr, Inhabited

namespace EditRule

def mandatory : EditRule := { editable := true, required := true }

def voluntary : EditRule := { editable := true }

end EditRule

structure FieldPermission where
  view : Bool
  edit : Bool
  create : Bool
  delete : Bool
  roles : Option (List String) := none
  deriving DecidableEq, Repr, Inhabited

inductive Cardinality where
  | oneToOne
  | oneToMany
  | manyToOne
  | manyToMany
  deriving DecidableEq, Repr, Inhabited

namespace Cardinality

def all : List Cardinality := [.oneToOne, .oneToMany, .manyToOne, .manyToMany]

def name : Cardinality → String
  | .oneToOne => "oneToOne"
  | .oneToMany => "oneToMany"
  | .manyToOne => "manyToOne"
  | .manyToMany => "manyToMany"

def ofName? (n : String) : Option Cardinality := all.find? fun c => c.name == n

theorem ofName?_name (c : Cardinality) : ofName? c.name = some c := by
  cases c <;> decide

end Cardinality

structure Relation where
  model : String
  field : String
  cardinality : Cardinality
  deriving DecidableEq, Repr, Inhabited

structure Field where
  name : String
  type : FieldType
  rules : List Rule := []
  editRule : EditRule := {}
  display : Option Display := none
  permission : Option FieldPermission := none
  relation : Option Relation := none
  deriving Repr, Inhabited

namespace Field

def ofType (name : String) (type : FieldType) : Field :=
  { name, type, editRule := EditRule.voluntary }

def require (f : Field) : Field := { f with editRule := { f.editRule with required := true } }

def addRule (f : Field) (r : Rule) : Field := { f with rules := f.rules ++ [r] }

/-- The rules of the type, then those of the field. -/
def allRules (f : Field) : List Rule := f.type.rules ++ f.rules

end Field

structure ModelPermission where
  view : Bool
  create : Bool
  update : Bool
  delete : Bool
  roles : Option (List String) := none
  deriving DecidableEq, Repr, Inhabited

structure Model where
  id : String
  name : String
  displayName : String := ""
  description : Option String := none
  fields : List Field
  permissions : Option ModelPermission := none
  createdAt : Instant
  updatedAt : Option Instant := none
  deriving Repr, Inhabited

namespace Model

/-- A model without fields; its id is its name in lower case. -/
def ofName (name : String) (now : Instant) : Model :=
  { id := Unicode.lowercase name, name, displayName := name, fields := [], createdAt := now }

def addField (m : Model) (f : Field) : Model := { m with fields := m.fields ++ [f] }

def field? (m : Model) (name : String) : Option Field := m.fields.find? fun f => f.name == name

def fieldNames (m : Model) : List String := m.fields.map Field.name

def firstRepeated (seen : List String) : List String → Option String
  | [] => none
  | n :: rest => if seen.contains n then some n else firstRepeated (n :: seen) rest

def repeatedName? (m : Model) : Option String := firstRepeated [] m.fieldNames

end Model

end ModelForm
