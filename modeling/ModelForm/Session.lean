import ModelForm.Outcome

/-!
A form in use: its data, the errors found so far, and where it stands. Writing makes it
dirty; only validating says anything about validity, and validating one field leaves
the errors of all others alone.
-/

namespace ModelForm

/-- Where a form stands. `validating` holds only while a validation runs. -/
inductive Status where
  | clean
  | dirty
  | validating
  | valid
  | invalid
  deriving DecidableEq, Repr, Inhabited

structure Session where
  members : Members
  initial : Object
  data : Object
  errors : List FieldError
  status : Status
  isDirty : Bool
  generic : String
  deriving Inhabited

namespace Session

def start (members : Members) (initial : Object) : Session :=
  { members, initial, data := initial, errors := [], status := .clean, isDirty := false,
    generic := genericMessage }

def isValid (s : Session) : Bool := s.status == .valid

def get? (s : Session) (name : String) : Option Json := s.data.get? name

/-- The form with other data, which nobody has judged yet. -/
def write (s : Session) (data : Object) : Session :=
  { s with data, status := .dirty, isDirty := true }

def setField (s : Session) (name : String) (v : Json) : Session := s.write (s.data.insert name v)

def removeField (s : Session) (name : String) : Option Json × Session :=
  (s.data.get? name, s.write (s.data.erase name))

def update (s : Session) (edit : Object → Object) : Session := s.write (edit s.data)

/-- Validates the whole form. If it is valid its data becomes the decoded value. -/
def validate (s : Session) : Bool × Session :=
  let s := { s with status := .validating }
  match s.members.validate (.object s.data) with
  | .ok decoded => (true, { s with data := decoded, errors := [], status := .valid })
  | .error failure => (false, { s with errors := failure.errors s.generic, status := .invalid })

def errorsFor (s : Session) (name : String) : List FieldError :=
  s.errors.filter (·.isFor name)

def otherErrors (s : Session) (name : String) : List FieldError :=
  s.errors.filter fun e => !e.isFor name

/-- Validates one field. The form turns valid only if no errors remain. -/
def validateField (s : Session) (name : String) : Bool × Session :=
  let previous := s.status
  let s := { s with status := .validating }
  match s.members.validateField name (s.data.get? name) with
  | .ok _ =>
    let errors := s.otherErrors name
    (true, { s with errors, status := if errors.isEmpty then .valid else previous })
  | .error failure =>
    let errors := s.otherErrors name ++ failure.fieldErrors name s.generic
    (false, { s with errors, status := .invalid })

def reset (s : Session) : Session :=
  { s with data := s.initial, errors := [], status := .clean, isDirty := false }

def resetField (s : Session) (name : String) : Session :=
  let data := match s.initial.get? name with
    | some v => s.data.insert name v
    | none => s.data.erase name
  { s with data, errors := s.otherErrors name }

def fieldError (s : Session) (name : String) : Option String :=
  (s.errors.find? (·.isFor name)).map FieldError.message

/-- Adds a message to those of a key, which stand in ascending order. -/
def addMessage (key message : String) : List (String × List String) → List (String × List String)
  | [] => [(key, [message])]
  | (k, ms) :: rest =>
    if k = key then (k, ms ++ [message]) :: rest
    else if key < k then (key, [message]) :: (k, ms) :: rest
    else (k, ms) :: addMessage key message rest

/-- The messages by field; those about no field stand under the empty name. -/
def errorMap (s : Session) : List (String × List String) :=
  s.errors.foldl (fun map e => addMessage (e.field?.getD "") e.message map) []

end Session

inductive Action where
  | setField (name : String) (value : Json)
  | removeField (name : String)
  | update (edit : Object → Object)
  | validate
  | validateField (name : String)
  | reset
  | resetField (name : String)

inductive Answer where
  | nothing
  | removed (value : Option Json)
  | verdict (ok : Bool)
  deriving Repr, Inhabited

namespace Session

def act (s : Session) : Action → Answer × Session
  | .setField name v => (.nothing, s.setField name v)
  | .removeField name =>
    let (v, s) := s.removeField name
    (.removed v, s)
  | .update edit => (.nothing, s.update edit)
  | .validate =>
    let (ok, s) := s.validate
    (.verdict ok, s)
  | .validateField name =>
    let (ok, s) := s.validateField name
    (.verdict ok, s)
  | .reset => (.nothing, s.reset)
  | .resetField name => (.nothing, s.resetField name)

def runAll (s : Session) (actions : List Action) : Session :=
  actions.foldl (fun s a => (s.act a).2) s

end Session

namespace Compiler

def session (c : Compiler) (ms : Members) (initial : Object) : Session :=
  { Session.start ms initial with generic := c.messages.generic }

end Compiler

end ModelForm
