import ModelForm.Json.Value

/-!
A text as far as it can be read. Faults stay at the place where reading met them,
so that whoever walks the document from left to right meets the first problem
first, whether it lies in the text or in the data. Some faults concern only those
who want the value: a number too large or half a surrogate pair can be passed over.
-/

namespace ModelForm

inductive Fault where
  | malformed
  | truncated
  deriving DecidableEq, Repr, Inhabited

/-- A text read as far as possible. An array or object without its closing bracket
carries the fault met instead; `flawed` can be passed over but not taken as a value. -/
inductive Document where
  | null
  | bool (value : Bool)
  | number (value : Number)
  | string (value : String)
  | array (items : List Document) (ending : Option Fault)
  | object (members : List (Except Fault String × Document)) (ending : Option Fault)
  | flawed (fault : Fault) (passed : Document)
  | unreadable (fault : Fault)

namespace Document

def ended (ending : Option Fault) : Except Fault Unit :=
  match ending with
  | none => .ok ()
  | some fault => .error fault

mutual

def value : Document → Except Fault Json
  | .null => .ok .null
  | .bool b => .ok (.bool b)
  | .number n => .ok (.number n)
  | .string s => .ok (.string s)
  | .array items ending => do
    let values ← valueItems items
    ended ending
    return .array values
  | .object members ending => do
    let pairs ← valueMembers members []
    ended ending
    return .object pairs
  | .flawed fault _ => .error fault
  | .unreadable fault => .error fault

def valueItems : List Document → Except Fault (List Json)
  | [] => .ok []
  | item :: rest => do
    let v ← item.value
    let vs ← valueItems rest
    return v :: vs

/-- Adds the members to those already read; a repeated key keeps its last value. -/
def valueMembers : List (Except Fault String × Document) → Object → Except Fault Object
  | [], read => .ok read
  | (key, item) :: rest, read => do
    let k ← key
    let v ← item.value
    valueMembers rest (read.insert k v)

end

mutual

/-- Passes over the document, and stops only at what cannot be passed. -/
def pass : Document → Except Fault Unit
  | .array items ending => do
    passItems items
    ended ending
  | .object members ending => do
    passMembers members
    ended ending
  | .flawed _ passed => passed.pass
  | .unreadable fault => .error fault
  | _ => .ok ()

def passItems : List Document → Except Fault Unit
  | [] => .ok ()
  | item :: rest => do
    item.pass
    passItems rest

def passMembers : List (Except Fault String × Document) → Except Fault Unit
  | [] => .ok ()
  | (_, item) :: rest => do
    item.pass
    passMembers rest

end

mutual

def ofValue : Json → Document
  | .null => .null
  | .bool b => .bool b
  | .number n => .number n
  | .string s => .string s
  | .array items => .array (ofItems items) none
  | .object members => .object (ofMembers members) none

def ofItems : List Json → List Document
  | [] => []
  | item :: rest => ofValue item :: ofItems rest

def ofMembers : List (String × Json) → List (Except Fault String × Document)
  | [] => []
  | (key, item) :: rest => (.ok key, ofValue item) :: ofMembers rest

end

end Document

end ModelForm
