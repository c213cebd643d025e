import ModelForm.Json.DataError
import ModelForm.Json.Reader

/-!
Reading typed data from documents. A record is an object with known keys, or an array
of its fields in order; its fields are read in the order in which they come, so the
first problem on the way is the one that is reported. Texts and values given as such
differ in a few reports only.
-/

namespace ModelForm

inductive Origin where
  | text
  | value
  deriving DecidableEq, Repr, Inhabited

abbrev Shape (α : Type) := Origin → Document → Except ReadError α

namespace Shape

variable {α β : Type}

def refuse (e : DataError) : Except ReadError α := .error (.data e)

def ofFault (r : Except Fault α) : Except ReadError α := r.mapError .fault

/-- The report that a document is not of the expected type; a fault in front wins. -/
def mismatch (expected : String) : Document → Except ReadError α
  | .null => refuse (.invalidType .null expected)
  | .bool b => refuse (.invalidType (.bool b) expected)
  | .number n => refuse (.invalidType (.number n) expected)
  | .string s => refuse (.invalidType (.text s) expected)
  | .array _ _ => refuse (.invalidType .sequence expected)
  | .object _ _ => refuse (.invalidType .map expected)
  | .flawed _ (.array _ _) => refuse (.invalidType .sequence expected)
  | .flawed _ (.object _ _) => refuse (.invalidType .map expected)
  | .flawed fault _ => .error (.fault fault)
  | .unreadable fault => .error (.fault fault)

def json : Shape Json := fun _ d => ofFault d.value

def string : Shape String := fun _ d =>
  match d with
  | .string s => .ok s
  | other => mismatch "a string" other

def bool : Shape Bool := fun _ d =>
  match d with
  | .bool b => .ok b
  | other => mismatch "a boolean" other

def integer (type : String) (low high : Int) : Shape Int := fun _ d =>
  match d with
  | .number (.integer i) =>
    if low ≤ i ∧ i ≤ high then .ok i
    else refuse (.invalidValue (.number (.integer i)) type)
  | other => mismatch type other

def instant : Shape Instant := fun _ d =>
  match d with
  | .string s => (Instant.ofText s).mapError fun e => .data (.instant e)
  | other => mismatch "an RFC 3339 formatted date and time string" other

def option (shape : Shape α) : Shape (Option α) := fun origin d =>
  match d with
  | .null => .ok none
  | other => (shape origin other).map some

def listItems (shape : Shape α) (origin : Origin) : List Document → Except ReadError (List α)
  | [] => .ok []
  | item :: rest => do
    let x ← shape origin item
    let xs ← listItems shape origin rest
    return x :: xs

def list (shape : Shape α) : Shape (List α) := fun origin d =>
  match d with
  | .array items ending => do
    let xs ← listItems shape origin items
    ofFault (Document.ended ending)
    return xs
  | other => mismatch "a sequence" other

def mapMembers (shape : Shape α) (origin : Origin) :
    List (Except Fault String × Document) → Except ReadError (List (String × α))
  | [] => .ok []
  | (key, item) :: rest => do
    let k ← ofFault key
    let x ← shape origin item
    let xs ← mapMembers shape origin rest
    return if xs.any (·.1 == k) then xs else (k, x) :: xs

def map (shape : Shape α) : Shape (List (String × α)) := fun origin d =>
  match d with
  | .object members ending => do
    let xs ← mapMembers shape origin members
    ofFault (Document.ended ending)
    return xs
  | other => mismatch "a map" other

/-- The first of several forms that fits a value read as a whole. -/
def oneOf (type : String) (forms : List (Json → Option α)) : Shape α := fun _ d => do
  let v ← ofFault d.value
  match forms.findSome? fun form => form v with
  | some x => return x
  | none => refuse (.noVariant type)

/-- The only value that a name without arguments may carry. -/
def nothing : Shape Unit := fun _ d =>
  match d with
  | .null => .ok ()
  | other => mismatch "unit" other

/-- One of several names: as a text, or as the only key of an object with the value null. -/
def name (known : List String) (meaning : String → Option α) : Shape α := fun origin d =>
  let named (n : String) : Except ReadError α :=
    match meaning n with
    | some x => .ok x
    | none => refuse (.unknownVariant n known)
  match d, origin with
  | .string s, _ => named s
  | .unreadable fault, _ => .error (.fault fault)
  | .flawed fault _, _ => .error (.fault fault)
  | .object [] none, .text => .error (.fault .malformed)
  | .object [] (some fault), .text => .error (.fault fault)
  | .object ((key, item) :: rest) ending, .text => do
    let x ← named (← ofFault key)
    nothing origin item
    if !rest.isEmpty then throw (.fault .malformed)
    ofFault (Document.ended ending)
    return x
  | .object [(key, item)] _, .value => do
    let x ← named (← ofFault key)
    nothing origin item
    return x
  | .object _ _, .value => refuse (.invalidValue .map "map with a single key")
  | _, .text => .error (.fault .malformed)
  | other, .value => mismatch "string or map" other

end Shape

structure FieldShape (α : Type) where
  key : String
  read : Origin → Document → α → Except ReadError α
  optional : Bool

structure RecordShape (α : Type) where
  name : String
  blank : α
  fields : List (FieldShape α)

namespace FieldShape

variable {α β : Type}

def required (key : String) (shape : Shape β) (set : β → α → α) : FieldShape α :=
  ⟨key, fun origin d r => (shape origin d).map fun x => set x r, false⟩

/-- A field that keeps its value of the blank record where it is absent. -/
def defaulted (key : String) (shape : Shape β) (set : β → α → α) : FieldShape α :=
  ⟨key, fun origin d r => (shape origin d).map fun x => set x r, true⟩

end FieldShape

namespace RecordShape

variable {α : Type}

def field? (shape : RecordShape α) (key : String) : Option (FieldShape α) :=
  shape.fields.find? (·.key == key)

def title (shape : RecordShape α) : String := "struct " ++ shape.name

/-- Reads the members of an object; `seen` are the known keys so far. Unknown members are passed
over, and a known key may come only once. -/
def readMembers (shape : RecordShape α) (origin : Origin) :
    List (Except Fault String × Document) → List String → α → Except ReadError (List String × α)
  | [], seen, r => .ok (seen, r)
  | (key, item) :: rest, seen, r => do
    let k ← Shape.ofFault key
    match shape.field? k with
    | none =>
      Shape.ofFault item.pass
      readMembers shape origin rest seen r
    | some field =>
      if seen.contains k then Shape.refuse (.duplicateField k)
      else readMembers shape origin rest (k :: seen) (← field.read origin item r)

def readItems (shape : RecordShape α) (origin : Origin) (ending : Option Fault) :
    List (FieldShape α) → List Document → Nat → α → Except ReadError (List Document × α)
  | [], items, _, r => .ok (items, r)
  | field :: fields, item :: items, index, r => do
    readItems shape origin ending fields items (index + 1) (← field.read origin item r)
  | field :: fields, [], index, r => do
    Shape.ofFault (Document.ended ending)
    if field.optional then readItems shape origin ending fields [] (index + 1) r
    else Shape.refuse (.invalidLength index
      (shape.title ++ " with " ++ toString shape.fields.length ++ " elements"))

def read (shape : RecordShape α) : Shape α := fun origin d =>
  match d with
  | .object members ending => do
    let (seen, r) ← readMembers shape origin members [] shape.blank
    Shape.ofFault (Document.ended ending)
    match shape.fields.find? fun field => !field.optional && !seen.contains field.key with
    | some field => Shape.refuse (.missingField field.key)
    | none => return r
  | .array items ending => do
    let (left, r) ← readItems shape origin ending shape.fields items 0 shape.blank
    if !left.isEmpty then
      match origin with
      | .text => throw (.fault .malformed)
      | .value => Shape.refuse (.invalidLength items.length "fewer elements in array")
    Shape.ofFault (Document.ended ending)
    return r
  | other => Shape.mismatch shape.title other

end RecordShape

namespace Shape

variable {α : Type}

def ofText (shape : Shape α) (text : String) : Except ReadError α := do
  let (d, complete) := Document.ofText text
  let x ← shape .text d
  if complete then return x else throw (.fault .malformed)

def ofValue (shape : Shape α) (v : Json) : Except ReadError α :=
  shape .value (Document.ofValue v)

end Shape

end ModelForm
