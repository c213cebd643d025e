import ModelForm.Decode.FieldError

/-!
Decoding documents by schemas. An atomic schema reports the first thing that is wrong;
a record decodes every member and reports all errors under the names of the members,
and keeps only what it declares. What is optional may be absent or null and then
contributes nothing. A pattern that cannot be used ends the decoding at once.
-/

namespace ModelForm

/-- The outcome of decoding a part: accepted, rejected for some errors, or ended by a pattern. -/
inductive Verdict (α : Type) where
  | accepted (value : α)
  | rejected (errors : List FieldError)
  | aborted (pattern : InvalidPattern)
  deriving Repr, Inhabited

namespace Verdict

variable {α β : Type}

def map (f : α → β) : Verdict α → Verdict β
  | .accepted v => .accepted (f v)
  | .rejected errors => .rejected errors
  | .aborted p => .aborted p

def toExcept : Verdict α → Except Failure α
  | .accepted v => .ok v
  | .rejected errors => .error (.rejected errors)
  | .aborted p => .error (.invalidPattern p.source)

def join (f : α → β → β) (name : String) (first : Verdict α) (rest : Verdict β) : Verdict β :=
  match first, rest with
  | .aborted p, _ => .aborted p
  | _, .aborted p => .aborted p
  | .accepted v, .accepted w => .accepted (f v w)
  | .accepted _, .rejected es => .rejected es
  | .rejected es, .accepted _ => .rejected (es.map (FieldError.under name))
  | .rejected es, .rejected fs => .rejected (es.map (FieldError.under name) ++ fs)

end Verdict

def requiredMessage : String := "This field is required"

def objectMessage : String := "Expected an object"

def AtomicSchema.judge (a : AtomicSchema) (v : Json) : Verdict (Option Json) :=
  match a.violation v with
  | .error p => .aborted p
  | .ok (some report) => .rejected [FieldError.whole report]
  | .ok none => .accepted (some v)

def Object.contribute (name : String) (v : Option Json) (o : Object) : Object :=
  match v with
  | some v => o.insert name v
  | none => o

mutual

/-- The verdict on a value or its absence; what is accepted without a value contributes nothing. -/
def Schema.judge : Schema → Option Json → Verdict (Option Json)
  | .optional s, v =>
    match v with
    | none => .accepted none
    | some .null => .accepted none
    | some v => s.judge (some v)
  | .unknown, v => .accepted v
  | .atomic a, v =>
    match v with
    | none => .rejected [FieldError.whole requiredMessage]
    | some v => a.judge v
  | .record ms, v =>
    match v with
    | none => .rejected [FieldError.whole requiredMessage]
    | some (.object o) => (Schema.judgeMembers ms o).map fun out => some (.object out)
    | some _ => .rejected [FieldError.whole objectMessage]

def Schema.judgeMembers : List (String × Schema) → Object → Verdict Object
  | [], _ => .accepted []
  | (name, s) :: rest, o =>
    (s.judge (o.get? name)).join (Object.contribute name) name (Schema.judgeMembers rest o)

end

namespace Schema

/-- Decodes a value; what is accepted without a value is null. -/
def decode (s : Schema) (v : Json) : Except Failure Json :=
  (s.judge (some v)).toExcept.map fun out => out.getD .null

def decodeAs {α : Type} (s : Schema) (shape : Shape α) (v : Json) : Except Failure α := do
  let out ← s.decode v
  (shape.ofValue out).mapError .unreadable

end Schema

namespace Members

def validate (ms : Members) (v : Json) : Except Failure Object :=
  match v with
  | .object o => (Schema.judgeMembers ms o).toExcept
  | _ => .error (.rejected [FieldError.whole objectMessage])

def unknownField (ms : Members) (name : String) : Failure := .unknownField name (ms.suggest name)

def onlyMember (name : String) (v : Option Json) : Object := Object.contribute name v []

/-- Decodes one field alone: the record with this member against the object with this value. -/
def validateField (ms : Members) (name : String) (v : Option Json) :
    Except Failure (Option Json) := do
  match ms.pick? name with
  | none => throw (ms.unknownField name)
  | some picked =>
    let out ← picked.validate (.object (onlyMember name v))
    return out.get? name

end Members

end ModelForm
