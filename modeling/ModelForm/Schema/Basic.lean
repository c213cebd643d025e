import ModelForm.Schema.Constraint

/-!
Schemas: what a value may be. A schema is atomic, with constraints in the order of
their attachment, or open to anything, or a record of named members in declared order,
or optional. Members with one name are never added twice.
-/

namespace ModelForm

inductive Kind where
  | string
  | number
  | boolean
  | literal (values : List String)
  deriving DecidableEq, Repr, Inhabited

namespace Kind

def accepts (k : Kind) (v : Json) : Bool :=
  match k, v with
  | .string, .string _ => true
  | .number, .number _ => true
  | .boolean, .bool _ => true
  | .literal values, .string s => values.contains s
  | _, _ => false

def message : Kind → String
  | .string => "Expected a string"
  | .number => "Expected a number"
  | .boolean => "Expected a boolean"
  | .literal values => "Expected one of: " ++ ", ".intercalate values

def isString : Kind → Bool
  | .string => true
  | _ => false

def isNumber : Kind → Bool
  | .number => true
  | _ => false

end Kind

structure AtomicSchema where
  kind : Kind
  message : Option String := none
  constraints : List Constraint := []
  deriving Inhabited

namespace AtomicSchema

def typeReport (a : AtomicSchema) : String := a.message.getD a.kind.message

/-- The report of the first constraint that a value violates. A pattern that cannot be used is met
only if all constraints in front of it hold. -/
def firstViolation (v : Json) : List Constraint → Except InvalidPattern (Option String)
  | [] => .ok none
  | c :: rest =>
    match c.violation v with
    | .error e => .error e
    | .ok (some report) => .ok (some report)
    | .ok none => firstViolation v rest

theorem firstViolation_cons (v : Json) (c : Constraint) (rest : List Constraint) :
    firstViolation v (c :: rest) = match c.requirement.holds v with
      | .error p => .error p
      | .ok true => firstViolation v rest
      | .ok false => .ok (some c.report) := by
  rw [firstViolation, Constraint.violation]
  cases c.requirement.holds v with
  | error p => rfl
  | ok ok => cases ok <;> rfl

def violation (a : AtomicSchema) (v : Json) : Except InvalidPattern (Option String) :=
  if a.kind.accepts v then firstViolation v a.constraints else .ok (some a.typeReport)

end AtomicSchema

inductive Schema where
  | atomic (schema : AtomicSchema)
  | unknown
  | record (members : List (String × Schema))
  | optional (inner : Schema)
  deriving Inhabited

/-- Induction over schemas: a property of all members of a record is one of the record. -/
@[induction_eliminator]
theorem Schema.memberInduction {motive : Schema → Prop} (atomic : ∀ a, motive (.atomic a))
    (unknown : motive .unknown)
    (record : ∀ members, (∀ m ∈ members, motive m.2) → motive (.record members))
    (optional : ∀ inner, motive inner → motive (.optional inner)) : ∀ s, motive s
  | .atomic a => atomic a
  | .unknown => unknown
  | .record members =>
    record members fun m hm =>
      have hsize : sizeOf m.2 < sizeOf members := by
        have hmember := List.sizeOf_lt_of_mem hm
        have hpair : sizeOf m = 1 + sizeOf m.1 + sizeOf m.2 := rfl
        omega
      memberInduction atomic unknown record optional m.2
  | .optional inner => optional inner (memberInduction atomic unknown record optional inner)
termination_by s => sizeOf s

abbrev Members := List (String × Schema)

namespace Members

def get? (ms : Members) (name : String) : Option Schema :=
  match ms with
  | [] => none
  | (n, s) :: rest => if n = name then some s else get? rest name

/-- Puts a member in the place of the one with its name, or at the end, and gives the replaced
schema along. -/
def exchange (ms : Members) (name : String) (schema : Schema) : Option Schema × Members :=
  match ms with
  | [] => (none, [(name, schema)])
  | (n, s) :: rest =>
    if n = name then (some s, (n, schema) :: rest)
    else
      let (replaced, rest) := exchange rest name schema
      (replaced, (n, s) :: rest)

def insert (ms : Members) (name : String) (schema : Schema) : Members :=
  (ms.exchange name schema).2

def ofList (pairs : List (String × Schema)) : Members :=
  pairs.foldl (fun ms pair => ms.insert pair.1 pair.2) []

def contains (ms : Members) (name : String) : Bool := (ms.get? name).isSome

def names (ms : Members) : List String := ms.map Prod.fst

def pick? (ms : Members) (name : String) : Option Members :=
  (ms.get? name).map fun s => [(name, s)]

theorem exchange_fst (ms : Members) (name : String) (schema : Schema) :
    (ms.exchange name schema).1 = ms.get? name := by
  induction ms with
  | nil => rfl
  | cons m rest ih =>
    obtain ⟨n, s⟩ := m
    by_cases h : n = name <;> simp [exchange, get?, h, ih]

theorem get?_insert_self (ms : Members) (name : String) (schema : Schema) :
    (ms.insert name schema).get? name = some schema := by
  induction ms with
  | nil => simp [insert, exchange, get?]
  | cons m rest ih =>
    obtain ⟨n, s⟩ := m
    by_cases h : n = name
    · simp [insert, exchange, get?, h]
    · simpa [insert, exchange, get?, h] using ih

theorem get?_insert_of_ne (ms : Members) {name other : String} (schema : Schema)
    (h : other ≠ name) : (ms.insert name schema).get? other = ms.get? other := by
  induction ms with
  | nil => simp [insert, exchange, get?, Ne.symm h]
  | cons m rest ih =>
    obtain ⟨n, s⟩ := m
    by_cases hn : n = name
    · subst hn
      simp [insert, exchange, get?, Ne.symm h]
    · by_cases ho : n = other
      · subst ho
        simp [insert, exchange, get?, hn]
      · simpa [insert, exchange, get?, hn, ho] using ih

end Members

namespace Schema

def string (message : Option String) : Schema := .atomic { kind := .string, message }

def number (message : Option String) : Schema := .atomic { kind := .number, message }

def boolean (message : Option String) : Schema := .atomic { kind := .boolean, message }

def literal (values : List String) (message : Option String) : Schema :=
  .atomic { kind := .literal values, message }

def kind? : Schema → Option Kind
  | .atomic a => some a.kind
  | .optional s => s.kind?
  | _ => none

def isString (s : Schema) : Bool := s.kind?.any Kind.isString

def isNumber (s : Schema) : Bool := s.kind?.any Kind.isNumber

def isOptional : Schema → Bool
  | .optional _ => true
  | _ => false

def constraints : Schema → List Constraint
  | .atomic a => a.constraints
  | .optional s => s.constraints
  | _ => []

def members? : Schema → Option Members
  | .record ms => some ms
  | _ => none

end Schema

end ModelForm
