import ModelForm.Schema.Basic

/-!
Refining schemas. A constraint is appended where it fits the kind of the schema and
changes nothing elsewhere; no refinement removes or replaces one. Refinements reach
into optional schemas, and being optional twice is being optional once.
-/

namespace ModelForm.Schema

/-- Appends a constraint to an atomic schema whose kind is suitable. -/
def constrain (suits : Kind → Bool) (c : Constraint) : Schema → Schema
  | .atomic a =>
    if suits a.kind then .atomic { a with constraints := a.constraints ++ [c] } else .atomic a
  | .optional s => .optional (constrain suits c s)
  | other => other

def suited : Requirement → Kind → Bool
  | .minLength _ => Kind.isString
  | .maxLength _ => Kind.isString
  | .range _ _ => Kind.isNumber
  | .min _ => Kind.isNumber
  | .max _ => Kind.isNumber
  | .pattern _ => Kind.isString
  | .email => Kind.isString
  | .url => Kind.isString
  | .custom _ => fun _ => true

def require (s : Schema) (r : Requirement) (message : Option String) : Schema :=
  s.constrain (suited r) ⟨r, message⟩

def orAbsent : Schema → Schema
  | .optional s => .optional s
  | s => .optional s

theorem orAbsent_orAbsent (s : Schema) : s.orAbsent.orAbsent = s.orAbsent := by
  cases s <;> rfl

theorem orAbsent_constrain (suits : Kind → Bool) (c : Constraint) (s : Schema) :
    (s.constrain suits c).orAbsent = s.orAbsent.constrain suits c := by
  cases s with
  | atomic a => by_cases h : suits a.kind <;> simp [constrain, orAbsent, h]
  | unknown => rfl
  | record ms => rfl
  | optional s => rfl

/-- A requirement that does not suit the kind of a schema leaves it as it is. -/
theorem require_eq_self (s : Schema) (r : Requirement) (message : Option String)
    (h : s.kind?.any (suited r) = false) : s.require r message = s := by
  unfold require
  fun_induction constrain (suited r) ⟨r, message⟩ s <;> simp_all [kind?]

end ModelForm.Schema
