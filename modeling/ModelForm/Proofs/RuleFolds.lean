import ModelForm.Proofs.Compiled
import ModelForm.Proofs.Places
import Mathlib.Data.List.Forall2

/-!
What folding rules onto a schema does to it. Each rule that fits adds one constraint behind
those that are there, with the argument and the message of the rule; every other rule is
passed over. Nothing else changes: not the kind, nor the message for other values, nor the
members of a record, nor what is optional. So whether a rule fits can be told from the
schema alone, whatever rules came before it.
-/

namespace ModelForm

namespace Kind

def domain : Kind → Domain
  | .string => .text
  | .number => .number
  | .boolean => .boolean
  | .literal values => .choice values

theorem kind?_domain (k : Kind) : k.domain.kind? = some k := by
  cases k <;> rfl

end Kind

namespace Schema

def layers : Schema → Nat
  | .optional s => s.layers + 1
  | _ => 0

def typeReport? : Schema → Option String
  | .atomic a => some a.typeReport
  | .optional s => s.typeReport?
  | _ => none

def withConstraints (cs : List Constraint) : Schema → Schema
  | .atomic a => .atomic { a with constraints := cs }
  | .optional s => .optional (s.withConstraints cs)
  | s => s

section Parts

variable (cs : List Constraint) (s : Schema)

theorem layers_withConstraints : (s.withConstraints cs).layers = s.layers := by
  induction s with
  | optional s ih => exact congrArg Nat.succ ih
  | _ => rfl

theorem kind?_withConstraints : (s.withConstraints cs).kind? = s.kind? := by
  induction s with
  | optional s ih => exact ih
  | _ => rfl

theorem typeReport?_withConstraints : (s.withConstraints cs).typeReport? = s.typeReport? := by
  induction s with
  | optional s ih => exact ih
  | _ => rfl

theorem members?_core_withConstraints :
    (s.withConstraints cs).core.members? = s.core.members? := by
  induction s with
  | optional s ih => exact ih
  | _ => rfl

end Parts

end Schema

namespace Rule

/-- Whether a rule is one for the kind of a schema: a rule about lengths, patterns or addresses for
texts, one about bounds for numbers, a known check for any kind, each with an argument that makes
sense. -/
def fits (checks : Checks) (s : Schema) (r : Rule) : Bool :=
  s.kind?.any fun k => r.applies checks k.domain

def Yields (checks : Checks) (r : Rule) (c : Constraint) : Prop :=
  r.Demands checks c.requirement ∧ c.message = r.message

variable (checks : Checks)

/-- A rule has a constraint for a kind exactly if it applies to the values of the kind. -/
theorem constraint?_of_applies (r : Rule) (k : Kind) :
    r.applies checks k.domain = false ∧ r.constraint? checks k = none ∨
      r.applies checks k.domain = true ∧
        ∃ c, r.constraint? checks k = some c ∧ r.Yields checks c := by
  unfold constraint?
  cases hq : r.requirement? checks with
  | none => exact Or.inl ⟨applies_of_requirement?_none checks r hq k.domain, rfl⟩
  | some q =>
    have hdemands := demands_of_requirement? checks r q hq
    have hsuited := suited_eq_applies checks r q hdemands k.domain k k.kind?_domain
    cases happlies : r.applies checks k.domain with
    | false => exact Or.inl ⟨rfl, by simp [hsuited, happlies]⟩
    | true => exact Or.inr ⟨rfl, ⟨q, r.message⟩, by simp [hsuited, happlies], hdemands, rfl⟩

/-- Whether a field is required is no matter of its values. -/
theorem fits_of_required (s : Schema) (r : Rule) (h : r.kind = .required) :
    r.fits checks s = false := by
  unfold fits
  cases s.kind? with
  | none => rfl
  | some k => cases k <;> simp [applies, h, Kind.domain]

/-- The rules that apply to a kind have one constraint each, in their order. -/
theorem forall₂_constraints (k : Kind) (rules : List Rule) :
    List.Forall₂ (Yields checks) (rules.filter fun r => r.applies checks k.domain)
      (rules.filterMap (constraint? checks k)) := by
  induction rules with
  | nil => exact .nil
  | cons r rest ih =>
    rcases constraint?_of_applies checks r k with ⟨happlies, hnone⟩ | ⟨happlies, c, hsome, hc⟩
    · rwa [List.filter_cons_of_neg (by simp [happlies]), List.filterMap_cons_none hnone]
    · rw [List.filter_cons_of_pos happlies, List.filterMap_cons_some hsome]
      exact .cons hc ih

end Rule

namespace Schema

variable (checks : Checks)

theorem applyRule_optional (s : Schema) (r : Rule) :
    (Schema.optional s).applyRule checks r = .optional (s.applyRule checks r) := by
  rw [applyRule_eq, applyRule_eq]
  split <;> rfl

theorem applyRules_optional (s : Schema) (rules : List Rule) :
    (Schema.optional s).applyRules checks rules = .optional (s.applyRules checks rules) := by
  induction rules generalizing s with
  | nil => rfl
  | cons r rest ih =>
    show ((Schema.optional s).applyRule checks r).applyRules checks rest = _
    rw [applyRule_optional, ih]
    rfl

def added (s : Schema) (rules : List Rule) : List Constraint :=
  match s.kind? with
  | some k => rules.filterMap (Rule.constraint? checks k)
  | none => []

/-- Rules reach the atomic part of a schema and add their constraints there. -/
theorem applyRules_eq (s : Schema) (rules : List Rule) :
    s.applyRules checks rules = s.withConstraints (s.constraints ++ s.added checks rules) := by
  induction s with
  | atomic a => exact applyRules_atomic checks a rules
  | unknown => exact applyRules_of_kind?_none checks .unknown rfl rules
  | record ms => exact applyRules_of_kind?_none checks (.record ms) rfl rules
  | optional s ih => exact (applyRules_optional checks s rules).trans (congrArg optional ih)

theorem constraints_applyRules (s : Schema) (rules : List Rule) :
    (s.applyRules checks rules).constraints = s.constraints ++ s.added checks rules := by
  rw [applyRules_eq]
  induction s with
  | optional s ih => exact ih
  | _ => rfl

theorem kind?_applyRules (s : Schema) (rules : List Rule) :
    (s.applyRules checks rules).kind? = s.kind? := by
  rw [applyRules_eq, kind?_withConstraints]

/-- The rules that fit have one of the added constraints each, in their order. -/
theorem forall₂_added (s : Schema) (rules : List Rule) :
    List.Forall₂ (Rule.Yields checks) (rules.filter (Rule.fits checks s)) (s.added checks rules) := by
  unfold added Rule.fits
  cases s.kind? with
  | some k => exact Rule.forall₂_constraints checks k rules
  | none => simp

/-- Rules that do not fit add nothing. -/
theorem added_filter_fits (s : Schema) (rules : List Rule) :
    s.added checks (rules.filter (Rule.fits checks s)) = s.added checks rules := by
  unfold added Rule.fits
  cases s.kind? with
  | none => rfl
  | some k =>
    simp only [Option.any_some, List.filterMap_filter]
    apply List.filterMap_congr
    intro r _
    rcases Rule.constraint?_of_applies checks r k with ⟨happlies, hnone⟩ | ⟨happlies, _⟩
    · simp [happlies, hnone]
    · simp [happlies]

theorem applyRules_filter_fits (s : Schema) (rules : List Rule) :
    s.applyRules checks (rules.filter (Rule.fits checks s)) = s.applyRules checks rules := by
  rw [applyRules_eq, applyRules_eq, added_filter_fits]

/-- A rule that does not fit is passed over. -/
theorem applyRule_of_not_fits (s : Schema) (r : Rule) (h : r.fits checks s = false) :
    s.applyRule checks r = s := by
  have hfold := applyRules_filter_fits checks s [r]
  rw [List.filter_cons_of_neg (by simp [h])] at hfold
  exact hfold.symm

/-- No rule changes which rules fit. -/
theorem fits_applyRules (s : Schema) (rules : List Rule) (r : Rule) :
    r.fits checks (s.applyRules checks rules) = r.fits checks s := by
  rw [Rule.fits, Rule.fits, kind?_applyRules]

/-- Folding rules onto a schema keeps what is optional, the kind, the message for other values and
the members. To the constraints it adds, in the order of the rules, exactly one for each rule that
fits, with the argument and the message of the rule. Which rules fit is a matter of the schema, not
of the rules in front, and every other rule leaves the schema as it is. -/
theorem applyRules_appends (s : Schema) (rules : List Rule) :
    let t := s.applyRules checks rules
    (t.layers = s.layers ∧ t.kind? = s.kind? ∧ t.typeReport? = s.typeReport? ∧
      t.core.members? = s.core.members?) ∧
    (∃ new, t = s.withConstraints (s.constraints ++ new) ∧
      t.constraints = s.constraints ++ new ∧
      List.Forall₂ (Rule.Yields checks) (rules.filter (Rule.fits checks s)) new) ∧
    (∀ r : Rule, r.fits checks t = r.fits checks s) ∧
    (∀ r : Rule, r.fits checks s = false → s.applyRule checks r = s ∧ t.applyRule checks r = t) ∧
    ∀ r : Rule, r.kind = .required → r.fits checks s = false := by
  intro t
  have heq : t = s.withConstraints (s.constraints ++ s.added checks rules) :=
    applyRules_eq checks s rules
  have hfits : ∀ r : Rule, r.fits checks t = r.fits checks s := fits_applyRules checks s rules
  refine ⟨?_, ⟨s.added checks rules, heq, constraints_applyRules checks s rules,
    forall₂_added checks s rules⟩, hfits, ?_, Rule.fits_of_required checks s⟩
  · rw [heq]
    exact ⟨layers_withConstraints _ s, kind?_withConstraints _ s, typeReport?_withConstraints _ s,
      members?_core_withConstraints _ s⟩
  · intro r hr
    exact ⟨applyRule_of_not_fits checks s r hr,
      applyRule_of_not_fits checks t r ((hfits r).trans hr)⟩

/-- An optional text of two characters or more, and six rules: three of them fit, the bound is one
for numbers, and nobody knows the check. -/
theorem applyRules_appends_address :
    let s : Schema := ((Schema.string (some "No text")).require (.minLength 2) none).orAbsent
    let mandatory : Rule := ⟨.required, none, none⟩
    let lower : Rule := ⟨.pattern, some (.text "^[a-z]"), none⟩
    let bound : Rule := ⟨.max, some (.number (.finite false 3)), none⟩
    let check : Rule := ⟨.custom, some (.text "short"), none⟩
    let address : Rule := ⟨.email, none, some "No address"⟩
    let rules : List Rule := [mandatory, lower, bound, check, address, lower]
    let pattern : Constraint := ⟨.pattern (Pattern.ofText "^[a-z]"), none⟩
    let t := s.applyRules {} rules
    rules.filter (Rule.fits {} s) = [lower, address, lower] ∧
      t.constraints = [⟨.minLength 2, none⟩, pattern, ⟨.email, some "No address"⟩, pattern] ∧
      t.layers = 1 ∧ t.kind? = some .string ∧ t.typeReport? = some "No text" ∧
      t.applyRule {} mandatory = t ∧ t.applyRule {} bound = t ∧ t.applyRule {} check = t := by
  intro s mandatory lower bound check address rules pattern t
  obtain ⟨⟨hlayers, hkind, hreport, -⟩, -, -, hother, hrequired⟩ :=
    applyRules_appends {} s rules
  exact ⟨rfl, rfl, hlayers, hkind, hreport, (hother mandatory (hrequired mandatory rfl)).2,
    (hother bound rfl).2, (hother check rfl).2⟩

end Schema

end ModelForm
