import ModelForm.Proofs.AddedRules
import ModelForm.Proofs.RuleFolds
import ModelForm.Proofs.Stability

/-!
Sequences of refinements. Whatever a refinement does to a schema it does inside of what is
optional, so being made optional commutes with every other step and counts once. A sequence
comes to the steps other than that one, in their order, and to whether that one is among
them; where in the sequence it stands does not matter. So a schema that is optional before
it is refined accepts an absent value and null whatever is added later, and judges every
other value as the refined schema does.
-/

namespace ModelForm

inductive Refinement where
  | require (requirement : Requirement) (message : Option String)
  | rules (checks : Checks) (rules : List Rule)
  | optional

def Refinement.isOptional : Refinement → Bool
  | .optional => true
  | _ => false

namespace Schema

def refine (s : Schema) : Refinement → Schema
  | .require requirement message => s.require requirement message
  | .rules checks rules => s.applyRules checks rules
  | .optional => s.orAbsent

def refineAll (s : Schema) (steps : List Refinement) : Schema := steps.foldl refine s

theorem orAbsent_of_isOptional (s : Schema) (h : s.isOptional = true) : s.orAbsent = s := by
  cases s with
  | optional s => rfl
  | _ => simp [isOptional] at h

theorem orAbsent_applyRules (checks : Checks) (s : Schema) (rules : List Rule) :
    (s.applyRules checks rules).orAbsent = s.orAbsent.applyRules checks rules := by
  induction rules generalizing s with
  | nil => rfl
  | cons r rest ih =>
    show ((s.applyRule checks r).applyRules checks rest).orAbsent =
      (s.orAbsent.applyRule checks r).applyRules checks rest
    rw [ih, orAbsent_applyRule]

/-- Every step reaches into an optional schema. -/
theorem orAbsent_refine (s : Schema) (step : Refinement) :
    (s.refine step).orAbsent = s.orAbsent.refine step := by
  cases step with
  | require requirement message => exact orAbsent_constrain _ _ s
  | rules checks rules => exact orAbsent_applyRules checks s rules
  | optional => rfl

theorem orAbsent_refineAll (s : Schema) (steps : List Refinement) :
    (s.refineAll steps).orAbsent = s.orAbsent.refineAll steps := by
  induction steps generalizing s with
  | nil => rfl
  | cons step rest ih =>
    show ((s.refine step).refineAll rest).orAbsent = (s.orAbsent.refine step).refineAll rest
    rw [ih, orAbsent_refine]

/-- A sequence comes to its other steps on the schema, made optional first if one of the steps does
so. -/
theorem refineAll_eq (s : Schema) (steps : List Refinement) :
    s.refineAll steps = (if steps.any Refinement.isOptional then s.orAbsent else s).refineAll
      (steps.filter fun step => !step.isOptional) := by
  induction steps generalizing s with
  | nil => rfl
  | cons step rest ih =>
    show (s.refine step).refineAll rest = _
    rw [ih]
    cases hstep : step.isOptional with
    | true =>
      -- the rest of the sequence may say so once more
      have hrefine : s.refine step = s.orAbsent := by
        cases step with
        | optional => rfl
        | _ => simp [Refinement.isOptional] at hstep
      rw [hrefine, orAbsent_orAbsent, ite_self, List.any_cons, hstep, Bool.true_or, if_pos rfl,
        List.filter_cons_of_neg (by simp [hstep])]
    | false =>
      rw [List.any_cons, hstep, Bool.false_or, List.filter_cons_of_pos (by simp [hstep])]
      split
      · rw [orAbsent_refine]
        rfl
      · rfl

/-- Sequences with the same other steps that both make a schema optional, or both do not, come to
the same. -/
theorem refineAll_congr (s : Schema) (steps moved : List Refinement)
    (hothers : (moved.filter fun step => !step.isOptional) =
      steps.filter fun step => !step.isOptional)
    (hany : moved.any Refinement.isOptional = steps.any Refinement.isOptional) :
    s.refineAll moved = s.refineAll steps := by
  rw [refineAll_eq s moved, refineAll_eq s steps, hothers, hany]

theorem layers_orAbsent (s : Schema) : s.orAbsent.layers = max s.layers 1 := by
  cases s with
  | optional s => exact (Nat.max_eq_left (Nat.succ_pos s.layers)).symm
  | _ => rfl

theorem layers_constrain (suits : Kind → Bool) (c : Constraint) (s : Schema) :
    (s.constrain suits c).layers = s.layers := by
  fun_induction constrain suits c s <;> simp_all [layers]

/-- Only being made optional adds a layer, and only to a schema that has none. -/
theorem layers_refineAll (s : Schema) (steps : List Refinement) :
    (s.refineAll steps).layers =
      if steps.any Refinement.isOptional then max s.layers 1 else s.layers := by
  induction steps generalizing s with
  | nil => rfl
  | cons step rest ih =>
    show ((s.refine step).refineAll rest).layers = _
    rw [ih]
    cases step with
    | require requirement message =>
      rw [refine, Schema.require, layers_constrain]
      rfl
    | rules checks rules =>
      rw [refine, applyRules_eq, layers_withConstraints]
      rfl
    | optional =>
      rw [refine, layers_orAbsent, List.any_cons]
      simp [Refinement.isOptional]

theorem judge_orAbsent_absent (s : Schema) (v : Option Json) (h : v = none ∨ v = some .null) :
    s.orAbsent.judge v = .accepted none := by
  cases s <;> exact judge_optional_absent _ v h

theorem judge_orAbsent_present (s : Schema) (v : Option Json) (hnone : v ≠ none)
    (hnull : v ≠ some .null) : s.orAbsent.judge v = s.judge v := by
  cases s with
  | optional s => rfl
  | _ => exact judge_optional_present _ v hnone hnull

/-- Being made optional can be moved in a sequence of refinements: to the end, to the front, and to
further places if it is in one already. It never adds a second layer. So an optional schema accepts
an absent value and null whatever refines it, a pattern that cannot be used included, and every
other value comes out as with the refined schema. -/
theorem refineAll_optional_anywhere (s : Schema) (steps : List Refinement) :
    let options := steps.filter Refinement.isOptional
    let others := steps.filter fun step => !step.isOptional
    let refined := s.refineAll steps
    let excused := s.orAbsent.refineAll steps
    s.refineAll (others ++ options) = refined ∧ s.refineAll (options ++ others) = refined ∧
    (∀ more, (more.filter fun step => !step.isOptional) = others →
      steps.any Refinement.isOptional = true → more.any Refinement.isOptional = true →
        s.refineAll more = refined) ∧
    ((∀ t : Schema, t.isOptional = true → t.orAbsent = t) ∧
      refined.layers = if steps.any Refinement.isOptional then max s.layers 1 else s.layers) ∧
    ((∀ v, v = none ∨ v = some .null → excused.judge v = .accepted none) ∧
      ∀ v, v ≠ none → v ≠ some .null → excused.judge v = refined.judge v) ∧
    excused.decode .null = .ok .null ∧
      ∀ v, v ≠ .null → excused.decode v = refined.decode v := by
  intro options others refined excused
  have hexcused : excused = refined.orAbsent := (orAbsent_refineAll s steps).symm
  have habsent : ∀ v, v = none ∨ v = some .null → excused.judge v = .accepted none := by
    rw [hexcused]
    exact judge_orAbsent_absent refined
  have hpresent : ∀ v, v ≠ none → v ≠ some .null → excused.judge v = refined.judge v := by
    rw [hexcused]
    exact judge_orAbsent_present refined
  refine ⟨?_, ?_, ?_, ⟨orAbsent_of_isOptional, layers_refineAll s steps⟩, ⟨habsent, hpresent⟩,
    ?_, ?_⟩
  · exact refineAll_congr s steps _ (by simp [others, options, List.filter_filter])
      (by simp [others, options, List.any_filter])
  · exact refineAll_congr s steps _ (by simp [others, options, List.filter_filter])
      (by simp [others, options, List.any_filter])
  · intro more hothers hsteps hmore
    exact refineAll_congr s steps more hothers (hmore.trans hsteps.symm)
  · exact (decode_eq_ok_iff excused .null .null).mpr ⟨none, habsent _ (Or.inr rfl), rfl⟩
  · intro v hv
    have hjudge := hpresent (some v) (by simp) (by simpa using hv)
    unfold decode
    rw [hjudge]

/-- A text with a least length and a pattern that cannot be used. Made optional between the two it is
the same schema as in any other order. Made optional before them it accepts null, which the text
itself does not; it rejects what is too short, and a longer text ends the decoding. -/
theorem refineAll_optional_anywhere_text :
    let s : Schema := .string none
    let long : Refinement := .require (.minLength 2) none
    let broken : Refinement := .rules {} [⟨.pattern, some (.text "("), none⟩]
    let mixed := s.refineAll [long, .optional, broken]
    let excused := s.orAbsent.refineAll [long, broken]
    s.refineAll [long, broken, .optional] = mixed ∧ s.refineAll [.optional, long, broken] = mixed ∧
      s.refineAll [.optional, long, .optional, broken, .optional] = mixed ∧ mixed.layers = 1 ∧
      (s.refineAll [long, broken]).decode .null =
        .error (.rejected [FieldError.whole "Expected a string"]) ∧
      excused.decode .null = .ok .null ∧ excused.judge none = .accepted none ∧
      excused.decode (.string "x") =
        .error (.rejected [FieldError.whole "Must be at least 2 characters"]) ∧
      excused.decode (.string "xy") = .error (.invalidPattern "(") := by
  intro s long broken mixed excused
  obtain ⟨hend, hfront, hmore, ⟨-, hlayers⟩, -⟩ :=
    refineAll_optional_anywhere s [long, .optional, broken]
  obtain ⟨-, -, -, -, ⟨habsent, -⟩, hnull, hother⟩ := refineAll_optional_anywhere s [long, broken]
  exact ⟨hend, hfront, hmore _ rfl rfl rfl, hlayers, rfl, hnull, habsent none (Or.inl rfl),
    (hother (.string "x") (by simp)).trans rfl, (hother (.string "xy") (by simp)).trans rfl⟩

end Schema

end ModelForm
