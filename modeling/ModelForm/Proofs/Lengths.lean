import ModelForm.Proofs.RuleSets
import Mathlib.Algebra.Order.Field.Basic
import Mathlib.Algebra.Order.Field.Rat
import Mathlib.Data.Nat.Cast.Order.Field
import Mathlib.Tactic.NormNum

/-!
What the number of a length rule means. A bound may be any finite number: a text is accepted
exactly if its length is on the right side of the exact value, although the rule keeps a whole
number of 64 bits. Moving the bound to a whole number changes nothing because lengths are whole,
and cutting it off changes nothing for texts that are shorter than the cut. A negative greatest
length is no rule at all.
-/

namespace ModelForm

namespace Binary64

def rational? : Binary64 → Option ℚ
  | .finite s u => some ((signedUnits s u : ℚ) / (unitsPerOne : ℚ))
  | _ => none

section Rational

variable (x : Binary64) (v : ℚ) (h : x.rational? = some v)
include h

theorem exists_of_rational? :
    ∃ s u, x = .finite s u ∧ v = (signedUnits s u : ℚ) / (unitsPerOne : ℚ) := by
  cases x with
  | finite s u => exact ⟨s, u, rfl, (Option.some.inj h).symm⟩
  | infinite s => cases h
  | nan => cases h

theorem isFinite_of_rational? : x.isFinite = true := by
  obtain ⟨s, u, rfl, -⟩ := exists_of_rational? x v h
  rfl

theorem atMost_iff_le (n : ℕ) : x.atMost n = true ↔ v ≤ n := by
  obtain ⟨s, u, rfl, rfl⟩ := exists_of_rational? x v h
  have hpos : (0 : ℚ) < (unitsPerOne : ℚ) := Nat.cast_pos.mpr unitsPerOne_pos
  rw [atMost, decide_eq_true_eq, div_le_iff₀ hpos]
  exact_mod_cast Iff.rfl

theorem atLeast_iff_le (n : ℕ) : x.atLeast n = true ↔ n ≤ v := by
  obtain ⟨s, u, rfl, rfl⟩ := exists_of_rational? x v h
  have hpos : (0 : ℚ) < (unitsPerOne : ℚ) := Nat.cast_pos.mpr unitsPerOne_pos
  rw [atLeast, decide_eq_true_eq, le_div_iff₀ hpos]
  exact_mod_cast Iff.rfl

end Rational

end Binary64

/-- A text has one unit for each character and one more for those beyond the first 65536. -/
theorem Text.length16_eq (s : String) :
    length16 s = s.length + s.toList.countP fun c => decide (0x10000 ≤ c.toNat) := by
  rw [length16, ← String.length_toList]
  induction s.toList with
  | nil => rfl
  | cons c rest ih =>
    rw [List.foldr_cons, ih, List.length_cons, List.countP_cons, units]
    simp only [decide_eq_true_eq]
    split_ifs <;> omega

namespace Rule

/-- What a length rule requires if its bound is not cut off at 64 bits. -/
def uncutRequirement? (r : Rule) : Option Requirement :=
  match r.kind with
  | .minLength => (r.number?.bind Binary64.ceilNat?).map .minLength
  | .maxLength => (r.number?.bind Binary64.floorNat?).map .maxLength
  | _ => none

theorem holds_minLength_cut (s : String) (hs : Text.length16 s < lastLength) (least : ℕ) :
    (Requirement.minLength (min least lastLength)).holds (.string s) =
      (Requirement.minLength least).holds (.string s) := by
  refine congrArg Except.ok (decide_eq_decide.mpr ?_)
  rw [min_le_iff]
  exact or_iff_left (not_le.mpr hs)

theorem holds_maxLength_cut (s : String) (hs : Text.length16 s < lastLength) (most : ℕ) :
    (Requirement.maxLength (min most lastLength)).holds (.string s) =
      (Requirement.maxLength most).holds (.string s) := by
  refine congrArg Except.ok (decide_eq_decide.mpr ?_)
  rw [le_min_iff]
  exact and_iff_left hs.le

/-- Cutting off the bound of a length rule changes nothing for texts that are short enough. -/
theorem holds_requirement?_cut (checks : Checks) (r : Rule)
    (hkind : r.kind = .minLength ∨ r.kind = .maxLength) (s : String)
    (hs : Text.length16 s < lastLength) :
    (r.requirement? checks).map (Requirement.holds (.string s)) =
      r.uncutRequirement?.map (Requirement.holds (.string s)) := by
  rcases hkind with hkind | hkind
  · simp only [requirement?, uncutRequirement?, hkind, Option.map_map]
    exact congrArg (Option.map · _) (funext fun least => holds_minLength_cut s hs least)
  · simp only [requirement?, uncutRequirement?, hkind, Option.map_map]
    exact congrArg (Option.map · _) (funext fun most => holds_maxLength_cut s hs most)

end Rule

namespace Field

def unruled (f : Field) : Field := { f with type := { f.type with rules := [] }, rules := [] }

/-- A value of the domain of a field with one rule is rejected for this rule or accepted. -/
theorem verdict_of_lone_rule (c : Compiler) (f : Field) (r : Rule) (hrules : f.allRules = [r])
    (v : Json) (hcontains : f.type.domain.contains v = true) (hnull : v ≠ .null) (ok : Bool)
    (hholds : r.holds c.checks v = .ok ok) :
    f.verdict c (some v) = if r.applies c.checks f.type.domain && !ok then
      .rejected [FieldError.whole r.report] else .accepted (some v) := by
  have hexcused : f.excused (some v) = false := by cases v <;> simp_all [excused]
  have hbroken : f.broken? c.checks v =
      if r.applies c.checks f.type.domain && !ok then some r else none := by
    simp only [broken?, hrules, List.find?_singleton, Rule.isBroken, hholds]
  unfold verdict unusable? complaint? kept
  rw [hexcused]
  cases hfails : r.applies c.checks f.type.domain && !ok <;>
    simp [hbroken, hfails, hcontains, Rule.unusable?, hholds, Domain.outside?]

end Field

namespace Compiler

variable (c : Compiler) (f : Field)

/-- The decision on a value of the domain of a field with one rule. -/
theorem decode_of_lone_rule (r : Rule) (hrules : f.allRules = [r]) (v : Json)
    (hcontains : f.type.domain.contains v = true) (hnull : v ≠ .null) (ok : Bool)
    (hholds : r.holds c.checks v = .ok ok) :
    (c.compileField f).decode v = if r.applies c.checks f.type.domain && !ok then
      .error (.rejected [FieldError.whole r.report]) else .ok v := by
  rw [Schema.decode, judge_compileField,
    Field.verdict_of_lone_rule c f r hrules v hcontains hnull ok hholds]
  cases r.applies c.checks f.type.domain && !ok <;> rfl

/-- A rule that requires nothing might as well not be there. -/
theorem compileField_of_lone_rule (r : Rule) (hrules : f.allRules = [r])
    (hnone : r.requirement? c.checks = none) : c.compileField f = c.compileField f.unruled := by
  have hfold : ∀ s : Schema, s.applyRules c.checks [r] = s := by
    intro s
    show s.applyRule c.checks r = s
    rw [Schema.applyRule_eq, hnone]
  have hbase : c.baseSchema f.unruled.type = c.baseSchema f.type := rfl
  have hno : f.unruled.allRules = [] := rfl
  unfold compileField
  rw [hrules, hfold, hbase, hno]
  rfl

section Text

variable (htext : f.type.domain = .text) (x : Binary64) (v : ℚ) (hx : x.rational? = some v)
  (message : Option String) (s : String)
include htext hx

/-- A least length accepts the texts that are at least so long. -/
theorem decode_of_minLength (hs : Text.length16 s < Rule.lastLength)
    (hrules : f.allRules = [⟨.minLength, some (.number x), message⟩]) :
    (c.compileField f).decode (.string s) = if v ≤ Text.length16 s then .ok (.string s) else
      .error (.rejected
        [FieldError.whole (Rule.report ⟨.minLength, some (.number x), message⟩)]) := by
  have hcontains : f.type.domain.contains (.string s) = true := by rw [htext]; rfl
  have happlies : Rule.applies c.checks f.type.domain
      ⟨.minLength, some (.number x), message⟩ = true := by
    rw [htext]
    exact x.isFinite_of_rational? v hx
  have hatMost := x.atMost_iff_le v hx (Text.length16 s)
  have hshort : ¬ Rule.lastLength ≤ Text.length16 s := not_le.mpr hs
  rw [decode_of_lone_rule c f _ hrules _ hcontains (by simp) _ rfl, happlies]
  by_cases hv : v ≤ Text.length16 s <;> simp_all

/-- A greatest length that is not negative accepts the texts that are at most so long. -/
theorem decode_of_maxLength (hs : Text.length16 s < Rule.lastLength)
    (hrules : f.allRules = [⟨.maxLength, some (.number x), message⟩]) (hv : 0 ≤ v) :
    (c.compileField f).decode (.string s) = if Text.length16 s ≤ v then .ok (.string s) else
      .error (.rejected
        [FieldError.whole (Rule.report ⟨.maxLength, some (.number x), message⟩)]) := by
  have hcontains : f.type.domain.contains (.string s) = true := by rw [htext]; rfl
  have happlies : Rule.applies c.checks f.type.domain
      ⟨.maxLength, some (.number x), message⟩ = true := by
    have hbound : x.atLeast 0 = true := (x.atLeast_iff_le v hx 0).mpr (by simpa using hv)
    rw [htext]
    show (x.isFinite && x.atLeast 0) = true
    rw [x.isFinite_of_rational? v hx, hbound, Bool.and_self]
  have hatLeast := x.atLeast_iff_le v hx (Text.length16 s)
  rw [decode_of_lone_rule c f _ hrules _ hcontains (by simp) _ rfl, happlies]
  by_cases hlength : Text.length16 s ≤ v <;> simp_all [hs.le]

/-- A negative greatest length is skipped. -/
theorem decode_of_negative_maxLength
    (hrules : f.allRules = [⟨.maxLength, some (.number x), message⟩]) (hv : v < 0) :
    c.compileField f = c.compileField f.unruled ∧
      (c.compileField f).decode (.string s) = .ok (.string s) := by
  have hbound : x.atLeast 0 = false := by
    rw [← Bool.not_eq_true, x.atLeast_iff_le v hx 0]
    simpa using hv
  have hnone : Rule.requirement? ⟨.maxLength, some (.number x), message⟩ c.checks = none := by
    have hfloor : x.floorNat? = none := by
      rw [← Option.isNone_iff_eq_none, ← Option.not_isSome, x.isSome_floorNat?, hbound,
        Bool.and_false, Bool.not_false]
    simp [Rule.requirement?, Rule.number?, hfloor]
  have happlies := Rule.applies_of_requirement?_none c.checks _ hnone f.type.domain
  have hcontains : f.type.domain.contains (.string s) = true := by rw [htext]; rfl
  refine ⟨compileField_of_lone_rule c f _ hrules hnone, ?_⟩
  rw [decode_of_lone_rule c f _ hrules _ hcontains (by simp) _ rfl, happlies]
  rfl

end Text

end Compiler

/-- On a field of texts, a single length rule with a finite number accepts exactly the texts whose
length in units of sixteen bits is not below, or not above, the exact value of the number, and
reports the others; a greatest length that is negative is skipped. That the rule keeps its bound as
a whole number of 64 bits makes no difference to texts that are shorter than the last such
number. -/
theorem Compiler.decode_of_length_rule (c : Compiler) (f : Field) (htext : f.type.domain = .text)
    (x : Binary64) (v : ℚ) (hx : x.rational? = some v) (message : Option String) (s : String)
    (hs : Text.length16 s < 2 ^ 64 - 1) :
    let decoded := (c.compileField f).decode (.string s)
    let least : Rule := ⟨.minLength, some (.number x), message⟩
    let most : Rule := ⟨.maxLength, some (.number x), message⟩
    Text.length16 s = s.length + (s.toList.countP fun c => decide (0x10000 ≤ c.toNat)) ∧
    (f.allRules = [least] → decoded = if v ≤ Text.length16 s then .ok (.string s) else
      .error (.rejected [FieldError.whole least.report])) ∧
    (f.allRules = [most] →
      (0 ≤ v → decoded = if Text.length16 s ≤ v then .ok (.string s) else
        .error (.rejected [FieldError.whole most.report])) ∧
      (v < 0 → c.compileField f = c.compileField f.unruled ∧ decoded = .ok (.string s))) ∧
    ∀ r ∈ [least, most], (r.requirement? c.checks).map (Requirement.holds (.string s)) =
      r.uncutRequirement?.map (Requirement.holds (.string s)) := by
  intro decoded least most
  have hs : Text.length16 s < Rule.lastLength := hs
  refine ⟨Text.length16_eq s, ?_, ?_, ?_⟩
  · exact decode_of_minLength c f htext x v hx message s hs
  · intro hrules
    exact ⟨decode_of_maxLength c f htext x v hx message s hs hrules,
      decode_of_negative_maxLength c f htext x v hx message s hrules⟩
  · intro r hr
    refine Rule.holds_requirement?_cut c.checks r ?_ s hs
    simp only [List.mem_cons, List.not_mem_nil, or_false] at hr
    rcases hr with rfl | rfl
    · exact Or.inl rfl
    · exact Or.inr rfl

/-- A least length of two and a half: a letter and an emoji are three units, two letters are too
short. A greatest length of minus zero accepts the empty text. -/
theorem Compiler.decode_of_length_rule_emoji :
    let c : Compiler := {}
    let x : Binary64 := .finite false (5 * 2 ^ 1073)
    let f : Field := Field.ofType "nick"
      { dataType := .text, rules := [⟨.minLength, some (.number x), none⟩] }
    let g : Field := Field.ofType "nick"
      { dataType := .text, rules := [⟨.maxLength, some (.number (.finite true 0)), none⟩] }
    x.rational? = some (5 / 2) ∧ Binary64.rational? (.finite true 0) = some 0 ∧
      (c.compileField f).decode (.string "a😀") = .ok (.string "a😀") ∧
      (c.compileField f).decode (.string "ab") =
        .error (.rejected [FieldError.whole "Must be at least 3 characters"]) ∧
      (c.compileField g).decode (.string "") = .ok (.string "") := by
  intro c x f g
  have hhalf : x.rational? = some (5 / 2) := by
    have hunit : Binary64.unitsPerOne = 2 * 2 ^ 1073 := by decide +kernel
    have hpos := Binary64.unitsPerOne_pos
    show Binary64.rational? (.finite false (5 * 2 ^ 1073)) = some (5 / 2)
    generalize 2 ^ 1073 = k at hunit ⊢
    have hk : (k : ℚ) ≠ 0 := Nat.cast_ne_zero.mpr (by omega)
    refine congrArg some ?_
    rw [hunit, Binary64.signedUnits, if_neg (by decide)]
    push_cast
    exact mul_div_mul_right 5 2 hk
  have hzero : Binary64.rational? (.finite true 0) = some 0 := by
    have hunits : Binary64.signedUnits true 0 = 0 := rfl
    rw [Binary64.rational?, hunits, Int.cast_zero, zero_div]
  have hreport : Rule.report ⟨.minLength, some (.number x), none⟩ =
      "Must be at least 3 characters" := by decide +kernel
  have hlong : Text.length16 "a😀" = 3 := by decide
  have hshort : Text.length16 "ab" = 2 := by decide
  have hempty : Text.length16 "" = 0 := rfl
  obtain ⟨-, hemoji, -⟩ := decode_of_length_rule c f rfl x _ hhalf none "a😀" (by decide)
  obtain ⟨-, hab, -⟩ := decode_of_length_rule c f rfl x _ hhalf none "ab" (by decide)
  obtain ⟨-, -, hnothing, -⟩ := decode_of_length_rule c g rfl _ _ hzero none "" (by decide)
  refine ⟨hhalf, hzero, ?_, ?_, ?_⟩
  · rw [hemoji rfl, hlong, if_pos (by norm_num)]
  · rw [hab rfl, hshort, if_neg (by norm_num), hreport]
  · rw [(hnothing rfl).1 le_rfl, hempty, if_pos (by norm_num)]

end ModelForm
