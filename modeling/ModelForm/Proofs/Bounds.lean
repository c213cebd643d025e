import ModelForm.Proofs.RoundTrip
import ModelForm.Proofs.RuleSets
import ModelForm.Proofs.Stability

/-!
Bounds that are whole numbers. A bound and the number that is held against it are rounded to
doubles before they are compared. Because rounding keeps the order, a number that satisfies its
bounds exactly is accepted, however large it is; because integers up to the 53rd power of two are
not rounded, nothing else is accepted among these.
-/

namespace ModelForm

/-- A rule whose value is an integer: a least bound, or a greatest one. -/
structure IntegerBound where
  isGreatest : Bool
  limit : Int
  message : Option String := none

namespace IntegerBound

variable (b : IntegerBound)

def kind : RuleKind := if b.isGreatest then .max else .min

def json : Json := Json.record [
  ("type", Json.present (.string b.kind.name)),
  ("value", Json.present (.number (.integer b.limit))),
  ("message", b.message.map .string)]

def rule : Rule := ⟨b.kind, some (.number (Binary64.ofInt b.limit)), b.message⟩

def Allows (n : Int) : Prop := if b.isGreatest then n ≤ b.limit else b.limit ≤ n

theorem reads_json (h : (Number.integer b.limit).Representable) :
    Rule.shape.Reads b.json b.rule := by
  have hvalue : RuleValue.shape.Reads (.number (.integer b.limit))
      (.number (Binary64.ofInt b.limit)) := ⟨.number _ h, fun _ => rfl⟩
  exact RecordShape.reads_record _
    (.required b.kind.reads_name (.defaulted (Shape.reads_option _ _ _ (by simp) hvalue)
      (.option (Shape.reads_text? b.message) rfl .nil)))
    (by decide) (by simp) rfl

variable (checks : Checks) (n : Int)

/-- An integer that satisfies a bound is not rejected for it. -/
theorem holds_rule_of_allows (h : b.Allows n) :
    b.rule.holds checks (.number (.integer n)) = .ok true := by
  obtain ⟨isGreatest, limit, message⟩ := b
  cases isGreatest with
  | true => exact congrArg (Except.ok !·) (Binary64.lt_ofInt_of_le n limit h)
  | false => exact congrArg (Except.ok !·) (Binary64.lt_ofInt_of_le limit n h)

/-- Integers that are not rounded are rejected for every bound that they do not satisfy. -/
theorem allows_of_holds_rule (hlimit : b.limit.natAbs ≤ 2 ^ 53) (hn : n.natAbs ≤ 2 ^ 53)
    (h : b.rule.holds checks (.number (.integer n)) = .ok true) : b.Allows n := by
  obtain ⟨isGreatest, limit, message⟩ := b
  cases isGreatest with
  | true =>
    have hnot : (!(Binary64.ofInt limit).lt (Binary64.ofInt n)) = true := Except.ok.inj h
    rw [Binary64.lt_ofInt_eq limit n hlimit hn] at hnot
    exact Int.not_lt.mp (by simpa using hnot)
  | false =>
    have hnot : (!(Binary64.ofInt n).lt (Binary64.ofInt limit)) = true := Except.ok.inj h
    rw [Binary64.lt_ofInt_eq n limit hn hlimit] at hnot
    exact Int.not_lt.mp (by simpa using hnot)

theorem applies_rule (hlimit : b.limit.natAbs ≤ 2 ^ 53) : b.rule.applies checks .number = true := by
  have hfinite := Binary64.isFinite_ofInt b.limit (hlimit.trans (by decide))
  obtain ⟨isGreatest, limit, message⟩ := b
  cases isGreatest <;> exact hfinite

end IntegerBound

/-- A field decodes a value other than null to itself, if the value is of its domain and satisfies
every rule that applies, and to nothing else. -/
theorem Compiler.decode_compileField_eq_ok_iff (c : Compiler) (f : Field) (v w : Json)
    (hnull : v ≠ .null) : (c.compileField f).decode v = .ok w ↔
      w = v ∧ f.type.domain.contains v = true ∧ ∀ r ∈ f.allRules,
        r.applies c.checks f.type.domain = true → r.holds c.checks v = .ok true := by
  have hkept : f.kept (some v) = some v := by cases v <;> simp_all [Field.kept, Field.excused]
  have hpasses := Field.passes_eq_true_iff c.checks f (some v)
  simp only [reduceCtorEq, false_and, Option.some.injEq, hnull, false_or, exists_eq_left'] at hpasses
  rw [Schema.decode_eq_ok_iff, judge_compileField, ← hpasses]
  constructor
  · rintro ⟨u, hu, rfl⟩
    obtain ⟨haccepted, rfl⟩ := (Field.verdict_eq_accepted_iff c f _ u).mp hu
    exact ⟨by rw [hkept, Option.getD_some], haccepted⟩
  · rintro ⟨rfl, haccepted⟩
    exact ⟨some w, (Field.verdict_eq_accepted_iff c f _ _).mpr ⟨haccepted, hkept⟩, rfl⟩

namespace Schema

/-- A requirement is held against the values that are accepted without it. -/
theorem judge_require (s : Schema) (q : Requirement) (message : Option String) (v : Json)
    (hkind : s.kind?.any (suited q) = true) (hnull : v ≠ .null) :
    (s.require q message).judge (some v) = (s.judge (some v)).constrained ⟨q, message⟩ v := by
  unfold require
  induction s with
  | atomic a =>
    have hsuited : suited q a.kind = true := hkind
    rw [constrain, if_pos hsuited]
    simp only [judge]
    exact AtomicSchema.judge_append_singleton a ⟨q, message⟩ v
  | unknown => simp [kind?] at hkind
  | record ms => simp [kind?] at hkind
  | optional s ih =>
    rw [constrain, judge_optional_present _ _ (by simp) (by simpa using hnull),
      judge_optional_present _ _ (by simp) (by simpa using hnull)]
    exact ih hkind

theorem judge_require_eq_accepted_iff (s : Schema) (q : Requirement) (message : Option String)
    (v : Json) (u : Option Json) (hkind : s.kind?.any (suited q) = true) (hnull : v ≠ .null) :
    (s.require q message).judge (some v) = .accepted u ↔
      s.judge (some v) = .accepted u ∧ q.holds v = .ok true := by
  rw [judge_require s q message v hkind hnull]
  unfold Verdict.constrained
  cases s.judge (some v) with
  | accepted w => rcases q.holds v with p | _ | _ <;> simp
  | rejected es => simp
  | aborted p => simp

end Schema

namespace Requirement

variable (low high n : Int)

theorem holds_range_of_le (hlow : low ≤ n) (hhigh : n ≤ high) :
    (range (.ofInt low) (.ofInt high)).holds (.number (.integer n)) = .ok true := by
  have hbelow := Binary64.lt_ofInt_of_le low n hlow
  have habove := Binary64.lt_ofInt_of_le n high hhigh
  simp only [holds, onNumber, Number.toDouble, hbelow, habove, Bool.or_self, Bool.not_false]

theorem le_of_holds_range (hlow : low.natAbs ≤ 2 ^ 53) (hhigh : high.natAbs ≤ 2 ^ 53)
    (hn : n.natAbs ≤ 2 ^ 53)
    (h : (range (.ofInt low) (.ofInt high)).holds (.number (.integer n)) = .ok true) :
    low ≤ n ∧ n ≤ high := by
  have hnot : (!((Binary64.ofInt n).lt (.ofInt low) || (Binary64.ofInt high).lt (.ofInt n))) =
      true := Except.ok.inj h
  rw [Binary64.lt_ofInt_eq n low hn hlow, Binary64.lt_ofInt_eq high n hhigh hn] at hnot
  simpa using hnot

end Requirement

/-- A bound or a range of integers never rejects an integer that satisfies it exactly, although
both are rounded before they are compared; if both are at most the 53rd power of two, only an
integer that satisfies it is accepted. The bounds are rules of a field of numbers, as they are read
from a document, alone or among others that hold; the range refines any schema of numbers. -/
theorem Compiler.decode_of_integer_bounds (c : Compiler) (f : Field)
    (hnumber : f.type.domain = .number) (bounds : List IntegerBound)
    (hbounds : ∀ b ∈ bounds, b.rule ∈ f.allRules) (s : Schema) (hs : s.kind? = some .number)
    (low high n : Int) (message : Option String) :
    let v := Json.number (.integer n)
    let ranged := s.require (.range (.ofInt low) (.ofInt high)) message
    (∀ b ∈ bounds, (Number.integer b.limit).Representable → Rule.shape.Reads b.json b.rule) ∧
    ((∀ b ∈ bounds, b.Allows n) →
      (∀ r ∈ f.allRules, r ∉ bounds.map IntegerBound.rule → r.holds c.checks v = .ok true) →
        (c.compileField f).decode v = .ok v) ∧
    (low ≤ n ∧ n ≤ high → ranged.decode v = s.decode v) ∧
    (n.natAbs ≤ 2 ^ 53 →
      ((∀ b ∈ bounds, b.limit.natAbs ≤ 2 ^ 53) →
        ∀ w, (c.compileField f).decode v = .ok w → ∀ b ∈ bounds, b.Allows n) ∧
      (low.natAbs ≤ 2 ^ 53 → high.natAbs ≤ 2 ^ 53 →
        ∀ w, ranged.decode v = .ok w → low ≤ n ∧ n ≤ high)) := by
  intro v ranged
  have hnull : v ≠ .null := by simp [v]
  have hkind : s.kind?.any (Schema.suited (.range (.ofInt low) (.ofInt high))) = true := by
    rw [hs]
    rfl
  refine ⟨fun b _ => b.reads_json, ?_, ?_, ?_⟩
  · intro hallows hothers
    refine (decode_compileField_eq_ok_iff c f v v hnull).mpr ⟨rfl, by rw [hnumber]; rfl, ?_⟩
    intro r hr _
    by_cases hbound : r ∈ bounds.map IntegerBound.rule
    · obtain ⟨b, hb, rfl⟩ := List.mem_map.mp hbound
      exact b.holds_rule_of_allows c.checks n (hallows b hb)
    · exact hothers r hr hbound
  · rintro ⟨hlow, hhigh⟩
    have hholds := Requirement.holds_range_of_le low high n hlow hhigh
    unfold Schema.decode
    rw [Schema.judge_require s _ message v hkind hnull]
    unfold Verdict.constrained
    rw [hholds]
    cases s.judge (some v) <;> rfl
  · intro hn
    constructor
    · intro hlimits w hw b hb
      obtain ⟨-, -, hholds⟩ := (decode_compileField_eq_ok_iff c f v w hnull).mp hw
      rw [hnumber] at hholds
      exact b.allows_of_holds_rule c.checks n (hlimits b hb) hn
        (hholds b.rule (hbounds b hb) (b.applies_rule c.checks (hlimits b hb)))
    · intro hlow hhigh w hw
      obtain ⟨u, hu, -⟩ := (Schema.decode_eq_ok_iff ranged v w).mp hw
      have haccepted := (Schema.judge_require_eq_accepted_iff s _ message v u hkind hnull).mp hu
      exact Requirement.le_of_holds_range low high n hlow hhigh hn haccepted.2

/-- An age of at least 18: the greatest integer of 64 bits is accepted and 17 is not. Of the
numbers up to 150 the last is accepted, and the next one is not. -/
theorem Compiler.decode_of_integer_bounds_age :
    let c : Compiler := {}
    let f : Field := Field.ofType "age"
      { dataType := .number, rules := [⟨.min, some (.number (.ofInt 18)), none⟩] }
    let ranged := (Schema.number none).require (.range (.ofInt 18) (.ofInt 150)) none
    (c.compileField f).decode (.number (.integer 18446744073709551615)) =
        .ok (.number (.integer 18446744073709551615)) ∧
      (∀ w, (c.compileField f).decode (.number (.integer 17)) ≠ .ok w) ∧
      ranged.decode (.number (.integer 150)) = .ok (.number (.integer 150)) ∧
      ∀ w, ranged.decode (.number (.integer 151)) ≠ .ok w := by
  intro c f ranged
  let b : IntegerBound := { isGreatest := false, limit := 18 }
  have hrules : f.allRules = [b].map IntegerBound.rule := rfl
  have hmem : ∀ a ∈ [b], a.rule ∈ f.allRules := fun a ha => hrules ▸ List.mem_map_of_mem ha
  have hbounds (n : Int) :=
    decode_of_integer_bounds c f rfl [b] hmem (Schema.number none) rfl 18 150 n none
  have hallows (n : Int) : (∀ a ∈ [b], a.Allows n) ↔ 18 ≤ n := by
    simp [b, IntegerBound.Allows]
  have hlimits : ∀ a ∈ [b], a.limit.natAbs ≤ 2 ^ 53 := by simp [b]
  refine ⟨?_, ?_, ?_, ?_⟩
  · obtain ⟨-, haccepts, -⟩ := hbounds 18446744073709551615
    exact haccepts ((hallows _).mpr (by decide)) fun r hr hother => absurd (hrules ▸ hr) hother
  · obtain ⟨-, -, -, hsmall⟩ := hbounds 17
    intro w hw
    have hle := (hallows 17).mp ((hsmall (by decide)).1 hlimits w hw)
    omega
  · obtain ⟨-, -, hrange, -⟩ := hbounds 150
    exact hrange ⟨by decide, by decide⟩
  · obtain ⟨-, -, -, hsmall⟩ := hbounds 151
    intro w hw
    have hle := (hsmall (by decide)).2 (by decide) (by decide) w hw
    omega

end ModelForm
