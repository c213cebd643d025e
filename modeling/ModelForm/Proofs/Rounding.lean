import ModelForm.Number.Binary64
import Mathlib.Algebra.Order.Ring.Nat
import Mathlib.Tactic.Ring

/-!
Rounding of integers. The one fact about rounding that everything else follows from is that it
never crosses a multiple of its step. So it keeps the order of what it rounds, also where the step
grows, because the power of two at which the step grows is a multiple of both steps; and it leaves
alone what is a multiple of its step already, such as the integers up to the 53rd power of two. An
integer of the 64-bit ranges is never so large that its double is infinite.
-/

namespace ModelForm.Binary64

theorem unitsPerOne_pos : 0 < unitsPerOne := by decide +kernel

theorem exists_unitsPerOne_eq : ∃ k, unitsPerOne = 2 ^ k := ⟨1074, by decide +kernel⟩

/-! One step. -/

section Step

variable (step num den : Nat)

/-- Rounding goes up by less than one step. -/
theorem roundTo_le : roundTo step num den ≤ num / den + step := by
  have hmul : num / (den * step) * step ≤ num / den := by
    rw [← Nat.div_div_eq_div_mul]
    exact Nat.div_mul_le_self _ _
  unfold roundTo
  dsimp only
  split
  · rw [Nat.add_one_mul]
    omega
  · omega

/-- What is not below a multiple of the step is not rounded below it. -/
theorem le_roundTo (m : Nat) (hm : step ∣ m) (hstep : 0 < den * step) (h : m * den ≤ num) :
    m ≤ roundTo step num den := by
  obtain ⟨k, rfl⟩ := hm
  have hk : k ≤ num / (den * step) := by
    rw [Nat.le_div_iff_mul_le hstep]
    calc k * (den * step) = step * k * den := by ring
      _ ≤ num := h
  rw [Nat.mul_comm step k]
  unfold roundTo
  dsimp only
  split
  · exact Nat.mul_le_mul_right step (Nat.le_succ_of_le hk)
  · exact Nat.mul_le_mul_right step hk

/-- What is not above a multiple of the step is not rounded above it. -/
theorem roundTo_le_of_dvd (m : Nat) (hm : step ∣ m) (hstep : 0 < den * step)
    (h : num ≤ m * den) : roundTo step num den ≤ m := by
  obtain ⟨k, rfl⟩ := hm
  have hnum : num ≤ den * step * k := by
    calc num ≤ step * k * den := h
      _ = den * step * k := by ring
  have hk : num / (den * step) ≤ k := Nat.div_le_of_le_mul hnum
  rw [Nat.mul_comm step k]
  unfold roundTo
  dsimp only
  split
  · rename_i hup
    -- a remainder that is rounded up is there only in front of the multiple
    have hne : num / (den * step) ≠ k := by
      intro heq
      have hsum := Nat.div_add_mod num (den * step)
      rw [heq] at hsum
      omega
    exact Nat.mul_le_mul_right step (by omega)
  · exact Nat.mul_le_mul_right step hk

/-- With one step, rounding keeps the order. -/
theorem roundTo_mono (num' : Nat) (hstep : 0 < den * step) (h : num ≤ num') :
    roundTo step num den ≤ roundTo step num' den := by
  have hmod := Nat.mod_lt num hstep
  have hsum := Nat.div_add_mod num (den * step)
  have hsum' := Nat.div_add_mod num' (den * step)
  rcases Nat.lt_or_eq_of_le (Nat.div_le_div_right h) with hlt | heq
  · have hbelow : num' / (den * step) * step * den ≤ num' := by
      calc num' / (den * step) * step * den = num' / (den * step) * (den * step) := by ring
        _ ≤ num' := Nat.div_mul_le_self _ _
    have habove : num ≤ num' / (den * step) * step * den := by
      calc num ≤ (num / (den * step) + 1) * (den * step) := by
            rw [Nat.add_one_mul, Nat.mul_comm]
            omega
        _ ≤ num' / (den * step) * (den * step) := Nat.mul_le_mul_right _ hlt
        _ = num' / (den * step) * step * den := by ring
    have hmultiple : step ∣ num' / (den * step) * step := Nat.dvd_mul_left _ _
    exact (roundTo_le_of_dvd step num den _ hmultiple hstep habove).trans
      (le_roundTo step num' den _ hmultiple hstep hbelow)
  · -- with one quotient, the greater remainder is rounded up if the other one is
    unfold roundTo
    dsimp only
    rw [heq] at hsum ⊢
    split_ifs
    · exact le_rfl
    · omega
    · exact Nat.mul_le_mul_right step (Nat.le_succ _)
    · exact le_rfl

end Step

/-! The step that fits a magnitude. -/

theorem spacing_pos (q : Nat) : 0 < spacing q := Nat.two_pow_pos _

theorem spacing_le (q : Nat) (hq : q ≠ 0) : spacing q ≤ q :=
  le_trans (Nat.pow_le_pow_right (by decide) (Nat.sub_le _ _)) (Nat.log2_self_le hq)

/-- A power of two is a multiple of the steps of magnitudes that have up to 53 bits in front of
it. -/
theorem spacing_dvd (q k : Nat) (h : q < 2 ^ (k + 53)) : spacing q ∣ 2 ^ k := by
  refine Nat.pow_dvd_pow 2 ?_
  by_cases hq : q = 0
  · simp [hq]
  · have hlog := (Nat.log2_lt hq).mpr h
    omega

/-- Between magnitudes with different steps there is a multiple of both steps. -/
theorem exists_pivot (p q : Nat) (h : p ≤ q) (hspacing : spacing p ≠ spacing q) :
    ∃ m, p < m ∧ m ≤ q ∧ spacing p ∣ m ∧ spacing q ∣ m := by
  have hq : q ≠ 0 := by
    rintro rfl
    exact hspacing (by rw [Nat.le_zero.mp h])
  have hbelow : p < 2 ^ Nat.log2 q := by
    refine Nat.lt_of_not_le fun hle => hspacing ?_
    have hp : p ≠ 0 := (Nat.lt_of_lt_of_le (Nat.two_pow_pos _) hle).ne'
    have hlog : Nat.log2 p = Nat.log2 q :=
      (Nat.log2_eq_iff hp).mpr ⟨hle, Nat.lt_of_le_of_lt h Nat.lt_log2_self⟩
    rw [spacing, hlog, spacing]
  have hfar : 2 ^ (Nat.log2 q + 1) ≤ 2 ^ (Nat.log2 q + 53) :=
    Nat.pow_le_pow_right (by decide) (by omega)
  have hstep : spacing p ∣ 2 ^ Nat.log2 q := by
    refine spacing_dvd p _ (Nat.lt_of_le_of_lt h ?_)
    exact Nat.lt_of_lt_of_le Nat.lt_log2_self hfar
  have hstep' : spacing q ∣ 2 ^ Nat.log2 q :=
    spacing_dvd q _ (Nat.lt_of_lt_of_le Nat.lt_log2_self hfar)
  exact ⟨2 ^ Nat.log2 q, hbelow, Nat.log2_self_le hq, hstep, hstep'⟩

theorem roundUnits_le (num den : Nat) (h : num / den ≠ 0) :
    roundUnits num den ≤ 2 * (num / den) := by
  have hround := roundTo_le (spacing (num / den)) num den
  have hspacing := spacing_le (num / den) h
  unfold roundUnits
  omega

/-- Rounding keeps the order. -/
theorem roundUnits_mono (num num' den : Nat) (hden : 0 < den) (h : num ≤ num') :
    roundUnits num den ≤ roundUnits num' den := by
  have hquotient : num / den ≤ num' / den := Nat.div_le_div_right h
  have hstep (q : Nat) : 0 < den * spacing q := Nat.mul_pos hden (spacing_pos q)
  unfold roundUnits
  by_cases hsame : spacing (num / den) = spacing (num' / den)
  · rw [hsame]
    exact roundTo_mono _ num den num' (hstep _) h
  · obtain ⟨m, hbelow, habove, hdvd, hdvd'⟩ := exists_pivot _ _ hquotient hsame
    have hnum : num ≤ m * den := ((Nat.div_lt_iff_lt_mul hden).mp hbelow).le
    have hnum' : m * den ≤ num' := (Nat.le_div_iff_mul_le hden).mp habove
    exact (roundTo_le_of_dvd _ num den m hdvd (hstep _) hnum).trans
      (le_roundTo _ num' den m hdvd' (hstep _) hnum')

/-- What is a multiple of its step stays as it is. -/
theorem roundUnits_eq_self (num : Nat) (h : spacing num ∣ num) : roundUnits num 1 = num := by
  have hstep : 0 < 1 * spacing num := Nat.mul_pos Nat.one_pos (spacing_pos num)
  rw [roundUnits, Nat.div_one]
  exact le_antisymm (roundTo_le_of_dvd _ num 1 num h hstep (Nat.mul_one num).ge)
    (le_roundTo _ num 1 num h hstep (Nat.mul_one num).le)

/-! Integers. -/

def integerUnits (i : Int) : Int :=
  signedUnits (decide (i < 0)) (roundUnits (i.natAbs * unitsPerOne) 1)

theorem integerUnits_mono (i j : Int) (h : i ≤ j) : integerUnits i ≤ integerUnits j := by
  have hround (m n : Nat) (hmn : m ≤ n) :
      roundUnits (m * unitsPerOne) 1 ≤ roundUnits (n * unitsPerOne) 1 :=
    roundUnits_mono _ _ 1 Nat.one_pos (Nat.mul_le_mul_right _ hmn)
  unfold integerUnits signedUnits
  by_cases hi : i < 0 <;> by_cases hj : j < 0
  · have hle := hround j.natAbs i.natAbs (by omega)
    simp only [hi, hj, decide_true, if_true]
    omega
  · simp only [hi, hj, decide_true, decide_false, if_true, Bool.false_eq_true, if_false]
    omega
  · omega
  · have hle := hround i.natAbs j.natAbs (by omega)
    simp only [hi, hj, decide_false, Bool.false_eq_true, if_false]
    omega

/-- Up to the 53rd power of two, integers are not rounded. -/
theorem integerUnits_eq (i : Int) (h : i.natAbs ≤ 2 ^ 53) : integerUnits i = i * unitsPerOne := by
  have hexact : roundUnits (i.natAbs * unitsPerOne) 1 = i.natAbs * unitsPerOne := by
    obtain ⟨k, hk⟩ := exists_unitsPerOne_eq
    refine roundUnits_eq_self _ ?_
    rw [hk]
    rcases Nat.lt_or_eq_of_le h with hlt | heq
    · have hbits : i.natAbs * 2 ^ k < 2 ^ (k + 53) := by
        rw [Nat.add_comm, Nat.pow_add]
        exact Nat.mul_lt_mul_of_pos_right hlt (Nat.two_pow_pos k)
      exact (spacing_dvd _ k hbits).mul_left _
    · rw [heq, ← Nat.pow_add]
      exact spacing_dvd _ _ (Nat.pow_lt_pow_right (by decide) (by omega))
  rw [integerUnits, hexact, signedUnits]
  generalize unitsPerOne = unit
  by_cases hi : i < 0
  · have hcast : (i.natAbs : Int) = -i := by omega
    simp [hi, hcast]
  · have hcast : (i.natAbs : Int) = i := by omega
    simp [hi, hcast]

theorem mul_unitsPerOne_lt : 2 ^ 65 * unitsPerOne < unitsOverflow := by decide +kernel

/-- An integer of the 64-bit ranges is far from being too large. -/
theorem roundUnits_lt_unitsOverflow (n : Nat) (h : n ≤ 2 ^ 64) :
    roundUnits (n * unitsPerOne) 1 < unitsOverflow := by
  by_cases hn : n * unitsPerOne = 0
  · rw [hn]
    exact Nat.zero_lt_of_lt mul_unitsPerOne_lt
  · have hle := roundUnits_le (n * unitsPerOne) 1 (by rwa [Nat.div_one])
    rw [Nat.div_one] at hle
    calc roundUnits (n * unitsPerOne) 1
        ≤ 2 * (n * unitsPerOne) := hle
      _ ≤ 2 * (2 ^ 64 * unitsPerOne) := Nat.mul_le_mul_left 2 (Nat.mul_le_mul_right _ h)
      _ = 2 ^ 65 * unitsPerOne := by rw [← Nat.mul_assoc, ← Nat.pow_add_one']
      _ < unitsOverflow := mul_unitsPerOne_lt

theorem isFinite_ofInt (i : Int) (h : i.natAbs ≤ 2 ^ 64) : (ofInt i).isFinite = true := by
  rw [ofInt, ofRatio, isFinite_ofUnits]
  exact decide_eq_true (roundUnits_lt_unitsOverflow i.natAbs h)

/-- What has no more units is no greater, also where a double is infinite. -/
theorem lt_ofUnits_of_le (s t : Bool) (u v : Nat) (h : signedUnits s u ≤ signedUnits t v) :
    (ofUnits t v).lt (ofUnits s u) = false := by
  have hoverflow : 0 < unitsOverflow := Nat.zero_lt_of_lt mul_unitsPerOne_lt
  unfold ofUnits
  generalize unitsOverflow = overflow at hoverflow
  split_ifs with hv hu hu
  · exact decide_eq_false (Int.not_lt.mpr h)
  · show (!s) = false
    cases s <;> cases t <;> simp [signedUnits] at h ⊢ <;> omega
  · show t = false
    cases s <;> cases t <;> simp [signedUnits] at h ⊢ <;> omega
  · show (t && !s) = false
    cases s <;> cases t <;> simp [signedUnits] at h ⊢
    omega

/-- Integers keep their order as doubles, whatever their size. -/
theorem lt_ofInt_of_le (i j : Int) (h : i ≤ j) : (ofInt j).lt (ofInt i) = false := by
  rw [ofInt, ofRatio, ofInt, ofRatio]
  exact lt_ofUnits_of_le _ _ _ _ (integerUnits_mono i j h)

/-- Up to the 53rd power of two, doubles are ordered exactly as their integers are. -/
theorem lt_ofInt_eq (i j : Int) (hi : i.natAbs ≤ 2 ^ 53) (hj : j.natAbs ≤ 2 ^ 53) :
    (ofInt i).lt (ofInt j) = decide (i < j) := by
  have hpos : 0 < (unitsPerOne : Int) := Int.natCast_pos.mpr unitsPerOne_pos
  have hfinite (n : Nat) (hn : n ≤ 2 ^ 53) : roundUnits (n * unitsPerOne) 1 < unitsOverflow :=
    roundUnits_lt_unitsOverflow n (hn.trans (by decide))
  rw [ofInt, ofRatio, ofInt, ofRatio, ofUnits, if_pos (hfinite _ hi), ofUnits,
    if_pos (hfinite _ hj), lt, decide_eq_decide]
  show integerUnits i < integerUnits j ↔ i < j
  rw [integerUnits_eq i hi, integerUnits_eq j hj]
  exact Int.mul_lt_mul_right hpos

/-- The next integer is rounded, and no longer greater. -/
example : (ofInt (2 ^ 53)).lt (ofInt (2 ^ 53 + 1)) = false := by decide +kernel

end ModelForm.Binary64
