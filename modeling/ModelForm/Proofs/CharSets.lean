import ModelForm.Text.CharSet

/-!
What sets of characters hold. A union holds what one of the two sets does, and the complement of
a set holds what the set does not. The ranges of a set ascend and do not touch each other, which
every operation keeps; the complement relies on it.
-/

namespace ModelForm.CharSet

/-- Ranges that ascend from `next` on, with gaps in between. -/
def AscendingFrom : Nat → List (Nat × Nat) → Prop
  | _, [] => True
  | next, (a, b) :: rest => next ≤ a ∧ a ≤ b ∧ AscendingFrom (b + 2) rest

def Ascending (s : CharSet) : Prop := AscendingFrom 0 s.ranges

theorem AscendingFrom.mono {next later : Nat} (hle : next ≤ later) (ranges : List (Nat × Nat))
    (h : AscendingFrom later ranges) : AscendingFrom next ranges := by
  cases ranges with
  | nil => trivial
  | cons r rest => exact ⟨Nat.le_trans hle h.1, h.2⟩

theorem AscendingFrom.le_of_mem {next : Nat} (ranges : List (Nat × Nat))
    (h : AscendingFrom next ranges) (r : Nat × Nat) (hr : r ∈ ranges) :
    next ≤ r.1 ∧ r.1 ≤ r.2 := by
  induction ranges generalizing next with
  | nil => cases hr
  | cons first rest ih =>
    obtain ⟨hnext, hle, hrest⟩ := h
    rcases List.mem_cons.mp hr with rfl | hr
    · exact ⟨hnext, hle⟩
    · have hlater := ih hrest hr
      exact ⟨by omega, hlater.2⟩

theorem ascendingFrom_insertRange (next first last : Nat) (hnext : next ≤ first)
    (hle : first ≤ last) (ranges : List (Nat × Nat)) (h : AscendingFrom next ranges) :
    AscendingFrom next (insertRange first last ranges) := by
  induction ranges generalizing next first last with
  | nil => exact ⟨hnext, hle, trivial⟩
  | cons r rest ih =>
    obtain ⟨a, b⟩ := r
    obtain ⟨hna, hab, hrest⟩ := h
    unfold insertRange
    split
    · next hbefore => exact ⟨hnext, hle, hbefore, hab, hrest⟩
    · split
      · next hafter => exact ⟨hna, hab, ih (b + 2) first last hafter hle hrest⟩
      · exact ih next (min first a) (max last b) (by omega) (by omega)
          (hrest.mono (by omega) rest)

/-! Membership. -/

section Sets

variable {s t : CharSet} (hs : s.Ascending) (ht : t.Ascending) (c : Char)

include ht in
theorem insertAll_spec (ranges : List (Nat × Nat)) (hranges : ∀ r ∈ ranges, r.1 ≤ r.2) :
    let all := ranges.foldr (fun range acc => insertRange range.1 range.2 acc) t.ranges
    AscendingFrom 0 all ∧ ∀ n, holds all n = (holds ranges n || holds t.ranges n) := by
  induction ranges with
  | nil => exact ⟨ht, fun n => by simp [holds]⟩
  | cons r rest ih =>
    obtain ⟨hascending, hholds⟩ := ih fun r hr => hranges r (List.mem_cons_of_mem _ hr)
    have hle : r.1 ≤ r.2 := hranges r List.mem_cons_self
    refine ⟨ascendingFrom_insertRange 0 r.1 r.2 (Nat.zero_le _) hle _ hascending, fun n => ?_⟩
    have hvalid := fun q hq => (hascending.le_of_mem _ q hq).2
    simp only [List.foldr_cons]
    rw [holds_insertRange r.1 r.2 hle _ hvalid, hholds, ← Bool.or_assoc]
    simp [holds]

include hs ht in
theorem ascending_union : (s.union t).Ascending :=
  (insertAll_spec ht s.ranges fun r hr => (hs.le_of_mem _ r hr).2).1

include hs ht in
theorem contains_union : (s.union t).contains c = (s.contains c || t.contains c) :=
  (insertAll_spec ht s.ranges fun r hr => (hs.le_of_mem _ r hr).2).2 c.toNat

theorem ascending_empty : empty.Ascending := trivial

theorem ascending_single : (single c).Ascending := ⟨Nat.zero_le _, Nat.le_refl _, trivial⟩

theorem contains_single (d : Char) : (single c).contains d = decide (d = c) := by
  have hcode : c.toNat = d.toNat ↔ d = c :=
    ⟨fun h => Char.ext (UInt32.toNat_inj.mp h.symm), fun h => h ▸ rfl⟩
  rw [Bool.eq_iff_iff, decide_eq_true_eq, ← hcode]
  simp only [contains, holds, single, List.any_cons, List.any_nil, Bool.or_false,
    Bool.and_eq_true, decide_eq_true_eq]
  omega

theorem ofChars_spec (cs : List Char) :
    (ofChars cs).Ascending ∧ (ofChars cs).contains c = decide (c ∈ cs) := by
  induction cs with
  | nil => exact ⟨ascending_empty, by simp [ofChars, contains, holds, empty]⟩
  | cons d rest ih =>
    obtain ⟨hascending, hcontains⟩ := ih
    refine ⟨ascending_union (ascending_single d) hascending, ?_⟩
    have hunion := contains_union (ascending_single d) hascending c
    rw [contains_single, hcontains] at hunion
    rw [Bool.eq_iff_iff, decide_eq_true_eq, List.mem_cons]
    change (union (single d) (ofChars rest)).contains c = true ↔ c = d ∨ c ∈ rest
    rw [hunion, Bool.or_eq_true, decide_eq_true_eq, decide_eq_true_eq]

end Sets

/-- The gaps hold the codes from `next` on that the ranges do not hold. -/
theorem holds_gapsFrom (next : Nat) (ranges : List (Nat × Nat)) (h : AscendingFrom next ranges)
    (n : Nat) (hn : n ≤ lastCode) :
    holds (gapsFrom next ranges) n = true ↔ next ≤ n ∧ holds ranges n = false := by
  induction ranges generalizing next with
  | nil =>
    unfold gapsFrom
    split
    · simp [holds, hn]
    · simp only [holds, List.any_nil, Bool.false_eq_true, false_iff, and_true]
      omega
  | cons r rest ih =>
    obtain ⟨a, b⟩ := r
    obtain ⟨hna, hab, hrest⟩ := h
    have hcons : holds ((a, b) :: rest) n = false ↔ ¬ (a ≤ n ∧ n ≤ b) ∧ holds rest n = false := by
      simp [holds]
    have hbehind : n ≤ b → holds rest n = false := by
      intro hle
      simp only [holds, List.any_eq_false, Bool.and_eq_true, decide_eq_true_eq]
      intro q hq
      have hfrom := (hrest.le_of_mem rest q hq).1
      omega
    have hgaps := ih (b + 1) (hrest.mono (by omega) rest)
    rw [hcons]
    unfold gapsFrom
    split
    · have hgap : holds ((next, a - 1) :: gapsFrom (b + 1) rest) n = true ↔
          next ≤ n ∧ n ≤ a - 1 ∨ holds (gapsFrom (b + 1) rest) n = true := by simp [holds]
      rw [hgap, hgaps]
      constructor
      · rintro (⟨hge, hle⟩ | ⟨hge, hholds⟩)
        · exact ⟨hge, by omega, hbehind (by omega)⟩
        · exact ⟨by omega, by omega, hholds⟩
      · rintro ⟨hge, hout, hholds⟩
        by_cases hlt : n < a
        · exact Or.inl ⟨hge, by omega⟩
        · exact Or.inr ⟨by omega, hholds⟩
    · rw [hgaps]
      constructor
      · rintro ⟨hge, hholds⟩
        exact ⟨by omega, by omega, hholds⟩
      · rintro ⟨hge, hout, hholds⟩
        exact ⟨by omega, hholds⟩

theorem contains_complement (s : CharSet) (hs : s.Ascending) (c : Char) :
    s.complement.contains c = !s.contains c := by
  have hcode : c.toNat ≤ lastCode := by
    have hfull := contains_full c
    simp only [contains, holds, full, List.any_cons, List.any_nil, Bool.or_false,
      Bool.and_eq_true, decide_eq_true_eq] at hfull
    exact hfull.2
  have hgaps := holds_gapsFrom 0 s.ranges hs c.toNat hcode
  rw [Bool.eq_iff_iff, Bool.not_eq_true', complement, contains, hgaps]
  simp [contains]

end ModelForm.CharSet
