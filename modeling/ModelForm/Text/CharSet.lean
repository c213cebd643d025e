/-!
Sets of characters as ascending ranges of code points that neither overlap nor
touch. Union, complement and what is built from them keep this form.
-/

namespace ModelForm

/-- A set of code points; each range holds its first and last member. -/
structure CharSet where
  ranges : List (Nat × Nat)
  deriving DecidableEq, Repr, Inhabited

namespace CharSet

def lastCode : Nat := 0x10FFFF

def holds (ranges : List (Nat × Nat)) (n : Nat) : Bool :=
  ranges.any fun range => range.1 ≤ n && n ≤ range.2

def contains (s : CharSet) (c : Char) : Bool := holds s.ranges c.toNat

def empty : CharSet := ⟨[]⟩

def isEmpty (s : CharSet) : Bool := s.ranges.isEmpty

def full : CharSet := ⟨[(0, lastCode)]⟩

def range (first last : Nat) : CharSet := if first ≤ last then ⟨[(first, last)]⟩ else empty

def single (c : Char) : CharSet := ⟨[(c.toNat, c.toNat)]⟩

def insertRange (first last : Nat) : List (Nat × Nat) → List (Nat × Nat)
  | [] => [(first, last)]
  | (a, b) :: rest =>
    if last + 1 < a then (first, last) :: (a, b) :: rest
    else if b + 1 < first then (a, b) :: insertRange first last rest
    else insertRange (min first a) (max last b) rest

def union (s t : CharSet) : CharSet :=
  ⟨s.ranges.foldr (fun range acc => insertRange range.1 range.2 acc) t.ranges⟩

/-- The ranges between the given ones, from `next` on. -/
def gapsFrom (next : Nat) : List (Nat × Nat) → List (Nat × Nat)
  | [] => if next ≤ lastCode then [(next, lastCode)] else []
  | (a, b) :: rest =>
    if next < a then (next, a - 1) :: gapsFrom (b + 1) rest else gapsFrom (b + 1) rest

def complement (s : CharSet) : CharSet := ⟨gapsFrom 0 s.ranges⟩

def intersect (s t : CharSet) : CharSet := (s.complement.union t.complement).complement

def difference (s t : CharSet) : CharSet := s.intersect t.complement

def symmetricDifference (s t : CharSet) : CharSet := (s.difference t).union (t.difference s)

def negatedIf (negated : Bool) (s : CharSet) : CharSet := if negated then s.complement else s

def ofRanges (ranges : List (Nat × Nat)) : CharSet :=
  ranges.foldr (fun range acc => union (CharSet.range range.1 range.2) acc) empty

def ofChars (cs : List Char) : CharSet :=
  cs.foldr (fun c acc => union (single c) acc) empty

/-! Written sets: for every range the gap before it and its length less one, in base 36. -/

def digit36 (c : Char) : Nat :=
  if c.isDigit then c.toNat - '0'.toNat else c.toNat - 'a'.toNat + 10

/-- The numbers of a text, which are separated by blanks; `n` is the one begun before it. -/
def numbers36 : List Char → Option Nat → List Nat
  | [], n => n.toList
  | c :: rest, n =>
    if c = ' ' ∨ c = '\n' then n.toList ++ numbers36 rest none
    else numbers36 rest (some (n.getD 0 * 36 + digit36 c))

/-- The ranges whose gaps and lengths are given; `next` follows the last range before them. -/
def rangesFrom (next : Nat) : List Nat → List (Nat × Nat)
  | gap :: length :: rest =>
    (next + gap, next + gap + length) :: rangesFrom (next + gap + length + 1) rest
  | _ => []

def ofGaps (text : String) : CharSet :=
  ⟨rangesFrom 0 (numbers36 text.toList none)⟩

/-! Membership. -/

theorem holds_insertRange (first last : Nat) (h : first ≤ last) (ranges : List (Nat × Nat))
    (hr : ∀ r ∈ ranges, r.1 ≤ r.2) (n : Nat) :
    holds (insertRange first last ranges) n =
      (decide (first ≤ n ∧ n ≤ last) || holds ranges n) := by
  induction ranges generalizing first last with
  | nil => simp [insertRange, holds]
  | cons r rest ih =>
    obtain ⟨a, b⟩ := r
    have hab : a ≤ b := hr (a, b) (by simp)
    have hrest : ∀ r ∈ rest, r.1 ≤ r.2 := fun r hm => hr r (by simp [hm])
    unfold insertRange
    split
    · simp [holds]
    · split
      · have := ih first last h hrest
        simp only [holds, List.any_cons] at this ⊢
        rw [this]
        cases decide (first ≤ n ∧ n ≤ last) <;> simp
      · rw [ih (min first a) (max last b) (by omega) hrest]
        simp only [holds, List.any_cons]
        have : decide (min first a ≤ n ∧ n ≤ max last b) =
            (decide (first ≤ n ∧ n ≤ last) || (decide (a ≤ n) && decide (n ≤ b))) := by
          rw [Bool.eq_iff_iff]
          simp only [decide_eq_true_eq, Bool.or_eq_true, Bool.and_eq_true]
          omega
        rw [this, Bool.or_assoc]

theorem contains_full (c : Char) : full.contains c = true := by
  have hc : c.toNat ≤ 0x10FFFF := by
    have := c.valid
    simp only [UInt32.isValidChar, Nat.isValidChar] at this
    have hn : c.toNat = c.val.toNat := rfl
    omega
  simp [contains, holds, full, lastCode, hc]

end CharSet

end ModelForm
