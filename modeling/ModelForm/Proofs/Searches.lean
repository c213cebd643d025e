import Mathlib.Data.Nat.Bitwise
import ModelForm.Regex.Search

/-!
The search is right: it finds an expression in a text exactly if the expression matches
somewhere in it. A set of places is moved by an expression to the places at which its matches from
there end; a repetition is a number of moves, and since no match goes back, as many moves as there
are places are enough for any number of them.
-/

namespace ModelForm.Regex

def Ordered {α : Type} : Regex α → Prop
  | .empty => True
  | .leaf _ => True
  | .concat r s => r.Ordered ∧ s.Ordered
  | .either r s => r.Ordered ∧ s.Ordered
  | .times r least most => r.Ordered ∧ ∀ n ∈ most, least ≤ n

def Steps (step : Nat → Nat → Prop) : Nat → Nat → Nat → Prop
  | 0, i, j => i = j
  | n + 1, i, j => ∃ k, step i k ∧ Steps step n k j

/-! Matches. -/

section Matches

variable {α : Type} {leaf : α → Nat → Nat → Prop}

theorem matches_empty_iff (i j : Nat) : Matches leaf .empty i j ↔ i = j := by
  constructor
  · rintro ⟨⟩
    rfl
  · rintro rfl
    exact .empty

theorem matches_leaf_iff (a : α) (i j : Nat) : Matches leaf (.leaf a) i j ↔ leaf a i j := by
  constructor
  · rintro (_ | h)
    exact h
  · exact .leaf

theorem matches_concat_iff (r s : Regex α) (i j : Nat) :
    Matches leaf (.concat r s) i j ↔ ∃ k, Matches leaf r i k ∧ Matches leaf s k j := by
  constructor
  · rintro (_ | _ | ⟨hr, hs⟩)
    exact ⟨_, hr, hs⟩
  · rintro ⟨k, hr, hs⟩
    exact .concat hr hs

theorem matches_either_iff (r s : Regex α) (i j : Nat) :
    Matches leaf (.either r s) i j ↔ Matches leaf r i j ∨ Matches leaf s i j := by
  constructor
  · intro h
    cases h with
    | left h => exact Or.inl h
    | right h => exact Or.inr h
  · rintro (h | h)
    · exact .left h
    · exact .right h

theorem steps_of_matches_times (r : Regex α) (least : Nat) (most : Option Nat) (i j : Nat)
    (h : Matches leaf (.times r least most) i j) :
    ∃ n, least ≤ n ∧ (∀ m ∈ most, n ≤ m) ∧ Steps (Matches leaf r) n i j := by
  generalize hs : Regex.times r least most = s at h
  induction h generalizing least most with
  | stop =>
    obtain ⟨rfl, rfl, rfl⟩ := Regex.times.inj hs
    exact ⟨0, le_rfl, fun m _ => Nat.zero_le m, rfl⟩
  | again hmost hfirst _ _ ih =>
    obtain ⟨rfl, rfl, rfl⟩ := Regex.times.inj hs
    obtain ⟨n, hleast, hmany, hsteps⟩ := ih _ _ rfl
    refine ⟨n + 1, by omega, ?_, _, hfirst, hsteps⟩
    rintro m rfl
    have hpositive : m ≠ 0 := fun h0 => hmost (congrArg some h0)
    have hn : n ≤ m - 1 := hmany (m - 1) rfl
    omega
  | _ => cases hs

theorem matches_times_of_steps (r : Regex α) (n : Nat) (least : Nat) (most : Option Nat) (i j : Nat)
    (hleast : least ≤ n) (hmost : ∀ m ∈ most, n ≤ m) (h : Steps (Matches leaf r) n i j) :
    Matches leaf (.times r least most) i j := by
  induction n generalizing least most i with
  | zero =>
    obtain rfl : least = 0 := Nat.le_zero.mp hleast
    obtain rfl : i = j := h
    exact .stop
  | succ n ih =>
    obtain ⟨k, hfirst, hrest⟩ := h
    refine .again ?_ hfirst (ih (least - 1) _ k (by omega) ?_ hrest)
    · rintro rfl
      exact absurd (hmost 0 rfl) (by omega)
    · intro m hm
      obtain ⟨b, hb, rfl⟩ := Option.mem_map.mp hm
      have hn := hmost b hb
      omega

/-- To match a repetition is to match its body a number of times that its bounds allow. -/
theorem matches_times_iff (r : Regex α) (least : Nat) (most : Option Nat) (i j : Nat) :
    Matches leaf (.times r least most) i j ↔
      ∃ n, least ≤ n ∧ (∀ m ∈ most, n ≤ m) ∧ Steps (Matches leaf r) n i j := by
  constructor
  · exact steps_of_matches_times r least most i j
  · rintro ⟨n, hleast, hmost, h⟩
    exact matches_times_of_steps r n least most i j hleast hmost h

/-- A step that stays where it is, or goes forward and ends within the bound. -/
def Advances (size : Nat) (step : Nat → Nat → Prop) : Prop :=
  ∀ i j, step i j → i ≤ j ∧ (i < j → j < size)

/-- If no leaf goes back, no match does. -/
theorem advances_matches {size : Nat} (hleaf : ∀ a, Advances size (leaf a)) (r : Regex α) :
    Advances size (Matches leaf r) := by
  intro i j h
  have hjoin : ∀ {i k j : Nat}, i ≤ k ∧ (i < k → k < size) → k ≤ j ∧ (k < j → j < size) →
      i ≤ j ∧ (i < j → j < size) := by
    intro i k j hik hkj
    omega
  induction h with
  | empty => exact ⟨le_rfl, fun hlt => absurd hlt (lt_irrefl _)⟩
  | leaf h => exact hleaf _ _ _ h
  | concat _ _ ihr ihs => exact hjoin ihr ihs
  | left _ ih => exact ih
  | right _ ih => exact ih
  | stop => exact ⟨le_rfl, fun hlt => absurd hlt (lt_irrefl _)⟩
  | again _ _ _ ihr ihs => exact hjoin ihr ihs

end Matches

/-! Steps. -/

section Steps

variable {step : Nat → Nat → Prop}

theorem Steps.append (m n i j k : Nat) (hm : Steps step m i j) (hn : Steps step n j k) :
    Steps step (m + n) i k := by
  induction m generalizing i with
  | zero =>
    obtain rfl : i = j := hm
    simpa using hn
  | succ m ih =>
    obtain ⟨l, hfirst, hrest⟩ := hm
    rw [Nat.succ_add]
    exact ⟨l, hfirst, ih l hrest⟩

theorem Steps.split (m n i k : Nat) (h : Steps step (m + n) i k) :
    ∃ j, Steps step m i j ∧ Steps step n j k := by
  induction m generalizing i with
  | zero => exact ⟨i, rfl, by simpa using h⟩
  | succ m ih =>
    rw [Nat.succ_add] at h
    obtain ⟨l, hfirst, hrest⟩ := h
    obtain ⟨j, hm, hn⟩ := ih l hrest
    exact ⟨j, ⟨l, hfirst, hm⟩, hn⟩

/-- Steps that stay can be left out, and no more of the others are needed than there are places. -/
theorem Steps.exists_short {size : Nat} (hstep : Advances size step) (n i j : Nat)
    (h : Steps step n i j) : ∃ m ≤ size, Steps step m i j := by
  have hshort : i ≤ j ∧ (i < j → j < size) ∧ ∃ m ≤ j - i, Steps step m i j := by
    induction n generalizing i with
    | zero =>
      obtain rfl : i = j := h
      exact ⟨le_rfl, fun hlt => absurd hlt (lt_irrefl _), 0, Nat.zero_le _, rfl⟩
    | succ n ih =>
      obtain ⟨k, hfirst, hrest⟩ := h
      obtain ⟨hkj, hbound, m, hm, hsteps⟩ := ih k hrest
      obtain ⟨hik, hk⟩ := hstep i k hfirst
      refine ⟨by omega, by omega, ?_⟩
      rcases Nat.eq_or_lt_of_le hik with rfl | hlt
      · exact ⟨m, hm, hsteps⟩
      · exact ⟨m + 1, by omega, k, hfirst, hsteps⟩
  obtain ⟨hle, hbound, m, hm, hsteps⟩ := hshort
  exact ⟨m, by omega, hsteps⟩

end Steps

/-! Sets of places. -/

/-- The move takes a set of places to the places that a step leads to from one of them. -/
def Follows (move : Nat → Nat) (step : Nat → Nat → Prop) : Prop :=
  ∀ places j, (move places).testBit j = true ↔ ∃ i, places.testBit i = true ∧ step i j

theorem testBit_bit (b : Bool) (i k : Nat) :
    (if b = true then Nat.pow 2 i else 0).testBit k = true ↔ k = i ∧ b = true := by
  have hpow : (Nat.pow 2 i).testBit k = decide (i = k) := Nat.testBit_two_pow
  cases b with
  | true => rw [if_pos rfl, hpow, decide_eq_true_eq, eq_comm, and_iff_left rfl]
  | false => simp

/-- The places found from `i` on are those at which the condition holds, and `i` is the first. -/
theorem testBit_placesFrom (p : Option Char → Option Char → Bool) (before : Option Char) (i k : Nat)
    (text : List Char) : (placesFrom p before i text).testBit k = true ↔ ∃ d, k = i + d ∧
      d ≤ text.length ∧ p (if d = 0 then before else text[d - 1]?) text[d]? = true := by
  induction text generalizing before i with
  | nil =>
    rw [placesFrom, testBit_bit]
    constructor
    · rintro ⟨rfl, hp⟩
      exact ⟨0, rfl, le_rfl, hp⟩
    · rintro ⟨d, rfl, hd, hp⟩
      obtain rfl : d = 0 := Nat.le_zero.mp hd
      exact ⟨rfl, hp⟩
  | cons c rest ih =>
    rw [placesFrom, Nat.testBit_or, Bool.or_eq_true, testBit_bit, ih (some c) (i + 1)]
    constructor
    · rintro (⟨rfl, hp⟩ | ⟨d, rfl, hd, hp⟩)
      · exact ⟨0, rfl, Nat.zero_le _, hp⟩
      · refine ⟨d + 1, by omega, Nat.succ_le_succ hd, ?_⟩
        cases d with
        | zero => exact hp
        | succ d => exact hp
    · rintro ⟨d, rfl, hd, hp⟩
      cases d with
      | zero => exact Or.inl ⟨rfl, hp⟩
      | succ d =>
        refine Or.inr ⟨d, by omega, Nat.le_of_succ_le_succ hd, ?_⟩
        cases d with
        | zero => exact hp
        | succ d => exact hp

/-- The places of a condition are those within the text at which it holds. -/
theorem testBit_places (p : Option Char → Option Char → Bool) (text : List Char) (k : Nat) :
    (places p text).testBit k = true ↔
      k ≤ text.length ∧ p (charBefore text k) text[k]? = true := by
  rw [places, testBit_placesFrom]
  constructor
  · rintro ⟨d, hk, hd, hp⟩
    obtain rfl : k = d := by omega
    exact ⟨hd, hp⟩
  · rintro ⟨hk, hp⟩
    exact ⟨k, (Nat.zero_add k).symm, hk, hp⟩

/-- A leaf moves as it matches. -/
theorem follows_mask (text : List Char) (a : Atom) :
    Follows (a.mask text).move (Atom.Matches text a) := by
  intro places j
  cases a with
  | one set =>
    simp only [Atom.mask, Mask.move, Nat.testBit_shiftLeft, Nat.testBit_and, Bool.and_eq_true,
      decide_eq_true_eq, testBit_places]
    constructor
    · rintro ⟨hj, hplace, hle, hany⟩
      obtain ⟨c, hc, hset⟩ := (Option.any_eq_true _ _).mp hany
      obtain ⟨i, rfl⟩ : ∃ i, j = i + 1 := ⟨j - 1, by omega⟩
      exact ⟨i, hplace, .one hc hset⟩
    · rintro ⟨i, hplace, hmatch⟩
      cases hmatch with
      | one hc hset =>
        have hlt : i < text.length := (List.getElem?_eq_some_iff.mp hc).1
        simp [hplace, hc, hset, hlt.le]
  | look l =>
    simp only [Atom.mask, Mask.move, Nat.testBit_and, Bool.and_eq_true, testBit_places]
    constructor
    · rintro ⟨hplace, hle, hholds⟩
      exact ⟨j, hplace, .look hle hholds⟩
    · rintro ⟨i, hplace, hmatch⟩
      cases hmatch with
      | look hle hholds => exact ⟨hplace, hle, hholds⟩

theorem advances_atom (text : List Char) (a : Atom) :
    Advances (text.length + 1) (Atom.Matches text a) := by
  intro i j h
  cases h with
  | one hc _ =>
    have hlt := (List.getElem?_eq_some_iff.mp hc).1
    omega
  | look hle _ => omega

section Moves

variable {move : Nat → Nat} {step : Nat → Nat → Prop} (h : Follows move step)
include h

theorem follows_exactly (n : Nat) : Follows (exactly move n) (Steps step n) := by
  induction n with
  | zero =>
    intro places j
    simp [exactly, Steps]
  | succ n ih =>
    intro places j
    rw [exactly]
    split
    · next hzero => simp [hzero]
    · rw [ih]
      constructor
      · rintro ⟨k, hk, hsteps⟩
        obtain ⟨i, hi, hstep⟩ := (h places k).mp hk
        exact ⟨i, hi, k, hstep, hsteps⟩
      · rintro ⟨i, hi, k, hstep, hsteps⟩
        exact ⟨k, (h places k).mpr ⟨i, hi, hstep⟩, hsteps⟩

/-- A set that a move adds nothing to is left by no number of steps. -/
theorem testBit_of_steps (places : Nat) (hclosed : places ||| move places = places) (n i j : Nat)
    (hi : places.testBit i = true) (hsteps : Steps step n i j) : places.testBit j = true := by
  induction n generalizing i with
  | zero =>
    obtain rfl : i = j := hsteps
    exact hi
  | succ n ih =>
    obtain ⟨k, hfirst, hrest⟩ := hsteps
    refine ih k ?_ hrest
    rw [← hclosed, Nat.testBit_or, Bool.or_eq_true]
    exact Or.inr ((h places k).mpr ⟨i, hi, hfirst⟩)

theorem follows_upTo (n : Nat) : Follows (upTo move n) fun i j => ∃ m ≤ n, Steps step m i j := by
  induction n with
  | zero =>
    intro places j
    simp [upTo, Steps]
  | succ n ih =>
    intro places j
    rw [upTo]
    dsimp only
    split
    · next hclosed =>
      constructor
      · exact fun hj => ⟨j, hj, 0, Nat.zero_le _, rfl⟩
      · rintro ⟨i, hi, m, -, hsteps⟩
        exact testBit_of_steps h places hclosed m i j hi hsteps
    · rw [ih]
      constructor
      · rintro ⟨k, hk, m, hm, hsteps⟩
        rw [Nat.testBit_or, Bool.or_eq_true, h places k] at hk
        rcases hk with hk | ⟨i, hi, hstep⟩
        · exact ⟨k, hk, m, by omega, hsteps⟩
        · exact ⟨i, hi, m + 1, by omega, k, hstep, hsteps⟩
      · rintro ⟨i, hi, m, hm, hsteps⟩
        cases m with
        | zero =>
          refine ⟨i, ?_, 0, Nat.zero_le _, hsteps⟩
          rw [Nat.testBit_or, hi, Bool.true_or]
        | succ m =>
          obtain ⟨k, hstep, hrest⟩ := hsteps
          refine ⟨k, ?_, m, by omega, hrest⟩
          rw [Nat.testBit_or, Bool.or_eq_true, h places k]
          exact Or.inr ⟨i, hi, hstep⟩

end Moves

/-- A search moves places as the expression matches. -/
theorem follows_run (text : List Char) (r : Regex Atom) (hr : r.Ordered) :
    Follows ((r.map (Atom.mask text)).run (text.length + 1)) (Matches (Atom.Matches text) r) := by
  induction r with
  | empty =>
    intro places j
    simp [map, run, matches_empty_iff]
  | leaf a =>
    intro places j
    simp only [map, run, matches_leaf_iff]
    exact follows_mask text a places j
  | concat r s ihr ihs =>
    intro places j
    simp only [map, run, matches_concat_iff]
    rw [ihs hr.2]
    constructor
    · rintro ⟨k, hk, hs⟩
      obtain ⟨i, hi, hr'⟩ := (ihr hr.1 places k).mp hk
      exact ⟨i, hi, k, hr', hs⟩
    · rintro ⟨i, hi, k, hr', hs⟩
      exact ⟨k, (ihr hr.1 places k).mpr ⟨i, hi, hr'⟩, hs⟩
  | either r s ihr ihs =>
    intro places j
    simp only [map, run, matches_either_iff, Nat.testBit_or, Bool.or_eq_true, ihr hr.1 places j,
      ihs hr.2 places j, and_or_left, exists_or]
  | times r least most ih =>
    intro places j
    have hmove := ih hr.1
    have hadvances := advances_matches (advances_atom text) r
    simp only [map, run, matches_times_iff]
    cases most with
    | none =>
      dsimp only
      rw [follows_upTo hmove]
      constructor
      · rintro ⟨k, hk, m, -, hm⟩
        obtain ⟨i, hi, hleast⟩ := (follows_exactly hmove least places k).mp hk
        exact ⟨i, hi, least + m, Nat.le_add_right _ _, by simp, hleast.append _ _ _ _ _ hm⟩
      · rintro ⟨i, hi, n, hn, -, hsteps⟩
        obtain ⟨d, rfl⟩ := Nat.exists_eq_add_of_le hn
        obtain ⟨k, hleast, hrest⟩ := Steps.split least d i j hsteps
        obtain ⟨m, hm, hshort⟩ := Steps.exists_short hadvances d k j hrest
        exact ⟨k, (follows_exactly hmove least places k).mpr ⟨i, hi, hleast⟩, m, hm, hshort⟩
    | some most =>
      have hbound : least ≤ most := hr.2 most rfl
      dsimp only
      rw [follows_upTo hmove]
      constructor
      · rintro ⟨k, hk, m, hm, hsteps⟩
        obtain ⟨i, hi, hleast⟩ := (follows_exactly hmove least places k).mp hk
        refine ⟨i, hi, least + m, Nat.le_add_right _ _, ?_, hleast.append _ _ _ _ _ hsteps⟩
        rintro _ ⟨⟩
        omega
      · rintro ⟨i, hi, n, hn, hmost, hsteps⟩
        obtain ⟨d, rfl⟩ := Nat.exists_eq_add_of_le hn
        have hd : least + d ≤ most := hmost most rfl
        obtain ⟨k, hleast, hrest⟩ := Steps.split least d i j hsteps
        exact ⟨k, (follows_exactly hmove least places k).mpr ⟨i, hi, hleast⟩, d, by omega, hrest⟩

/-- The search finds an expression exactly if it matches somewhere in the text. -/
theorem occurs_iff (r : Regex Atom) (hr : r.Ordered) (text : List Char) :
    r.occurs text = true ↔ Occurs r text := by
  have hall : ∀ i, (Nat.pow 2 (text.length + 1) - 1).testBit i = true ↔ i ≤ text.length := by
    intro i
    have hpow := Nat.testBit_two_pow_sub_one (text.length + 1) i
    rw [show Nat.pow 2 (text.length + 1) - 1 = 2 ^ (text.length + 1) - 1 from rfl, hpow,
      decide_eq_true_eq]
    omega
  have hfollows := follows_run text r hr (Nat.pow 2 (text.length + 1) - 1)
  simp only [occurs, bne_iff_ne, ne_eq]
  constructor
  · intro hne
    obtain ⟨j, hj⟩ := Nat.exists_testBit_of_ne_zero hne
    obtain ⟨i, hi, hmatch⟩ := (hfollows j).mp hj
    exact ⟨i, j, (hall i).mp hi, hmatch⟩
  · rintro ⟨i, j, hi, hmatch⟩ hzero
    have hj := (hfollows j).mpr ⟨i, (hall i).mpr hi, hmatch⟩
    rw [hzero, Nat.zero_testBit] at hj
    cases hj

end ModelForm.Regex
