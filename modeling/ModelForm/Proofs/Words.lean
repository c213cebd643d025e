import Mathlib.Data.List.Forall2
import ModelForm.Proofs.Searches

/-!
The words of an expression. An expression that asserts nothing matches in a text wherever one of its
words stands, whatever is around it. So a sequence of such expressions that is bound to both ends
occurs in a text exactly if the text can be cut into words of them, one after another.
-/

namespace ModelForm.Regex

/-- The expression only takes characters, and asserts nothing. -/
def Plain : Regex Atom → Prop
  | .empty => True
  | .leaf (.one _) => True
  | .leaf (.look _) => False
  | .concat r s => r.Plain ∧ s.Plain
  | .either r s => r.Plain ∧ s.Plain
  | .times r _ _ => r.Plain

def InRow (isWord : List Char → Prop) : Nat → List Char → Prop
  | 0, text => text = []
  | n + 1, text => ∃ word rest, text = word ++ rest ∧ isWord word ∧ InRow isWord n rest

def IsWord : Regex Atom → List Char → Prop
  | .empty, word => word = []
  | .leaf (.one set), word => ∃ c, word = [c] ∧ set.contains c = true
  | .leaf (.look _), _ => False
  | .concat r s, word => ∃ u v, word = u ++ v ∧ r.IsWord u ∧ s.IsWord v
  | .either r s, word => r.IsWord word ∨ s.IsWord word
  | .times r least most, word =>
    ∃ n, least ≤ n ∧ (∀ m ∈ most, n ≤ m) ∧ InRow r.IsWord n word

/-- Steps that go over words go over words in a row. -/
theorem steps_iff_inRow {step : List Char → Nat → Nat → Prop} {isWord : List Char → Prop}
    (hstep : ∀ before after j, step (before ++ after) before.length j ↔
      ∃ word rest, after = word ++ rest ∧ isWord word ∧ j = (before ++ word).length)
    (n : Nat) (before after : List Char) (j : Nat) :
    Steps (step (before ++ after)) n before.length j ↔
      ∃ word rest, after = word ++ rest ∧ InRow isWord n word ∧ j = (before ++ word).length := by
  induction n generalizing before after with
  | zero =>
    constructor
    · rintro rfl
      exact ⟨[], after, rfl, rfl, by simp⟩
    · rintro ⟨word, rest, -, rfl, rfl⟩
      simp [Steps]
  | succ n ih =>
    constructor
    · rintro ⟨k, hfirst, hrest⟩
      obtain ⟨word, rest, rfl, hword, rfl⟩ := (hstep before after k).mp hfirst
      rw [← List.append_assoc] at hrest
      obtain ⟨more, rest, rfl, hmore, rfl⟩ := (ih (before ++ word) rest).mp hrest
      exact ⟨word ++ more, rest, by simp, ⟨word, more, rfl, hword, hmore⟩, by simp⟩
    · rintro ⟨_, rest, rfl, ⟨word, more, rfl, hword, hmore⟩, rfl⟩
      refine ⟨(before ++ word).length, (hstep _ _ _).mpr ⟨word, more ++ rest, by simp, hword, rfl⟩, ?_⟩
      have hrest := (ih (before ++ word) (more ++ rest)).mpr ⟨more, rest, rfl, hmore, by simp⟩
      simpa only [List.append_assoc] using hrest

/-- Where an expression that asserts nothing matches, the match goes over one of its words. -/
theorem matches_iff_isWord (r : Regex Atom) (hr : r.Plain) (before after : List Char) (j : Nat) :
    Matches (Atom.Matches (before ++ after)) r before.length j ↔
      ∃ word rest, after = word ++ rest ∧ r.IsWord word ∧ j = (before ++ word).length := by
  induction r generalizing before after j with
  | empty =>
    rw [matches_empty_iff]
    constructor
    · rintro rfl
      exact ⟨[], after, rfl, rfl, by simp⟩
    · rintro ⟨word, rest, -, rfl, rfl⟩
      simp
  | leaf a =>
    rw [matches_leaf_iff]
    cases a with
    | look l => exact absurd hr id
    | one set =>
      constructor
      · intro h
        cases h with
        | @one _ c _ hc hset =>
          cases after with
          | nil => simp at hc
          | cons d rest =>
            obtain rfl : d = c := by simpa using hc
            exact ⟨[d], rest, rfl, ⟨d, rfl, hset⟩, by simp⟩
      · rintro ⟨word, rest, rfl, ⟨c, rfl, hset⟩, rfl⟩
        rw [List.length_append]
        exact .one (by simp) hset
  | concat r s ihr ihs =>
    rw [matches_concat_iff]
    constructor
    · rintro ⟨k, hfirst, hrest⟩
      obtain ⟨u, rest, rfl, hu, rfl⟩ := (ihr hr.1 before after k).mp hfirst
      rw [← List.append_assoc] at hrest
      obtain ⟨v, rest, rfl, hv, rfl⟩ := (ihs hr.2 (before ++ u) rest j).mp hrest
      exact ⟨u ++ v, rest, by simp, ⟨u, v, rfl, hu, hv⟩, by simp⟩
    · rintro ⟨_, rest, rfl, ⟨u, v, rfl, hu, hv⟩, rfl⟩
      refine ⟨(before ++ u).length, (ihr hr.1 _ _ _).mpr ⟨u, v ++ rest, by simp, hu, rfl⟩, ?_⟩
      have hrest := (ihs hr.2 (before ++ u) (v ++ rest) _).mpr ⟨v, rest, rfl, hv, rfl⟩
      simpa only [List.append_assoc] using hrest
  | either r s ihr ihs =>
    rw [matches_either_iff, ihr hr.1, ihs hr.2]
    simp only [IsWord, or_and_right, and_or_left, exists_or]
  | times r least most ih =>
    rw [matches_times_iff]
    have hsteps := fun n => @steps_iff_inRow (fun text => Matches (Atom.Matches text) r) r.IsWord
      (fun before after j => ih hr before after j) n before after j
    simp only [hsteps]
    constructor
    · rintro ⟨n, hleast, hmost, word, rest, rfl, hword, rfl⟩
      exact ⟨word, rest, rfl, ⟨n, hleast, hmost, hword⟩, rfl⟩
    · rintro ⟨word, rest, rfl, ⟨n, hleast, hmost, hword⟩, rfl⟩
      exact ⟨n, hleast, hmost, word, rest, rfl, hword, rfl⟩

/-! Expressions that are bound to both ends. -/

def upToEnd : List (Regex Atom) → Regex Atom
  | [] => .leaf (.look .textEnd)
  | r :: rest => .concat r (upToEnd rest)

def whole (rs : List (Regex Atom)) : Regex Atom :=
  .concat (.leaf (.look .textStart)) (upToEnd rs)

theorem ordered_whole (rs : List (Regex Atom)) (hrs : ∀ r ∈ rs, r.Ordered) :
    (whole rs).Ordered := by
  refine ⟨trivial, ?_⟩
  induction rs with
  | nil => trivial
  | cons r rest ih =>
    exact ⟨hrs r List.mem_cons_self, ih fun s hs => hrs s (List.mem_cons_of_mem _ hs)⟩

theorem matches_upToEnd_iff (rs : List (Regex Atom)) (hrs : ∀ r ∈ rs, r.Plain)
    (before after : List Char) :
    (∃ j, Matches (Atom.Matches (before ++ after)) (upToEnd rs) before.length j) ↔
      ∃ words, after = words.flatten ∧ List.Forall₂ IsWord rs words := by
  induction rs generalizing before after with
  | nil =>
    simp only [upToEnd, matches_leaf_iff, List.forall₂_nil_left_iff, exists_eq_right,
      List.flatten_nil]
    constructor
    · rintro ⟨_, ⟨⟩⟩
      next hholds => simpa [Look.holds] using hholds
    · rintro rfl
      exact ⟨before.length, .look (by simp) (by simp [Look.holds])⟩
  | cons r rest ih =>
    have hr := hrs r List.mem_cons_self
    have hrest := fun s hs => hrs s (List.mem_cons_of_mem _ hs)
    simp only [upToEnd, matches_concat_iff]
    constructor
    · rintro ⟨j, k, hfirst, hlater⟩
      obtain ⟨word, later, rfl, hword, rfl⟩ := (matches_iff_isWord r hr before after k).mp hfirst
      rw [← List.append_assoc] at hlater
      obtain ⟨words, rfl, hwords⟩ := (ih hrest (before ++ word) later).mp ⟨j, hlater⟩
      exact ⟨word :: words, rfl, .cons hword hwords⟩
    · rintro ⟨_, rfl, hall⟩
      cases hall with
      | @cons _ word _ words hword hwords =>
        obtain ⟨j, hlater⟩ := (ih hrest (before ++ word) words.flatten).mpr ⟨words, rfl, hwords⟩
        rw [List.append_assoc] at hlater
        have hfirst := (matches_iff_isWord r hr before _ _).mpr
          ⟨word, words.flatten, rfl, hword, rfl⟩
        exact ⟨j, (before ++ word).length, hfirst, hlater⟩

theorem matches_textStart_iff (text : List Char) (i j : Nat) :
    Atom.Matches text (.look .textStart) i j ↔ i = 0 ∧ j = 0 := by
  constructor
  · intro h
    cases h with
    | look hle hholds =>
      simp only [Look.holds, Option.isNone_iff_eq_none, charBefore, ite_eq_left_iff,
        List.getElem?_eq_none_iff] at hholds
      have hzero : i = 0 := by
        by_contra hne
        have hend := hholds hne
        omega
      exact ⟨hzero, hzero⟩
  · rintro ⟨rfl, rfl⟩
    exact .look (Nat.zero_le _) rfl

/-- A sequence bound to both ends occurs in a text exactly if the text is a word of each in turn. -/
theorem occurs_whole_iff (rs : List (Regex Atom)) (hrs : ∀ r ∈ rs, r.Plain) (text : List Char) :
    Occurs (whole rs) text ↔
      ∃ words, text = words.flatten ∧ List.Forall₂ IsWord rs words := by
  rw [← matches_upToEnd_iff rs hrs [] text]
  simp only [Occurs, whole, matches_concat_iff, matches_leaf_iff, matches_textStart_iff]
  constructor
  · rintro ⟨i, j, -, k, ⟨-, rfl⟩, hrest⟩
    exact ⟨j, hrest⟩
  · rintro ⟨j, hrest⟩
    exact ⟨0, j, Nat.zero_le _, 0, ⟨rfl, rfl⟩, hrest⟩

/-! Words over a set of characters. -/

theorem inRow_one_iff (set : CharSet) (n : Nat) (word : List Char) :
    InRow (IsWord (.leaf (.one set))) n word ↔
      word.length = n ∧ ∀ c ∈ word, set.contains c = true := by
  induction n generalizing word with
  | zero => simp +contextual [InRow, List.length_eq_zero_iff]
  | succ n ih =>
    simp only [InRow, ih]
    constructor
    · rintro ⟨_, rest, rfl, ⟨c, rfl, hc⟩, hlength, hrest⟩
      refine ⟨by simp [hlength], ?_⟩
      intro d hd
      rcases List.mem_cons.mp hd with rfl | hd
      · exact hc
      · exact hrest d hd
    · rintro ⟨hlength, hall⟩
      cases word with
      | nil => cases hlength
      | cons c rest =>
        refine ⟨[c], rest, rfl, ⟨c, rfl, hall c List.mem_cons_self⟩, Nat.succ.inj hlength, ?_⟩
        exact fun d hd => hall d (List.mem_cons_of_mem _ hd)

/-- The words of a repeated set are the texts over it that are long enough. -/
theorem isWord_times_one_iff (set : CharSet) (least : Nat) (word : List Char) :
    IsWord (.times (.leaf (.one set)) least none) word ↔
      least ≤ word.length ∧ ∀ c ∈ word, set.contains c = true := by
  simp only [IsWord, Option.not_mem_none, false_implies, implies_true, true_and]
  constructor
  · rintro ⟨n, hn, hrow⟩
    obtain ⟨rfl, hall⟩ := (inRow_one_iff set n word).mp hrow
    exact ⟨hn, hall⟩
  · rintro ⟨hlength, hall⟩
    exact ⟨word.length, hlength, (inRow_one_iff set _ word).mpr ⟨rfl, hall⟩⟩

end ModelForm.Regex
