import ModelForm.Proofs.CharSets
import ModelForm.Proofs.Words
import ModelForm.Text.Address

/-!
The grammars of mail addresses and of absolute URLs. Both patterns are sequences of sets of
characters that are bound to both ends, so a text passes if it can be cut into words over them. The
sets overlap, and a text can often be cut in several ways: a point may stand within a domain, and
colons and slashes within what follows the scheme. The grammars say what is common to all cuts.
-/

namespace ModelForm

def Text.IsScheme (s : String) : Prop :=
  ∃ first others, s.toList = first :: others ∧ first.isAlpha = true ∧
    ∀ c ∈ others, c.isAlphanum = true ∨ c = '+' ∨ c = '.' ∨ c = '-'

structure Text.IsLocation (s : String) : Prop where
  starts : ∃ first others, s.toList = first :: others ∧ first ≠ '/' ∧ first ≠ '?' ∧ first ≠ '#'
  no_white_space : ∀ c ∈ s.toList, isWhiteSpace c = false

def Text.IsAbsoluteUrl (s : String) : Prop :=
  ∃ scheme location, s = scheme ++ "://" ++ location ∧ IsScheme scheme ∧ IsLocation location

/-- A mail address has one at sign, something in front of it, and a point with something on both
sides behind it. -/
structure Text.IsMailAddress (s : String) : Prop where
  no_white_space : ∀ c ∈ s.toList, isWhiteSpace c = false
  one_at : s.toList.count '@' = 1
  parts : ∃ name domain, s.toList = name ++ '@' :: domain ∧ name ≠ [] ∧
    ∃ before after, domain = before ++ '.' :: after ∧ before ≠ [] ∧ after ≠ []

namespace Regex

deriving instance DecidableEq for Regex

/-! Expressions over sets of characters. -/

def someOf (set : CharSet) : Regex Atom := .times (oneOf set) 1 none

def anyOf (set : CharSet) : Regex Atom := .times (oneOf set) 0 none

theorem isWord_single_iff (c : Char) (word : List Char) :
    IsWord (oneOf (.single c)) word ↔ word = [c] := by
  simp [oneOf, IsWord, CharSet.contains_single]

theorem isWord_oneOf_iff (set : CharSet) (word : List Char) :
    IsWord (oneOf set) word ↔ ∃ c, word = [c] ∧ set.contains c = true := Iff.rfl

theorem isWord_someOf_iff (set : CharSet) (word : List Char) :
    IsWord (someOf set) word ↔ word ≠ [] ∧ ∀ c ∈ word, set.contains c = true := by
  rw [someOf, oneOf, isWord_times_one_iff, Nat.one_le_iff_ne_zero, ne_eq, List.length_eq_zero_iff]

theorem isWord_anyOf_iff (set : CharSet) (word : List Char) :
    IsWord (anyOf set) word ↔ ∀ c ∈ word, set.contains c = true := by
  rw [anyOf, oneOf, isWord_times_one_iff, and_iff_right (Nat.zero_le _)]

def visibleBut (cs : List Char) : CharSet :=
  (CharSet.union ⟨Text.whiteSpaceRanges⟩ (CharSet.ofChars cs)).complement

theorem contains_visibleBut (cs : List Char) (c : Char) :
    (visibleBut cs).contains c = true ↔ Text.isWhiteSpace c = false ∧ c ∉ cs := by
  have hwhite : (⟨Text.whiteSpaceRanges⟩ : CharSet).Ascending := by
    simp [CharSet.Ascending, Text.whiteSpaceRanges, CharSet.AscendingFrom]
  obtain ⟨hchars, hcontains⟩ := CharSet.ofChars_spec c cs
  rw [visibleBut, CharSet.contains_complement _ (CharSet.ascending_union hwhite hchars),
    CharSet.contains_union hwhite hchars, hcontains]
  have hspace : (⟨Text.whiteSpaceRanges⟩ : CharSet).contains c = Text.isWhiteSpace c := rfl
  simp [hspace]

def asciiLetters : CharSet := ⟨[(0x41, 0x5A), (0x61, 0x7A)]⟩

def schemeChars : CharSet := ⟨[(0x2B, 0x2B), (0x2D, 0x2E), (0x30, 0x39), (0x41, 0x5A), (0x61, 0x7A)]⟩

theorem isAlpha_eq (c : Char) : c.isAlpha =
    (decide (0x41 ≤ c.val ∧ c.val ≤ 0x5A) || decide (0x61 ≤ c.val) && decide (c.val ≤ 0x7A)) := rfl

theorem contains_asciiLetters (c : Char) : asciiLetters.contains c = c.isAlpha := by
  simp [CharSet.contains, CharSet.holds, asciiLetters, isAlpha_eq, UInt32.le_iff_toNat_le]

theorem contains_schemeChars (c : Char) : schemeChars.contains c = true ↔
    c.isAlphanum = true ∨ c = '+' ∨ c = '.' ∨ c = '-' := by
  simp only [CharSet.contains, CharSet.holds, schemeChars, List.any_cons, List.any_nil,
    ← Char.toNat_inj, Char.isAlphanum, isAlpha_eq, Char.isDigit,
    Bool.or_eq_true, Bool.and_eq_true, decide_eq_true_eq, UInt32.le_iff_toNat_le, ge_iff_le,
    Char.reduceToNat, Char.toNat_val, Char.reduceVal, UInt32.reduceToNat, Bool.false_eq_true,
    or_false]
  omega

/-! The two patterns. -/

def emailParts : List (Regex Atom) :=
  [someOf (visibleBut ['@']), oneOf (.single '@'), someOf (visibleBut ['@']), oneOf (.single '.'),
    someOf (visibleBut ['@'])]

def urlParts : List (Regex Atom) :=
  [oneOf asciiLetters, anyOf schemeChars, oneOf (.single ':'), oneOf (.single '/'), oneOf (.single '/'),
    someOf (visibleBut ['/', '?', '#']), anyOf (visibleBut [])]

theorem regex?_emailPattern : Text.emailPattern.regex? = some (whole emailParts) := by
  decide +kernel

theorem regex?_urlPattern : Text.urlPattern.regex? = some (whole urlParts) := by
  decide +kernel

theorem ordered_emailParts : ∀ r ∈ emailParts, r.Ordered := by
  simp [emailParts, someOf, oneOf, Ordered]

theorem plain_emailParts : ∀ r ∈ emailParts, r.Plain := by
  simp [emailParts, someOf, oneOf, Plain]

theorem ordered_urlParts : ∀ r ∈ urlParts, r.Ordered := by
  simp [urlParts, someOf, anyOf, oneOf, Ordered]

theorem plain_urlParts : ∀ r ∈ urlParts, r.Plain := by
  simp [urlParts, someOf, anyOf, oneOf, Plain]

/-- A pattern that is a sequence bound to both ends holds of the texts that can be cut into words of
the sequence. -/
theorem occurs?_whole_iff (p : Pattern) (rs : List (Regex Atom)) (hp : p.regex? = some (whole rs))
    (hordered : ∀ r ∈ rs, r.Ordered) (hplain : ∀ r ∈ rs, r.Plain) (s : String) :
    (p.occurs? s).getD false = true ↔
      ∃ words, s.toList = words.flatten ∧ List.Forall₂ IsWord rs words := by
  rw [Pattern.occurs?, hp, Option.map_some, Option.getD_some,
    occurs_iff _ (ordered_whole rs hordered), occurs_whole_iff rs hplain]

/-- How a text is cut by the pattern of mail addresses. -/
theorem words_emailParts_iff (words : List (List Char)) :
    List.Forall₂ IsWord emailParts words ↔ ∃ name before after,
      words = [name, ['@'], before, ['.'], after] ∧
        (name ≠ [] ∧ ∀ c ∈ name, Text.isWhiteSpace c = false ∧ c ≠ '@') ∧
        (before ≠ [] ∧ ∀ c ∈ before, Text.isWhiteSpace c = false ∧ c ≠ '@') ∧
        (after ≠ [] ∧ ∀ c ∈ after, Text.isWhiteSpace c = false ∧ c ≠ '@') := by
  simp only [emailParts, List.forall₂_cons_left_iff, List.forall₂_nil_left_iff,
    isWord_someOf_iff, isWord_single_iff, contains_visibleBut, List.mem_singleton]
  constructor
  · rintro ⟨name, _, hname, ⟨_, _, rfl, ⟨before, _, hbefore, ⟨_, _, rfl, ⟨after, _, hafter, rfl, rfl⟩,
      rfl⟩, rfl⟩, rfl⟩, rfl⟩
    exact ⟨name, before, after, rfl, hname, hbefore, hafter⟩
  · rintro ⟨name, before, after, rfl, hname, hbefore, hafter⟩
    exact ⟨name, _, hname, ⟨_, _, rfl, ⟨before, _, hbefore, ⟨_, _, rfl, ⟨after, _, hafter, rfl, rfl⟩,
      rfl⟩, rfl⟩, rfl⟩, rfl⟩

/-- How a text is cut by the pattern of URLs. -/
theorem words_urlParts_iff (words : List (List Char)) :
    List.Forall₂ IsWord urlParts words ↔ ∃ first others host rest,
      words = [[first], others, [':'], ['/'], ['/'], host, rest] ∧ first.isAlpha = true ∧
        (∀ c ∈ others, c.isAlphanum = true ∨ c = '+' ∨ c = '.' ∨ c = '-') ∧
        (host ≠ [] ∧ ∀ c ∈ host, Text.isWhiteSpace c = false ∧ c ∉ ['/', '?', '#']) ∧
        ∀ c ∈ rest, Text.isWhiteSpace c = false := by
  simp only [urlParts, List.forall₂_cons_left_iff, List.forall₂_nil_left_iff,
    isWord_oneOf_iff asciiLetters, isWord_someOf_iff, isWord_anyOf_iff, isWord_single_iff,
    contains_visibleBut, contains_asciiLetters, contains_schemeChars, List.not_mem_nil,
    not_false_eq_true, and_true]
  constructor
  · rintro ⟨_, _, ⟨first, rfl, hfirst⟩, ⟨others, _, hothers, ⟨_, _, rfl, ⟨_, _, rfl, ⟨_, _, rfl,
      ⟨host, _, hhost, ⟨rest, _, hrest, rfl, rfl⟩, rfl⟩, rfl⟩, rfl⟩, rfl⟩, rfl⟩, rfl⟩
    exact ⟨first, others, host, rest, rfl, hfirst, hothers, hhost, hrest⟩
  · rintro ⟨first, others, host, rest, rfl, hfirst, hothers, hhost, hrest⟩
    exact ⟨_, _, ⟨first, rfl, hfirst⟩, ⟨others, _, hothers, ⟨_, _, rfl, ⟨_, _, rfl, ⟨_, _, rfl,
      ⟨host, _, hhost, ⟨rest, _, hrest, rfl, rfl⟩, rfl⟩, rfl⟩, rfl⟩, rfl⟩, rfl⟩, rfl⟩

end Regex

namespace Text

theorem isEmail_iff (s : String) : isEmail s = true ↔ IsMailAddress s := by
  rw [isEmail, Regex.occurs?_whole_iff _ _ Regex.regex?_emailPattern Regex.ordered_emailParts
    Regex.plain_emailParts]
  simp only [Regex.words_emailParts_iff]
  constructor
  · rintro ⟨_, hs, name, before, after, rfl, ⟨hname, hnames⟩, ⟨hbefore, hbefores⟩, hafter, hafters⟩
    have hs : s.toList = name ++ '@' :: (before ++ '.' :: after) := by simpa using hs
    have hcount : ∀ part : List Char, (∀ c ∈ part, isWhiteSpace c = false ∧ c ≠ '@') →
        part.count '@' = 0 := fun part hpart =>
      List.count_eq_zero.mpr fun hmem => (hpart '@' hmem).2 rfl
    refine ⟨?_, ?_, name, _, hs, hname, before, after, rfl, hbefore, hafter⟩
    · intro c hc
      simp only [hs, List.mem_append, List.mem_cons] at hc
      rcases hc with hc | rfl | hc | rfl | hc
      · exact (hnames c hc).1
      · decide
      · exact (hbefores c hc).1
      · decide
      · exact (hafters c hc).1
    · rw [hs, List.count_append, List.count_cons_self, List.count_append, List.count_cons_of_ne
        (by decide), hcount name hnames, hcount before hbefores, hcount after hafters]
  · rintro ⟨hwhite, hone, name, _, hs, hname, before, after, rfl, hbefore, hafter⟩
    have hzero : name.count '@' = 0 ∧ before.count '@' = 0 ∧ after.count '@' = 0 := by
      rw [hs, List.count_append, List.count_cons_self, List.count_append, List.count_cons_of_ne
        (by decide)] at hone
      omega
    have hpart : ∀ part : List Char, part.count '@' = 0 → (∀ c ∈ part, c ∈ s.toList) →
        ∀ c ∈ part, isWhiteSpace c = false ∧ c ≠ '@' := by
      rintro part hpart hin c hc
      refine ⟨hwhite c (hin c hc), ?_⟩
      rintro rfl
      exact List.count_eq_zero.mp hpart hc
    refine ⟨_, by simpa using hs, name, before, after, rfl, ⟨hname, ?_⟩, ⟨hbefore, ?_⟩, hafter, ?_⟩
    · exact hpart name hzero.1 fun c hc => by simp [hs, hc]
    · exact hpart before hzero.2.1 fun c hc => by simp [hs, hc]
    · exact hpart after hzero.2.2 fun c hc => by simp [hs, hc]

theorem isUrl_iff (s : String) : isUrl s = true ↔ IsAbsoluteUrl s := by
  rw [isUrl, Regex.occurs?_whole_iff _ _ Regex.regex?_urlPattern Regex.ordered_urlParts
    Regex.plain_urlParts]
  simp only [Regex.words_urlParts_iff]
  constructor
  · rintro ⟨_, hs, first, others, host, rest, rfl, hfirst, hothers, ⟨hhost, hhosts⟩, hrest⟩
    obtain ⟨h, hosts, rfl⟩ := List.exists_cons_of_ne_nil hhost
    have hstart := (hhosts h List.mem_cons_self).2
    refine ⟨String.ofList (first :: others), String.ofList (h :: hosts ++ rest), ?_, ?_, ?_, ?_⟩
    · rw [← String.toList_inj]
      simpa using hs
    · exact ⟨first, others, String.toList_ofList, hfirst, hothers⟩
    · exact ⟨h, hosts ++ rest, String.toList_ofList, by simpa using hstart⟩
    · intro c hc
      rw [String.toList_ofList] at hc
      rcases List.mem_append.mp hc with hc | hc
      · exact (hhosts c hc).1
      · exact hrest c hc
  · rintro ⟨scheme, location, rfl, ⟨first, others, hscheme, hfirst, hothers⟩,
      ⟨h, rest, hlocation, hstart⟩, hwhite⟩
    -- the host may be as short as its first character
    refine ⟨_, ?_, first, others, [h], rest, rfl, hfirst, hothers, ⟨by simp, ?_⟩, ?_⟩
    · simp [hscheme, hlocation]
    · intro c hc
      obtain rfl := List.mem_singleton.mp hc
      exact ⟨hwhite c (by simp [hlocation]), by simpa using hstart⟩
    · exact fun c hc => hwhite c (by simp [hlocation, hc])

/-- The patterns accept exactly the mail addresses, and exactly the absolute URLs. -/
theorem address_patterns_exact (s : String) :
    (isEmail s = true ↔ IsMailAddress s) ∧ (isUrl s = true ↔ IsAbsoluteUrl s) :=
  ⟨isEmail_iff s, isUrl_iff s⟩

end Text

end ModelForm
