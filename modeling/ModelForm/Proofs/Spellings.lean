import ModelForm.Proofs.NumberTexts

/-!
Texts that spell a value: wherever such a text stands, it is read as the document of the value, and
reading goes on right behind it. Null, truth values, legible numbers and all strings are spelled by
what is written for them, and blanks in front make no difference.
-/

namespace ModelForm.Document

/-! Strings. -/

theorem hexValue?_hexDigit : ∀ n < 16, hexValue? (Json.hexDigit n) = some n := by decide

/-- A character that needs no escape stands for itself. -/
theorem scanString_plain (fuel : Nat) (done : List Char) (c : Char) (cs : List Char)
    (hquote : c ≠ '"') (hslash : c ≠ '\\') (h : ¬ c.toNat < 0x20) :
    scanString (fuel + 1) (.ok done) (c :: cs) = scanString fuel (.ok (c :: done)) cs := by
  rw [scanString.eq_def]
  split <;> simp_all [Except.map]

/-- A control character is read from its code. -/
theorem scanString_control (fuel : Nat) (done : List Char) (c : Char) (cs : List Char)
    (h : c.toNat < 0x20) :
    scanString (fuel + 1) (.ok done) (['\\', 'u', '0', '0', Json.hexDigit (c.toNat / 16),
      Json.hexDigit (c.toNat % 16)] ++ cs) = scanString fuel (.ok (c :: done)) cs := by
  have hhigh := hexValue?_hexDigit (c.toNat / 16) (by omega)
  have hlow := hexValue?_hexDigit (c.toNat % 16) (by omega)
  have hcode : c.toNat / 16 * 16 + c.toNat % 16 = c.toNat := by omega
  have hread : hexCode ('0' :: '0' :: Json.hexDigit (c.toNat / 16) ::
      Json.hexDigit (c.toNat % 16) :: cs) = .ok (c.toNat, cs) := by
    have hzero : hexValue? '0' = some 0 := rfl
    simp [hexCode, hzero, hhigh, hlow, hcode]
  have hescape : unicodeEscape c.toNat cs = (.ok c, cs) := by
    have hnotLow : isLowSurrogate c.toNat = false := by
      simp [isLowSurrogate]
      omega
    have hnotHigh : isHighSurrogate c.toNat = false := by
      simp [isHighSurrogate]
      omega
    simp [unicodeEscape, hnotLow, hnotHigh]
  rw [scanString.eq_def]
  simp only [List.cons_append, List.nil_append, hread, hescape]
  rfl

/-- Each character is read as it was written. -/
theorem scanString_escapeChar (fuel : Nat) (done : List Char) (c : Char) (cs : List Char) :
    scanString (fuel + 1) (.ok done) (Json.escapeChar c ++ cs) =
      scanString fuel (.ok (c :: done)) cs := by
  unfold Json.escapeChar
  split
  case h_8 hquote hslash _ _ _ _ _ =>
    split
    · exact scanString_control fuel done c cs ‹_›
    · exact scanString_plain fuel done c cs hquote hslash ‹_›
  all_goals rfl

theorem length_escapeChar_pos (c : Char) : 0 < (Json.escapeChar c).length := by
  unfold Json.escapeChar
  split
  case h_8 => split <;> simp
  all_goals simp

theorem scanString_quoted (fuel : Nat) (done cs rest : List Char)
    (h : (cs.flatMap Json.escapeChar).length < fuel) :
    scanString fuel (.ok done) (cs.flatMap Json.escapeChar ++ '"' :: rest) =
      ⟨.ok (String.ofList (done.reverse ++ cs)), none, rest⟩ := by
  obtain ⟨fuel, rfl⟩ := Nat.exists_eq_add_one_of_ne_zero (Nat.ne_zero_of_lt h)
  induction cs generalizing fuel done with
  | nil => simp [scanString, Except.map]
  | cons c cs ih =>
    have hpos := length_escapeChar_pos c
    rw [List.flatMap_cons, List.length_append] at h
    obtain ⟨fuel, rfl⟩ := Nat.exists_eq_add_one_of_ne_zero (show fuel ≠ 0 by omega)
    rw [List.flatMap_cons, List.append_assoc, scanString_escapeChar, ih (c :: done) fuel (by omega)]
    simp

/-! Blanks. -/

def Blank (gap : List Char) : Prop := ∀ c ∈ gap, isBlank c = true

theorem skipBlank_append (gap cs : List Char) (h : Blank gap) :
    skipBlank (gap ++ cs) = skipBlank cs := List.dropWhile_append_of_pos h

theorem skipBlank_of_not (c : Char) (cs : List Char) (h : isBlank c = false) :
    skipBlank (c :: cs) = c :: cs := by
  simp [skipBlank, h]

theorem readValue_congr (fuel depth : Nat) (cs ds : List Char) (h : skipBlank cs = skipBlank ds) :
    readValue fuel depth cs = readValue fuel depth ds := by
  cases fuel with
  | zero => rw [readValue, readValue]
  | succ fuel => rw [readValue, readValue, h]

/-- A value that is read starts with something, which is no closing bracket. -/
theorem exists_of_readValue (fuel depth : Nat) (cs rest : List Char) (d : Document)
    (h : readValue fuel depth cs = (d, some rest)) :
    ∃ c t, skipBlank cs = c :: t ∧ c ≠ ']' := by
  cases fuel with
  | zero => simp [readValue] at h
  | succ fuel =>
    cases hcs : skipBlank cs with
    | nil => simp [readValue, hcs] at h
    | cons c t =>
      refine ⟨c, t, rfl, ?_⟩
      rintro rfl
      simp [readValue, hcs] at h

/-- The text is read as the value wherever it stands, if there is room for its brackets. -/
def Spells (room : Nat) (v : Json) (cs : List Char) : Prop :=
  ∀ fuel depth rest, 3 * (cs.length + rest.length) < fuel → depth + room ≤ depthLimit →
    Stops rest → readValue fuel depth (cs ++ rest) = (ofValue v, some rest)

theorem Spells.ne_nil {room : Nat} {v : Json} {cs : List Char} (h : Spells room v cs)
    (hroom : room ≤ depthLimit) : cs ≠ [] := by
  rintro rfl
  have hread := h 1 0 [] (by simp) (by omega) stops_nil
  simp [readValue, skipBlank] at hread

theorem spells_null (room : Nat) : Spells room .null ['n', 'u', 'l', 'l'] := by
  intro fuel depth rest hfuel _ _
  obtain ⟨fuel, rfl⟩ := Nat.exists_eq_add_one_of_ne_zero (Nat.ne_zero_of_lt hfuel)
  simp [readValue, skipBlank, isBlank, readWord, ofValue]

theorem spells_bool (room : Nat) (b : Bool) :
    Spells room (.bool b) (if b then "true" else "false").toList := by
  intro fuel depth rest hfuel _ _
  obtain ⟨fuel, rfl⟩ := Nat.exists_eq_add_one_of_ne_zero (Nat.ne_zero_of_lt hfuel)
  cases b <;> simp [readValue, skipBlank, isBlank, readWord, ofValue]

theorem spells_number (room : Nat) (n : Number) (h : n.Legible) :
    Spells room (.number n) n.text.toList := by
  intro fuel depth rest hfuel _ hrest
  obtain ⟨fuel, rfl⟩ := Nat.exists_eq_add_one_of_ne_zero (Nat.ne_zero_of_lt hfuel)
  exact readValue_number fuel depth n h rest hrest

theorem toList_quoted (s : String) :
    (Json.quoted s).toList = '"' :: (s.toList.flatMap Json.escapeChar ++ ['"']) := by
  simp [Json.quoted]

theorem spells_string (room : Nat) (s : String) :
    Spells room (.string s) (Json.quoted s).toList := by
  intro fuel depth rest hfuel _ _
  obtain ⟨fuel, rfl⟩ := Nat.exists_eq_add_one_of_ne_zero (Nat.ne_zero_of_lt hfuel)
  rw [toList_quoted] at hfuel ⊢
  simp only [List.length_cons, List.length_append] at hfuel
  have hscan := scanString_quoted fuel [] s.toList rest (by omega)
  rw [List.cons_append, List.append_assoc, List.singleton_append, readValue,
    skipBlank_of_not _ _ (by decide)]
  simp [hscan, StringRead.document, ofValue]

/-- Blanks in front of a value are passed over. -/
theorem Spells.after_gap {room : Nat} {v : Json} {cs : List Char} (h : Spells room v cs)
    (gap : List Char) (hgap : Blank gap) : Spells room v (gap ++ cs) := by
  intro fuel depth rest hfuel hroom hrest
  rw [List.length_append] at hfuel
  have hskip : skipBlank (gap ++ cs ++ rest) = skipBlank (cs ++ rest) := by
    rw [List.append_assoc, skipBlank_append gap _ hgap]
  rw [readValue_congr fuel depth _ _ hskip]
  exact h fuel depth rest (by omega) hroom hrest

end ModelForm.Document
