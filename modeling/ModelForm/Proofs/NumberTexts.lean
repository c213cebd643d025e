import ModelForm.Json.Reader
import ModelForm.Json.Writer
import ModelForm.Proofs.Documents
import Mathlib.Data.List.TakeDrop
import Mathlib.Data.List.TakeWhile

/-!
Numbers as they are written and read. What is read of the digits of a number does not change with
what follows, as long as this does not continue the number. A number is legible if it is the one
that its own digits are read as: integers of the 64-bit ranges are, but a double need not be, for
the reader does not always round its digits to the nearest.
-/

namespace ModelForm

namespace Document

/-- What follows does not continue a number. -/
def Stops (rest : List Char) : Prop :=
  ∀ c ∈ rest.head?, c.isDigit = false ∧ c ≠ '.' ∧ c ≠ 'e' ∧ c ≠ 'E'

theorem stops_nil : Stops [] := by simp [Stops]

theorem stops_cons (c : Char) (rest : List Char)
    (h : c.isDigit = false ∧ c ≠ '.' ∧ c ≠ 'e' ∧ c ≠ 'E') : Stops (c :: rest) := by
  simpa [Stops] using h

theorem span_append (cs rest : List Char) (h : Stops rest) :
    (cs ++ rest).span Char.isDigit =
      ((cs.span Char.isDigit).1, (cs.span Char.isDigit).2 ++ rest) := by
  simp only [List.span_eq_takeWhile_dropWhile]
  induction cs with
  | nil =>
    cases rest with
    | nil => rfl
    | cons c rest =>
      have hc := (h c rfl).1
      simp [hc]
  | cons c cs ih =>
    obtain ⟨htake, hdrop⟩ := Prod.mk.inj ih
    cases hc : c.isDigit with
    | true => simp [hc, htake, hdrop]
    | false => simp [hc]

def digitsDocument (f : List Char → Document) (cs : List Char) : Document × Option (List Char) :=
  if (cs.span Char.isDigit).1.isEmpty then brokenNumber (cs.span Char.isDigit).2
  else (f (cs.span Char.isDigit).1, some (cs.span Char.isDigit).2)

theorem digitsDocument_append (f : List Char → Document) (cs rest : List Char) (d : Document)
    (h : digitsDocument f cs = (d, some [])) (hrest : Stops rest) :
    digitsDocument f (cs ++ rest) = (d, some rest) := by
  unfold digitsDocument at h ⊢
  rw [span_append cs rest hrest]
  split at h
  · simp [brokenNumber] at h
  · rename_i hdigits
    obtain ⟨hd, htail⟩ := Prod.mk.inj h
    rw [if_neg hdigits, hd, Option.some.inj htail, List.nil_append]

/-- An exponent is made of the digits after its sign. -/
theorem readExponent_eq (negative : Bool) (whole fraction : List Char) (c : Char)
    (cs : List Char) : ∃ f digits, ∀ rest,
      readExponent negative whole fraction (c :: cs ++ rest) =
        digitsDocument f (digits ++ rest) := by
  by_cases hplus : c = '+'
  · subst hplus
    exact ⟨fun digits => doubleDocument negative whole fraction (decimalValue digits), cs,
      fun rest => rfl⟩
  · by_cases hminus : c = '-'
    · subst hminus
      exact ⟨fun digits => doubleDocument negative whole fraction (-(decimalValue digits)), cs,
        fun rest => rfl⟩
    · refine ⟨fun digits => doubleDocument negative whole fraction (decimalValue digits), c :: cs,
        fun rest => ?_⟩
      unfold readExponent
      split
      rename_i heq
      split at heq <;> simp_all [digitsDocument]

theorem readExponent_append (negative : Bool) (whole fraction cs rest : List Char) (d : Document)
    (h : readExponent negative whole fraction cs = (d, some [])) (hrest : Stops rest) :
    readExponent negative whole fraction (cs ++ rest) = (d, some rest) := by
  cases cs with
  | nil => simp [readExponent, brokenNumber] at h
  | cons c cs =>
    obtain ⟨f, digits, heq⟩ := readExponent_eq negative whole fraction c cs
    have hempty := heq []
    rw [List.append_nil, List.append_nil, h] at hempty
    rw [heq]
    exact digitsDocument_append f digits rest d hempty.symm hrest

/-- What comes after all other digits: an exponent, or the end of a number read as a document. -/
def readMark (d : Document) (negative : Bool) (whole fraction : List Char) :
    List Char → Document × Option (List Char)
  | 'e' :: rest => readExponent negative whole fraction rest
  | 'E' :: rest => readExponent negative whole fraction rest
  | other => (d, some other)

theorem readMark_of_ne (d : Document) (negative : Bool) (whole fraction : List Char) (c : Char)
    (rest : List Char) (h : c ≠ 'e' ∧ c ≠ 'E') :
    readMark d negative whole fraction (c :: rest) = (d, some (c :: rest)) := by
  unfold readMark
  split <;> simp_all

theorem readMark_append (d e : Document) (negative : Bool) (whole fraction cs rest : List Char)
    (h : readMark d negative whole fraction cs = (e, some [])) (hrest : Stops rest) :
    readMark d negative whole fraction (cs ++ rest) = (e, some rest) := by
  cases cs with
  | nil =>
    obtain ⟨rfl, -⟩ := Prod.mk.inj h
    cases rest with
    | nil => rfl
    | cons c rest =>
      obtain ⟨-, -, hmark⟩ := hrest c rfl
      exact readMark_of_ne d negative whole fraction c rest hmark
  | cons c cs =>
    by_cases hsmall : c = 'e'
    · subst hsmall
      exact readExponent_append negative whole fraction cs rest e h hrest
    · by_cases hlarge : c = 'E'
      · subst hlarge
        exact readExponent_append negative whole fraction cs rest e h hrest
      · rw [readMark_of_ne d negative whole fraction c cs ⟨hsmall, hlarge⟩] at h
        simp at h

theorem readNumberTail_point (negative : Bool) (whole cs : List Char) :
    readNumberTail negative whole ('.' :: cs) =
      if (cs.span Char.isDigit).1.isEmpty then brokenNumber (cs.span Char.isDigit).2
      else readMark (doubleDocument negative whole (cs.span Char.isDigit).1 0) negative whole
        (cs.span Char.isDigit).1 (cs.span Char.isDigit).2 := by
  simp only [readNumberTail]
  split
  · rfl
  · unfold readMark
    split <;> simp_all

theorem readNumberTail_of_ne (negative : Bool) (whole cs : List Char) (h : cs.head? ≠ some '.') :
    readNumberTail negative whole cs =
      readMark (numberDocument (integerOf? negative whole)) negative whole [] cs := by
  unfold readNumberTail readMark
  split <;> simp_all

theorem readNumberTail_append (negative : Bool) (whole tail rest : List Char) (d : Document)
    (h : readNumberTail negative whole tail = (d, some [])) (hrest : Stops rest) :
    readNumberTail negative whole (tail ++ rest) = (d, some rest) := by
  by_cases hpoint : tail.head? = some '.'
  · obtain ⟨cs, rfl⟩ := List.head?_eq_some_iff.mp hpoint
    rw [List.cons_append, readNumberTail_point, span_append cs rest hrest]
    rw [readNumberTail_point] at h
    split at h
    · simp [brokenNumber] at h
    · rename_i hdigits
      rw [if_neg hdigits]
      exact readMark_append _ d negative whole _ _ rest h hrest
  · have happend : (tail ++ rest).head? ≠ some '.' := by
      cases tail with
      | nil => exact fun heq => (hrest '.' heq).2.1 rfl
      | cons c cs => exact hpoint
    rw [readNumberTail_of_ne negative whole _ happend]
    rw [readNumberTail_of_ne negative whole _ hpoint] at h
    exact readMark_append _ d negative whole [] tail rest h hrest

theorem readNumber_append (negative : Bool) (cs rest : List Char) (d : Document)
    (h : readNumber negative cs = (d, some [])) (hrest : Stops rest) :
    readNumber negative (cs ++ rest) = (d, some rest) := by
  unfold readNumber at h ⊢
  rw [span_append cs rest hrest]
  dsimp only at h ⊢
  split at h
  · simp [brokenNumber] at h
  · simp at h
  · exact readNumberTail_append negative _ _ rest d h hrest

theorem head_isDigit_of_readNumber (negative : Bool) (cs rest : List Char) (d : Document)
    (h : readNumber negative cs = (d, some rest)) : ∃ c t, cs = c :: t ∧ c.isDigit = true := by
  cases cs with
  | nil => simp [readNumber, brokenNumber] at h
  | cons c t =>
    cases hc : c.isDigit with
    | true => exact ⟨c, t, rfl, hc⟩
    | false => simp [readNumber, List.span_eq_takeWhile_dropWhile, hc, brokenNumber] at h

end Document

def Number.digits : Number → Bool × List Char
  | .integer i => (decide (i < 0), Nat.toDigits 10 i.natAbs)
  | .double (.finite s u) => (s, (Binary64.magnitudeInDocument u).toList)
  | .double _ => (false, [])

def Number.Legible (n : Number) : Prop :=
  Document.readNumber n.digits.1 n.digits.2 = (.number n, some [])

def Number.readBack? (n : Number) : Option Number :=
  match Document.readNumber n.digits.1 n.digits.2 with
  | (.number m, some []) => some m
  | _ => none

theorem Number.readBack?_eq_some_iff (n : Number) : n.readBack? = some n ↔ n.Legible := by
  unfold readBack? Legible
  split <;> simp_all

instance (n : Number) : Decidable n.Legible := decidable_of_iff _ n.readBack?_eq_some_iff

example : (Number.double (Binary64.ofDecimal true 15 (-1))).Legible := by decide +kernel

-- Two roundings, of the digits and of their product with the power of ten, miss this one.
example : ¬ (Number.double (Binary64.ofDecimal false 123456789123456783 (-42))).Legible := by
  decide +kernel

theorem Number.toList_text (n : Number) (h : n.Legible) :
    n.text.toList = (if n.digits.1 then ['-'] else []) ++ n.digits.2 := by
  cases n with
  | integer i =>
    by_cases hi : i < 0
    · have hnot : ¬ 0 ≤ i := by omega
      have habs : (-i).toNat = i.natAbs := by omega
      simp [text, digits, hi, hnot, Int.repr_eq_if, habs]
    · have hnot : 0 ≤ i := by omega
      have habs : i.toNat = i.natAbs := by omega
      simp [text, digits, hi, hnot, Int.repr_eq_if, habs]
  | double x =>
    cases x with
    | finite s u => cases s <;> simp [text, Binary64.inDocument, digits]
    | infinite s => simp [Legible, digits, Document.readNumber, Document.brokenNumber] at h
    | nan => simp [Legible, digits, Document.readNumber, Document.brokenNumber] at h

theorem digitChar_ne_zero : ∀ n < 10, n ≠ 0 → n.digitChar ≠ '0' := by decide

/-- Only zero starts with the digit zero. -/
theorem head?_toDigits_ne_zero (n : Nat) (hn : n ≠ 0) : (Nat.toDigits 10 n).head? ≠ some '0' := by
  induction n using Nat.strongRecOn with
  | _ n ih =>
    by_cases hlt : n < 10
    · rw [Nat.toDigits_of_lt_base hlt]
      simpa using digitChar_ne_zero n hlt hn
    · have hfront := ih (n / 10) (by omega) (by omega)
      rw [Nat.toDigits_of_base_le (by decide) (by omega)]
      rwa [List.head?_append_of_ne_nil _ Nat.toDigits_ne_nil]

theorem decimalValue_toDigits (n : Nat) : Document.decimalValue (Nat.toDigits 10 n) = n := by
  have hcomm : Document.decimalValue (Nat.toDigits 10 n) =
      Nat.ofDigitChars 10 (Nat.toDigits 10 n) 0 := by
    rw [Nat.ofDigitChars_eq_foldl]
    simp only [Document.decimalValue, Document.digitValue, Nat.mul_comm]
  rw [hcomm, Nat.ofDigitChars_ten_toDigits]

/-- The digits of a natural number are read as a whole. -/
theorem readNumber_toDigits (negative : Bool) (n : Nat) :
    Document.readNumber negative (Nat.toDigits 10 n) =
      (Document.numberDocument (Document.integerOf? negative (Nat.toDigits 10 n)), some []) := by
  have hall : ∀ c ∈ Nat.toDigits 10 n, c.isDigit = true :=
    fun c hc => Nat.isDigit_of_mem_toDigits (by decide) (by decide) hc
  have hspan : (Nat.toDigits 10 n).span Char.isDigit = (Nat.toDigits 10 n, []) := by
    rw [List.span_eq_takeWhile_dropWhile, List.takeWhile_eq_self_iff.mpr hall,
      List.dropWhile_eq_nil_iff.mpr hall]
  unfold Document.readNumber
  rw [hspan]
  dsimp only
  split
  · rename_i hnil
    exact absurd hnil Nat.toDigits_ne_nil
  · rename_i _ second rest hzero
    by_cases hn : n = 0
    · simp [hn] at hzero
    · exact absurd (congrArg List.head? hzero) (head?_toDigits_ne_zero n hn)
  · rfl

theorem Number.legible_integer (i : Int) (h : (integer i).Representable) :
    (integer i).Legible := by
  obtain ⟨hlow, hhigh⟩ := h
  unfold Legible
  simp only [digits]
  rw [readNumber_toDigits, Document.integerOf?, decimalValue_toDigits]
  by_cases hi : i < 0
  · have hroom : i.natAbs ≠ 0 ∧ i.natAbs ≤ Nat.pow 2 63 := by
      have hpow : Nat.pow 2 63 = 2 ^ 63 := rfl
      omega
    have hneg : -(i.natAbs : Int) = i := by omega
    rw [if_pos (decide_eq_true hi), if_pos hroom, hneg]
    rfl
  · have hroom : i.natAbs < Nat.pow 2 64 := by
      have hpow : Nat.pow 2 64 = 2 ^ 64 := rfl
      omega
    have hpos : (i.natAbs : Int) = i := by omega
    rw [if_neg (by simpa using hi), if_pos hroom, hpos]
    rfl

namespace Document

theorem readValue_digit (fuel depth : Nat) (c : Char) (cs : List Char) (h : c.isDigit = true) :
    readValue (fuel + 1) depth (c :: cs) = readNumber false (c :: cs) := by
  have hne : ∀ other : Char, other.isDigit = false → c ≠ other := by
    rintro other hother rfl
    simp [h] at hother
  have hblank : isBlank c = false := by
    simp [isBlank, hne ' ' rfl, hne '\n' rfl, hne '\t' rfl, hne '\r' rfl]
  have hskip : skipBlank (c :: cs) = c :: cs := by simp [skipBlank, hblank]
  rw [readValue, hskip]
  split <;> simp_all

theorem readValue_number (fuel depth : Nat) (n : Number) (h : n.Legible) (rest : List Char)
    (hrest : Stops rest) :
    readValue (fuel + 1) depth (n.text.toList ++ rest) = (.number n, some rest) := by
  have hread := readNumber_append _ _ rest _ h hrest
  rw [n.toList_text h]
  cases hsign : n.digits.1 with
  | true =>
    rw [hsign] at hread
    rw [if_pos rfl, List.append_assoc, List.singleton_append, readValue]
    exact hread
  | false =>
    rw [hsign] at hread
    rw [if_neg Bool.false_ne_true, List.nil_append]
    obtain ⟨c, t, hdigits, hc⟩ := head_isDigit_of_readNumber _ _ _ _ h
    rw [hdigits] at hread ⊢
    exact (readValue_digit fuel depth c (t ++ rest) hc).trans hread

end Document

end ModelForm
