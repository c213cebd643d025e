import ModelForm.Model.Instant
import ModelForm.Proofs.Results
import Mathlib.Algebra.Group.Nat.Defs
import Mathlib.Data.List.Basic

/-!
Points in time and their texts. The text of a valid point in time is read as the same
point: every number in it has the width that its reader takes, or stands in front of a
character that is no digit. Whatever text is read, what comes out is valid, since the
readers check each part and removing an offset moves to an existing day.
-/

namespace ModelForm

theorem Text.isWhiteSpace_of_isDigit (c : Char) (h : c.isDigit = true) :
    isWhiteSpace c = false := by
  simp only [Char.isDigit, Bool.and_eq_true, decide_eq_true_eq, UInt32.le_iff_toNat_le] at h
  have hlow : 48 ≤ c.toNat := h.1
  have hhigh : c.toNat ≤ 57 := h.2
  simp only [isWhiteSpace, whiteSpaceRanges, List.any_cons, List.any_nil, Bool.or_eq_false_iff,
    Bool.and_eq_false_iff, decide_eq_false_iff_not, Nat.not_le, and_true]
  omega

theorem Text.trimStart_cons (c : Char) (cs : List Char) (h : isWhiteSpace c = false) :
    trimStart (c :: cs) = c :: cs := by
  simp [trimStart, h]

namespace Instant

/-- A date and a time of day, in any year. -/
structure Dated (t : Instant) : Prop where
  month : 1 ≤ t.month ∧ t.month ≤ 12
  day : 1 ≤ t.day ∧ t.day ≤ daysInMonth t.year t.month
  hour : t.hour ≤ 23
  minute : t.minute ≤ 59
  second : t.second ≤ 60
  nanos : t.nanos < 1000000000

structure Valid (t : Instant) : Prop extends Dated t where
  year : firstYear ≤ t.year ∧ t.year ≤ lastYear

theorem daysInMonth_bounds (y : Int) (m : Nat) : 28 ≤ daysInMonth y m ∧ daysInMonth y m ≤ 31 := by
  unfold daysInMonth
  split
  · split <;> decide
  · split <;> decide

/-! Digits. -/

def NoDigit (cs : List Char) : Prop := ∀ c ∈ cs.head?, c.isDigit = false

theorem noDigit_cons (c : Char) (cs : List Char) (h : c.isDigit = false) : NoDigit (c :: cs) := by
  intro d hd
  rw [List.head?_cons, Option.mem_some] at hd
  rwa [← hd]

theorem takeWhile_take_of_noDigit (n : Nat) (cs : List Char) (h : NoDigit cs) :
    (cs.take n).takeWhile Char.isDigit = [] := by
  cases cs with
  | nil => simp
  | cons c rest => cases n <;> simp [h c rfl]

theorem foldl_digits (ds : List Char) :
    ds.foldl (fun n d => n * 10 + (d.toNat - '0'.toNat)) 0 = Nat.ofDigitChars 10 ds 0 := by
  simp only [Nat.ofDigitChars_eq_foldl, Nat.mul_comm]

/-- Digits are read up to the width that is asked for, or up to a character that is no digit. -/
theorem readDigits_append (width : Nat) (ds rest : List Char) (hne : ds ≠ [])
    (hds : ∀ c ∈ ds, c.isDigit = true) (hlen : ds.length ≤ width)
    (hstop : ds.length = width ∨ NoDigit rest) :
    readDigits width (ds ++ rest) = .ok (Nat.ofDigitChars 10 ds 0, rest) := by
  have hafter : (rest.take (width - ds.length)).takeWhile Char.isDigit = [] := by
    rcases hstop with hwidth | hrest
    · simp [hwidth]
    · exact takeWhile_take_of_noDigit _ rest hrest
  have hdigits : ((ds ++ rest).take width).takeWhile Char.isDigit = ds := by
    rw [List.take_append, List.take_of_length_le hlen, List.takeWhile_append_of_pos hds, hafter,
      List.append_nil]
  unfold readDigits
  split
  · rename_i heq
    exact absurd (List.append_eq_nil_iff.mp heq).1 hne
  · rename_i c tail heq
    have hc : c.isDigit = true := by
      cases ds with
      | nil => exact absurd rfl hne
      | cons d ds =>
        obtain ⟨rfl, _⟩ := List.cons.inj heq
        exact hds d (List.mem_cons_self ..)
    simp only [hc, if_true, hdigits, foldl_digits, List.drop_left]

theorem toList_padded (width n : Nat) : (padded width n).toList =
    List.replicate (width - (Nat.toDigits 10 n).length) '0' ++ Nat.toDigits 10 n := by
  simp [padded]

theorem padded_ne_nil (width n : Nat) : (padded width n).toList ≠ [] := by
  simp [toList_padded]

theorem isDigit_of_mem_padded (width n : Nat) (c : Char) (h : c ∈ (padded width n).toList) :
    c.isDigit = true := by
  rw [toList_padded, List.mem_append] at h
  rcases h with h | h
  · rw [List.eq_of_mem_replicate h]
    rfl
  · exact Nat.isDigit_of_mem_toDigits (by decide) (by decide) h

theorem ofDigitChars_padded (width n : Nat) :
    Nat.ofDigitChars 10 (padded width n).toList 0 = n := by
  rw [toList_padded, Nat.ofDigitChars_append, Nat.ofDigitChars_replicate_zero, Nat.mul_zero,
    Nat.ofDigitChars_ten_toDigits]

theorem length_padded (width n : Nat) (hwidth : 0 < width) (h : n < 10 ^ width) :
    (padded width n).toList.length = width := by
  have hlen := (Nat.length_toDigits_le_iff (by decide : 1 < 10) hwidth).mpr h
  rw [toList_padded, List.length_append, List.length_replicate]
  omega

theorem readDigits_padded (width n : Nat) (rest : List Char) (hwidth : 0 < width)
    (h : n < 10 ^ width) : readDigits width ((padded width n).toList ++ rest) = .ok (n, rest) := by
  have hlen := length_padded width n hwidth h
  rw [readDigits_append width _ rest (padded_ne_nil width n) (isDigit_of_mem_padded width n)
    (Nat.le_of_eq hlen) (Or.inl hlen), ofDigitChars_padded]

/-! Reading what was written. -/

theorem readField_padded (low high n : Nat) (rest : List Char) (hn : low ≤ n ∧ n ≤ high)
    (hhigh : high < 100) : readField low high ((padded 2 n).toList ++ rest) = .ok (n, rest) := by
  have htrim : Text.trimStart ((padded 2 n).toList ++ rest) = (padded 2 n).toList ++ rest := by
    have hdigit := isDigit_of_mem_padded 2 n
    cases h : (padded 2 n).toList with
    | nil => exact absurd h (padded_ne_nil 2 n)
    | cons c cs =>
      refine Text.trimStart_cons c _ (Text.isWhiteSpace_of_isDigit c ?_)
      exact hdigit c (h ▸ List.mem_cons_self ..)
  rw [readField, htrim, readDigits_padded 2 n rest (by decide) (by omega)]
  simp only [bind, Except.bind, hn, and_self, if_true]
  rfl

theorem readMark_cons (mark : Char) (cs : List Char) (h : Text.isWhiteSpace mark = false) :
    readMark mark (mark :: cs) = .ok cs := by
  simp [readMark, Text.trimStart_cons mark cs h]

/-- A number after a sign is read up to its last digit. -/
theorem readDigits_length (width n : Nat) (rest : List Char) (hrest : NoDigit rest) :
    readDigits ((padded width n).toList ++ rest).length ((padded width n).toList ++ rest) =
      .ok (n, rest) := by
  rw [readDigits_append _ _ rest (padded_ne_nil width n) (isDigit_of_mem_padded width n)
    (by simp) (Or.inr hrest), ofDigitChars_padded]

theorem readYear_yearText (y : Int) (hy : firstYear ≤ y ∧ y ≤ lastYear) (rest : List Char)
    (hrest : NoDigit rest) : readYear ((yearText y).toList ++ rest) = .ok (y, rest) := by
  have hlow : -2147483648 ≤ y := Int.le_trans (by decide) hy.1
  have hhigh : y ≤ 2147483647 := Int.le_trans hy.2 (by decide)
  unfold yearText
  split
  · rename_i hfour
    have hdigit := isDigit_of_mem_padded 4 y.toNat
    have hread := readDigits_padded 4 y.toNat rest (by decide) (by omega)
    have hcast : (y.toNat : Int) = y := Int.toNat_of_nonneg hfour.1
    cases h : (padded 4 y.toNat).toList with
    | nil => exact absurd h (padded_ne_nil 4 y.toNat)
    | cons c cs =>
      have hc : c.isDigit = true := hdigit c (h ▸ List.mem_cons_self ..)
      have htrim := Text.trimStart_cons c (cs ++ rest) (Text.isWhiteSpace_of_isDigit c hc)
      rw [h, List.cons_append] at hread
      rw [List.cons_append, readYear, htrim]
      split
      · rename_i heq
        obtain ⟨rfl, _⟩ := List.cons.inj heq
        simp at hc
      · rename_i heq
        obtain ⟨rfl, _⟩ := List.cons.inj heq
        simp at hc
      · simp only [hread, bind, Except.bind, hcast, hlow, hhigh, and_self, if_true]
  · by_cases hneg : y < 0
    · have hcast : -(y.natAbs : Int) = y := by omega
      have hchars : ("-" ++ padded 4 y.natAbs).toList ++ rest =
          '-' :: ((padded 4 y.natAbs).toList ++ rest) := by simp
      have htrim := Text.trimStart_cons '-' ((padded 4 y.natAbs).toList ++ rest) (by decide)
      have hread := readDigits_length 4 y.natAbs rest hrest
      rw [if_pos hneg, hchars, readYear, htrim]
      simp only [hread, bind, Except.bind, hcast, hlow, hhigh, and_self, if_true]
    · have hcast : (y.natAbs : Int) = y := by omega
      have hchars : ("+" ++ padded 4 y.natAbs).toList ++ rest =
          '+' :: ((padded 4 y.natAbs).toList ++ rest) := by simp
      have htrim := Text.trimStart_cons '+' ((padded 4 y.natAbs).toList ++ rest) (by decide)
      have hread := readDigits_length 4 y.natAbs rest hrest
      rw [if_neg hneg, hchars, readYear, htrim]
      simp only [hread, bind, Except.bind, hcast, hlow, hhigh, and_self, if_true]

/-- A fraction of some digits, at most nine. -/
theorem readNanos_padded (width n : Nat) (rest : List Char) (hpos : 0 < width) (hwidth : width ≤ 9)
    (hn : n < 10 ^ width) (hrest : NoDigit rest) :
    readNanos ('.' :: ((padded width n).toList ++ rest)) = .ok (n * 10 ^ (9 - width), rest) := by
  have hlen := length_padded width n hpos hn
  have hread : readDigits 9 ((padded width n).toList ++ rest) = .ok (n, rest) := by
    rw [readDigits_append 9 _ rest (padded_ne_nil width n) (isDigit_of_mem_padded width n)
      (by omega) (Or.inr hrest), ofDigitChars_padded]
  have hdrop : rest.dropWhile Char.isDigit = rest := by
    cases rest with
    | nil => rfl
    | cons c cs => exact List.dropWhile_cons_of_neg (by simp [hrest c rfl])
  have hcount : ((padded width n).toList ++ rest).length - rest.length = width := by
    rw [List.length_append, hlen]
    omega
  simp only [readNanos, hread, bind, Except.bind, hcount, hdrop]
  rfl

theorem readNanos_fractionText (nanos : Nat) (h : nanos < 1000000000) (rest : List Char)
    (hdot : rest.head? ≠ some '.') (hrest : NoDigit rest) :
    readNanos ((fractionText nanos).toList ++ rest) = .ok (nanos, rest) := by
  unfold fractionText
  split
  · rename_i hzero
    subst hzero
    unfold readNanos
    split
    · rename_i heq
      have hrest' : rest = _ := heq
      simp [hrest'] at hdot
    · rfl
  · split
    · rename_i hmod
      have hvalue : nanos / 1000000 * 10 ^ (9 - 3) = nanos := by omega
      have hread := readNanos_padded 3 (nanos / 1000000) rest (by decide) (by decide)
        (by omega) hrest
      rw [hvalue] at hread
      simpa using hread
    · split
      · rename_i hmod
        have hvalue : nanos / 1000 * 10 ^ (9 - 6) = nanos := by omega
        have hread := readNanos_padded 6 (nanos / 1000) rest (by decide) (by decide)
          (by omega) hrest
        rw [hvalue] at hread
        simpa using hread
      · have hread := readNanos_padded 9 nanos rest (by decide) (by decide) (by omega) hrest
        simpa using hread

theorem removeOffset_zero (t : Instant) (h : t.Dated) : removeOffset t 0 = t := by
  have hhour := h.hour
  have hminute := h.minute
  have hminutes : ((t.hour * 60 + t.minute - 0 : Int) % 1440).toNat = t.hour * 60 + t.minute := by
    omega
  unfold removeOffset
  dsimp only
  rw [hminutes, if_neg (by omega), if_neg (by omega)]
  have hdiv : (t.hour * 60 + t.minute) / 60 = t.hour := by omega
  have hmod : (t.hour * 60 + t.minute) % 60 = t.minute := by omega
  rw [hdiv, hmod]

/-- The text of a valid point in time is read as the same point. -/
theorem ofText_text (t : Instant) (h : t.Valid) : ofText t.text = .ok t := by
  have hday : t.day ≤ 31 := Nat.le_trans h.day.2 (daysInMonth_bounds t.year t.month).2
  have hchars : t.text.toList = (yearText t.year).toList ++ '-' :: ((padded 2 t.month).toList ++
      '-' :: ((padded 2 t.day).toList ++ 'T' :: ((padded 2 t.hour).toList ++
        ':' :: ((padded 2 t.minute).toList ++ ':' :: ((padded 2 t.second).toList ++
          ((fractionText t.nanos).toList ++ ['Z'])))))) := by
    simp [text]
  have hyear (rest : List Char) :
      readYear ((yearText t.year).toList ++ '-' :: rest) = .ok (t.year, '-' :: rest) :=
    readYear_yearText t.year h.year _ (noDigit_cons '-' rest (by decide))
  have hdash (rest : List Char) := readMark_cons '-' rest (by decide)
  have hmonth (rest : List Char) := readField_padded 1 12 t.month rest h.month (by decide)
  have hdays (rest : List Char) := readField_padded 1 31 t.day rest ⟨h.day.1, hday⟩ (by decide)
  have hjoint (rest : List Char) : readJoint ('T' :: rest) = .ok rest := rfl
  have hhour (rest : List Char) :=
    readField_padded 0 23 t.hour rest ⟨Nat.zero_le _, h.hour⟩ (by decide)
  have hcolon (rest : List Char) := readMark_cons ':' rest (by decide)
  have hminute (rest : List Char) :=
    readField_padded 0 59 t.minute rest ⟨Nat.zero_le _, h.minute⟩ (by decide)
  have hsecond (rest : List Char) :=
    readField_padded 0 60 t.second rest ⟨Nat.zero_le _, h.second⟩ (by decide)
  have hnanos := readNanos_fractionText t.nanos h.nanos ['Z'] (by decide)
    (noDigit_cons 'Z' [] (by decide))
  have hoffset : readOffset (Text.trimStart ['Z']) = .ok (0, []) := rfl
  have hend : ¬ (!(Text.trimStart []).isEmpty) = true := by decide
  have hsmall : ¬ 1440 ≤ Int.natAbs 0 := by decide
  have hremove := removeOffset_zero t h.toDated
  have hinside : ¬ (t.year < firstYear ∨ lastYear < t.year) := by
    have hrange := h.year
    omega
  have hchecked :
      ¬ (t.year < firstYear ∨ lastYear < t.year ∨ daysInMonth t.year t.month < t.day) := by
    have hlast := h.day.2
    omega
  unfold ofText
  rw [hchars]
  simp only [bind, Except.bind, hyear, hdash, hmonth, hdays, hjoint, hhour, hcolon, hminute,
    hsecond, hnanos, hoffset]
  rw [if_neg hend, if_neg hchecked, if_neg hsmall, hremove, if_neg hinside]
  rfl

/-! Validity of what is read. -/

theorem ofDigitChars_lt (ds : List Char) (hds : ∀ c ∈ ds, c.isDigit = true) :
    Nat.ofDigitChars 10 ds 0 < 10 ^ ds.length := by
  induction ds with
  | nil => decide
  | cons c cs ih =>
    have hrest := ih fun d hd => hds d (List.mem_cons_of_mem _ hd)
    have hc := hds c (List.mem_cons_self ..)
    simp only [Char.isDigit, Bool.and_eq_true, decide_eq_true_eq, UInt32.le_iff_toNat_le] at hc
    have hdigit : c.toNat - '0'.toNat ≤ 9 := Nat.sub_le_sub_right (k := '0'.toNat) hc.2
    have hmul := Nat.mul_le_mul_left (10 ^ cs.length) hdigit
    rw [Nat.ofDigitChars_cons, Nat.ofDigitChars_eq_ofDigitChars_zero, Nat.mul_zero, Nat.zero_add,
      List.length_cons, Nat.pow_succ]
    omega

/-- What is read as a number has the digits that were taken for it, not more than the width. -/
theorem readDigits_lt (width n : Nat) (cs rest : List Char)
    (h : readDigits width cs = .ok (n, rest)) :
    cs.length - rest.length ≤ width ∧ n < 10 ^ (cs.length - rest.length) := by
  unfold readDigits at h
  split at h
  · cases h
  · rename_i c tail
    split at h
    · simp only [Except.ok.injEq, Prod.mk.injEq, foldl_digits] at h
      obtain ⟨rfl, rfl⟩ := h
      have hdigits := List.all_takeWhile (p := Char.isDigit) (l := (c :: tail).take width)
      have hlen := (List.takeWhile_sublist Char.isDigit (l := (c :: tail).take width)).length_le
      generalize ((c :: tail).take width).takeWhile Char.isDigit = ds at hdigits hlen ⊢
      have htaken : (c :: tail).length - ((c :: tail).drop ds.length).length = ds.length := by
        rw [List.length_take] at hlen
        rw [List.length_drop]
        omega
      rw [htaken]
      refine ⟨?_, ofDigitChars_lt ds (List.all_eq_true.mp hdigits)⟩
      rw [List.length_take] at hlen
      omega
    · cases h

theorem readNanos_lt (n : Nat) (cs rest : List Char) (h : readNanos cs = .ok (n, rest)) :
    n < 1000000000 := by
  unfold readNanos at h
  split at h
  · rename_i tail
    obtain ⟨⟨m, after⟩, hread, h⟩ := exists_of_bind_eq_ok h
    obtain ⟨hwidth, hlt⟩ := readDigits_lt 9 m tail after hread
    simp only [pure, Except.pure, Except.ok.injEq, Prod.mk.injEq] at h
    obtain ⟨rfl, _⟩ := h
    calc m * Nat.pow 10 (9 - (tail.length - after.length))
        < 10 ^ (tail.length - after.length) * 10 ^ (9 - (tail.length - after.length)) :=
          Nat.mul_lt_mul_of_pos_right hlt (Nat.pow_pos (by decide))
      _ = 1000000000 := by rw [← Nat.pow_add, Nat.add_sub_cancel' hwidth]
  · cases h
    decide

theorem readField_range (low high n : Nat) (cs rest : List Char)
    (h : readField low high cs = .ok (n, rest)) : low ≤ n ∧ n ≤ high := by
  obtain ⟨⟨m, after⟩, _, h⟩ := exists_of_bind_eq_ok h
  dsimp only at h
  split at h
  · rename_i hrange
    cases h
    exact hrange
  · cases h

theorem dated_nextDay (t : Instant) (h : t.Dated) : (nextDay t).Dated := by
  have hfirst (y : Int) (m : Nat) : 1 ≤ daysInMonth y m :=
    Nat.le_trans (by decide) (daysInMonth_bounds y m).1
  unfold nextDay
  split
  · exact { h with day := ⟨Nat.le_add_left 1 _, by assumption⟩ }
  · split
    · exact { h with
        month := ⟨Nat.le_add_left 1 _, by assumption⟩
        day := ⟨Nat.le_refl 1, hfirst _ _⟩ }
    · exact { h with month := ⟨Nat.le_refl 1, by simp⟩, day := ⟨Nat.le_refl 1, hfirst _ _⟩ }

theorem dated_previousDay (t : Instant) (h : t.Dated) : (previousDay t).Dated := by
  have hfirst (y : Int) (m : Nat) : 1 ≤ daysInMonth y m :=
    Nat.le_trans (by decide) (daysInMonth_bounds y m).1
  have hmonth := h.month
  have hday := h.day
  unfold previousDay
  split
  · exact { h with day := ⟨by dsimp only; omega, by dsimp only; omega⟩ }
  · split
    · exact { h with
        month := ⟨by dsimp only; omega, by dsimp only; omega⟩
        day := ⟨hfirst _ _, Nat.le_refl _⟩ }
    · exact { h with month := ⟨by simp, Nat.le_refl 12⟩, day := ⟨by simp, by simp [daysInMonth]⟩ }

theorem dated_removeOffset (t : Instant) (h : t.Dated) (offset : Int) :
    (removeOffset t offset).Dated := by
  have hmoved (ofDay : Nat) (hofDay : ofDay < 1440) :
      ({ t with hour := ofDay / 60, minute := ofDay % 60 } : Instant).Dated :=
    { h with hour := by dsimp only; omega, minute := by dsimp only; omega }
  unfold removeOffset
  dsimp only
  have hofDay : (((t.hour * 60 + t.minute - offset : Int)) % 1440).toNat < 1440 := by omega
  split
  · exact dated_previousDay _ (hmoved _ hofDay)
  · split
    · exact dated_nextDay _ (hmoved _ hofDay)
    · exact hmoved _ hofDay

/-- Whatever is read as a point in time is valid. -/
theorem valid_of_ofText (text : String) (t : Instant) (h : ofText text = .ok t) : t.Valid := by
  unfold ofText at h
  obtain ⟨⟨year, cs⟩, _, h⟩ := exists_of_bind_eq_ok h
  obtain ⟨cs, _, h⟩ := exists_of_bind_eq_ok h
  obtain ⟨⟨month, cs⟩, hmonth, h⟩ := exists_of_bind_eq_ok h
  obtain ⟨cs, _, h⟩ := exists_of_bind_eq_ok h
  obtain ⟨⟨day, cs⟩, hday, h⟩ := exists_of_bind_eq_ok h
  obtain ⟨cs, _, h⟩ := exists_of_bind_eq_ok h
  obtain ⟨⟨hour, cs⟩, hhour, h⟩ := exists_of_bind_eq_ok h
  obtain ⟨cs, _, h⟩ := exists_of_bind_eq_ok h
  obtain ⟨⟨minute, cs⟩, hminute, h⟩ := exists_of_bind_eq_ok h
  obtain ⟨cs, _, h⟩ := exists_of_bind_eq_ok h
  obtain ⟨⟨second, cs⟩, hsecond, h⟩ := exists_of_bind_eq_ok h
  obtain ⟨⟨nanos, cs⟩, hnanos, h⟩ := exists_of_bind_eq_ok h
  obtain ⟨⟨offset, cs⟩, _, h⟩ := exists_of_bind_eq_ok h
  obtain ⟨_, h⟩ := of_check_eq_ok h
  obtain ⟨hchecked, h⟩ := of_check_eq_ok h
  obtain ⟨_, h⟩ := of_check_eq_ok h
  obtain ⟨hinside, h⟩ := of_check_eq_ok h
  obtain rfl := Except.ok.inj h
  have hdated : Dated ⟨year, month, day, hour, minute, second, nanos⟩ := {
    month := readField_range 1 12 month _ _ hmonth
    day := ⟨(readField_range 1 31 day _ _ hday).1, by dsimp only; omega⟩
    hour := (readField_range 0 23 hour _ _ hhour).2
    minute := (readField_range 0 59 minute _ _ hminute).2
    second := (readField_range 0 60 second _ _ hsecond).2
    nanos := readNanos_lt nanos _ _ hnanos }
  exact { dated_removeOffset _ hdated offset with year := by omega }

end Instant

end ModelForm
