import Mathlib.Data.List.Infix
import Mathlib.Data.List.TakeWhile
import ModelForm.Toml.Text

/-!
Quoted texts of settings files. Whatever form a text is written in, between double or single
quotes and in one line or in several, it is read back from there up to the line end behind it.
-/

namespace ModelForm.Toml

/-! Between double quotes. -/

theorem hexValue?_upperDigit :
    ∀ n < 16, Document.hexValue? (Nat.digitChar n).toUpper = some n := by decide

/-- A control character is read from its code. -/
theorem readEscape_control (c : Char) (h : isControl c = true) (cs : List Char) :
    readEscape ('u' :: '0' :: '0' :: (Nat.digitChar (c.toNat / 16)).toUpper ::
      (Nat.digitChar (c.toNat % 16)).toUpper :: cs) = some (c, cs) := by
  have hbound : c.toNat < 128 := by
    simp only [isControl, Bool.or_eq_true, decide_eq_true_eq, beq_iff_eq] at h
    omega
  have hzero : Document.hexValue? '0' = some 0 := rfl
  have hhigh := hexValue?_upperDigit (c.toNat / 16) (by omega)
  have hlow := hexValue?_upperDigit (c.toNat % 16) (by omega)
  have hcode : c.toNat / 16 * 16 + c.toNat % 16 = c.toNat := by omega
  have hvalid : c.toNat.isValidChar := Or.inl (by omega)
  simp [readEscape, readCode, hzero, hhigh, hlow, hcode, hvalid]

theorem isPlain_of_not_isControl (c : Char) (h : isControl c = false) : isPlain c = true := by
  simp only [isControl, Bool.or_eq_false_iff, decide_eq_false_iff_not, beq_eq_false_iff_ne] at h
  simp only [isPlain, Bool.or_eq_true, Bool.and_eq_true, decide_eq_true_eq, bne_iff_ne]
  omega

/-- How a character may be written between double quotes: as it is, or escaped. -/
inductive Written (c : Char) : List Char → Prop
  | plain (hplain : isPlain c = true) (hquote : c ≠ '"') (hslash : c ≠ '\\') (hline : c ≠ '\n')
      (hreturn : c ≠ '\r') : Written c [c]
  | escape (mark : Char) (code : List Char)
      (hmark : isSpace mark = false ∧ mark ≠ '\n' ∧ mark ≠ '\r')
      (h : ∀ rest, readEscape (mark :: (code ++ rest)) = some (c, rest)) :
      Written c ('\\' :: mark :: code)

theorem written_escaped (lines : Bool) (c : Char) (h : lines = false ∨ c ≠ '\n') :
    Written c (escaped lines c) := by
  unfold escaped
  split
  case h_8 hline _ hreturn hquote hslash =>
    split
    · exact .escape 'u' _ (by decide) (readEscape_control c ‹_›)
    · rename_i hcontrol
      exact .plain (isPlain_of_not_isControl c (Bool.eq_false_iff.mpr hcontrol)) hquote hslash
        hline hreturn
  case h_3 =>
    simp only [ne_eq, not_true, or_false] at h
    subst h
    exact .escape 'n' [] (by decide) fun _ => rfl
  all_goals exact .escape _ [] (by decide) fun _ => rfl

theorem readBasic_written {c : Char} {cs : List Char} (h : Written c cs) (fuel : Nat)
    (rest : List Char) :
    readBasic (fuel + 1) (cs ++ rest) = (readBasic fuel rest).map (prepend c) := by
  cases h with
  | plain hplain hquote hslash => simp [readBasic, hplain, hquote, hslash]
  | escape mark code hmark h => simp [readBasic, h]

/-- Where a text in several lines goes on, nothing closes it. -/
theorem readClosing_cons_of_ne {quote c : Char} (h : c ≠ quote) (cs : List Char) :
    readClosing quote (c :: cs) = none := by
  simp [readClosing, h]

theorem lineEnd?_cons_of_ne {c : Char} (hline : c ≠ '\n') (hreturn : c ≠ '\r') (cs : List Char) :
    lineEnd? (c :: cs) = none := by
  unfold lineEnd?
  split <;> simp_all

theorem readBasicLines_written {c : Char} {cs : List Char} (h : Written c cs) (fuel : Nat)
    (rest : List Char) :
    readBasicLines (fuel + 1) (cs ++ rest) = (readBasicLines fuel rest).map (prepend c) := by
  cases h with
  | plain hplain hquote hslash hline hreturn =>
    rw [List.singleton_append, readBasicLines.eq_def]
    simp [readClosing_cons_of_ne hquote, lineEnd?_cons_of_ne hline hreturn, hplain, hslash]
  | escape mark code hmark h =>
    obtain ⟨hspace, hline, hreturn⟩ := hmark
    have hskip : skipSpace (mark :: (code ++ rest)) = mark :: (code ++ rest) := by
      simp [skipSpace, hspace]
    have hclosing : readClosing '"' ('\\' :: mark :: (code ++ rest)) = none :=
      readClosing_cons_of_ne (by decide) _
    have hend : lineEnd? ('\\' :: mark :: (code ++ rest)) = none :=
      lineEnd?_cons_of_ne (by decide) (by decide) _
    rw [List.cons_append, List.cons_append, readBasicLines.eq_def]
    simp [hclosing, hend, hskip, lineEnd?_cons_of_ne hline hreturn, h]

theorem readBasicLines_line (fuel : Nat) (rest : List Char) :
    readBasicLines (fuel + 1) ('\n' :: rest) = (readBasicLines fuel rest).map (prepend '\n') := by
  have hclosing : readClosing '"' ('\n' :: rest) = none := readClosing_cons_of_ne (by decide) _
  rw [readBasicLines.eq_def]
  simp [hclosing, lineEnd?]

/-- Three quotes close a text, unless another one follows. -/
theorem readClosing_close (quote : Char) (rest : List Char) (h : rest.head? ≠ some quote) :
    readClosing quote (quote :: quote :: quote :: rest) = some ([], rest) := by
  have hstop : rest.takeWhile (· == quote) = [] := by
    cases rest with
    | nil => rfl
    | cons c rest => simpa using h
  simp [readClosing, hstop]

theorem readBasic_escaped (cs rest : List Char) (fuel : Nat) (h : cs.length < fuel) :
    readBasic fuel (cs.flatMap (escaped false) ++ '"' :: rest) = some (cs, rest) := by
  induction cs generalizing fuel with
  | nil =>
    obtain ⟨fuel, rfl⟩ := Nat.exists_eq_add_one_of_ne_zero (Nat.ne_zero_of_lt h)
    simp [readBasic]
  | cons c cs ih =>
    obtain ⟨fuel, rfl⟩ := Nat.exists_eq_add_one_of_ne_zero (Nat.ne_zero_of_lt h)
    rw [List.flatMap_cons, List.append_assoc,
      readBasic_written (written_escaped false c (Or.inl rfl)), ih fuel (by simpa using h)]
    rfl

theorem readBasicLines_escaped (cs rest : List Char) (hrest : rest.head? ≠ some '"') (fuel : Nat)
    (h : cs.length < fuel) :
    readBasicLines fuel (cs.flatMap (escaped true) ++ '"' :: '"' :: '"' :: rest) =
      some (cs, rest) := by
  induction cs generalizing fuel with
  | nil =>
    obtain ⟨fuel, rfl⟩ := Nat.exists_eq_add_one_of_ne_zero (Nat.ne_zero_of_lt h)
    rw [List.flatMap_nil, List.nil_append, readBasicLines.eq_def]
    simp [readClosing_close '"' rest hrest]
  | cons c cs ih =>
    obtain ⟨fuel, rfl⟩ := Nat.exists_eq_add_one_of_ne_zero (Nat.ne_zero_of_lt h)
    have hstep : readBasicLines (fuel + 1) (escaped true c ++ (cs.flatMap (escaped true) ++
        '"' :: '"' :: '"' :: rest)) =
        (readBasicLines fuel (cs.flatMap (escaped true) ++ '"' :: '"' :: '"' :: rest)).map
          (prepend c) := by
      by_cases hline : c = '\n'
      · subst hline
        exact readBasicLines_line fuel _
      · exact readBasicLines_written (written_escaped true c (Or.inr hline)) fuel _
    rw [List.flatMap_cons, List.append_assoc, hstep, ih fuel (by simpa using h)]
    rfl

/-! Between single quotes. -/

theorem readLiteral_append (cs rest : List Char) (hplain : ∀ c ∈ cs, isPlain c = true)
    (hquote : '\'' ∉ cs) : readLiteral (cs ++ '\'' :: rest) = some (cs, rest) := by
  induction cs with
  | nil => simp [readLiteral]
  | cons c cs ih =>
    rw [List.mem_cons, not_or] at hquote
    obtain ⟨hc, hcs⟩ := List.forall_mem_cons.mp hplain
    simp [readLiteral, hc, Ne.symm hquote.1, ih hcs hquote.2, prepend]

/-- A run that is counted is no longer than the longest one. -/
theorem le_longestRun (run longest : Nat) (cs : List Char) :
    run ≤ longestRun run longest cs ∧ longest ≤ longestRun run longest cs := by
  induction cs generalizing run longest with
  | nil => simp only [longestRun]; omega
  | cons c cs ih =>
    rw [longestRun]
    split
    · obtain ⟨hrun, hlongest⟩ := ih (run + 1) longest
      exact ⟨by omega, hlongest⟩
    · obtain ⟨-, hlongest⟩ := ih 0 (max run longest)
      exact ⟨by omega, by omega⟩

/-- Three single quotes in a row are a run of at least three. -/
theorem le_longestRun_of_infix (cs : List Char) (h : ['\'', '\'', '\''] <:+: cs)
    (run longest : Nat) : 3 ≤ longestRun run longest cs := by
  induction cs generalizing run longest with
  | nil => simp at h
  | cons c cs ih =>
    rcases List.infix_cons_iff.mp h with h | h
    · obtain ⟨back, hback⟩ := h
      rw [← hback]
      simp only [List.cons_append, List.nil_append, longestRun, if_true]
      have := (le_longestRun (run + 1 + 1 + 1) longest back).1
      omega
    · rw [longestRun]
      split
      · exact ih h _ _
      · exact ih h _ _

/-- Within a text that has no three single quotes in a row and does not end in one, nothing is taken
for the closing ones. -/
theorem readClosing_append (cs rest : List Char) (hne : cs ≠ [])
    (hinside : ¬ ['\'', '\'', '\''] <:+: cs) (hlast : cs.getLast? ≠ some '\'') :
    readClosing '\'' (cs ++ rest) = none := by
  have hquotes : ∀ c ∈ cs.takeWhile (· == '\''), c = '\'' := by
    intro c hc
    simpa using List.mem_takeWhile_imp hc
  have hstops : (cs.takeWhile (· == '\'')).length ≠ cs.length := by
    intro hlength
    have hall : cs.takeWhile (· == '\'') = cs :=
      (List.takeWhile_prefix _).eq_of_length hlength
    rw [hall] at hquotes
    rw [List.getLast?_eq_some_getLast hne, hquotes _ (List.getLast_mem hne)] at hlast
    exact hlast rfl
  have hshort : (cs.takeWhile (· == '\'')).length < 3 := by
    by_contra hlong
    have hrun : ['\'', '\'', '\''] <+: cs.takeWhile (· == '\'') := by
      rw [List.eq_replicate_of_mem hquotes]
      exact List.prefix_replicate_iff.mpr ⟨by simpa using hlong, rfl⟩
    exact hinside (hrun.trans (List.takeWhile_prefix _)).isInfix
  have htake : (cs ++ rest).takeWhile (· == '\'') = cs.takeWhile (· == '\'') := by
    rw [List.takeWhile_append, if_neg hstops]
  simp only [readClosing, htake]
  rw [if_pos (by omega)]

theorem readLiteralLines_append (cs rest : List Char)
    (hplain : ∀ c ∈ cs, c = '\n' ∨ isPlain c = true ∧ c ≠ '\r')
    (hinside : ¬ ['\'', '\'', '\''] <:+: cs) (hlast : cs.getLast? ≠ some '\'')
    (hrest : rest.head? ≠ some '\'') (fuel : Nat) (h : cs.length < fuel) :
    readLiteralLines fuel (cs ++ '\'' :: '\'' :: '\'' :: rest) = some (cs, rest) := by
  induction cs generalizing fuel with
  | nil =>
    obtain ⟨fuel, rfl⟩ := Nat.exists_eq_add_one_of_ne_zero (Nat.ne_zero_of_lt h)
    rw [List.nil_append, readLiteralLines.eq_def]
    simp [readClosing_close '\'' rest hrest]
  | cons c cs ih =>
    obtain ⟨fuel, rfl⟩ := Nat.exists_eq_add_one_of_ne_zero (Nat.ne_zero_of_lt h)
    obtain ⟨hc, hcs⟩ := List.forall_mem_cons.mp hplain
    have hclosing : readClosing '\'' (c :: (cs ++ '\'' :: '\'' :: '\'' :: rest)) = none :=
      readClosing_append (c :: cs) _ (List.cons_ne_nil c cs) hinside hlast
    have hlast' : cs.getLast? ≠ some '\'' := by
      cases cs with
      | nil => simp
      | cons d ds => simpa using hlast
    have htail := ih hcs (fun h => hinside (h.trans (List.suffix_cons c cs).isInfix)) hlast' fuel
      (by simpa using h)
    rw [List.cons_append, readLiteralLines.eq_def]
    rcases hc with rfl | ⟨hc, hreturn⟩
    · simp [hclosing, lineEnd?, htail, prepend]
    · by_cases hline : c = '\n'
      · subst hline
        simp [hclosing, lineEnd?, htail, prepend]
      · simp [hclosing, lineEnd?_cons_of_ne hline hreturn, hc, htail, prepend]

/-! Any text. -/

/-- A text that is better written as it is can stand between single quotes. -/
theorem spec_of_isBetterPlain (cs : List Char) (h : isBetterPlain cs = true) :
    cs ≠ [] ∧ (∀ c ∈ cs, c = '\n' ∨ isPlain c = true ∧ c ≠ '\r') ∧
      ¬ ['\'', '\'', '\''] <:+: cs ∧ cs.getLast? ≠ some '\'' := by
  simp only [isBetterPlain, Bool.and_eq_true, List.any_eq_true, List.all_eq_true,
    decide_eq_true_eq, bne_iff_ne] at h
  obtain ⟨⟨⟨⟨c, hc, -⟩, hall⟩, hrun⟩, hlast⟩ := h
  refine ⟨List.ne_nil_of_mem hc, ?_, ?_, hlast⟩
  · intro c hc
    have hcase := hall c hc
    simp only [Bool.or_eq_true, beq_iff_eq, Bool.not_eq_true'] at hcase
    rcases hcase with (rfl | rfl) | hcontrol
    · exact Or.inr (by decide)
    · exact Or.inl rfl
    · refine Or.inr ⟨isPlain_of_not_isControl c hcontrol, ?_⟩
      rintro rfl
      exact absurd hcontrol (by decide)
  · intro hinside
    have := le_longestRun_of_infix cs hinside 0 0
    omega

/-- A text in quotes of one line, unless it starts as one of several lines does. -/
theorem readText_of_ne (cs : List Char) (hdouble : ∀ t, cs ≠ '"' :: '"' :: '"' :: t)
    (hsingle : ∀ t, cs ≠ '\'' :: '\'' :: '\'' :: t) : readText cs = readQuoted cs := by
  unfold readText
  split
  · exact absurd rfl (hdouble _)
  · exact absurd rfl (hsingle _)
  · rfl

theorem length_le_flatMap_escaped (lines : Bool) (cs : List Char) :
    cs.length ≤ (cs.flatMap (escaped lines)).length := by
  induction cs with
  | nil => simp
  | cons c cs ih =>
    have hpos : 0 < (escaped lines c).length := by
      unfold escaped
      split
      case h_3 | h_8 => split <;> simp
      all_goals simp
    rw [List.flatMap_cons, List.length_append, List.length_cons]
    omega

/-- Several lines between quotes, which may start in the line of the opening quotes. -/
theorem readText_literalLines (cs rest : List Char) (first : List Char)
    (hfirst : first = ['\n'] ∨ first = [] ∧ cs.head? ≠ some '\n')
    (hplain : ∀ c ∈ cs, c = '\n' ∨ isPlain c = true ∧ c ≠ '\r')
    (hinside : ¬ ['\'', '\'', '\''] <:+: cs) (hlast : cs.getLast? ≠ some '\'')
    (hrest : rest.head? ≠ some '\'') :
    readText ('\'' :: '\'' :: '\'' :: (first ++ (cs ++ '\'' :: '\'' :: '\'' :: rest))) =
      some (String.ofList cs, rest) := by
  have hdrop : dropLineEnd (first ++ (cs ++ '\'' :: '\'' :: '\'' :: rest)) =
      cs ++ '\'' :: '\'' :: '\'' :: rest := by
    rcases hfirst with rfl | ⟨rfl, hhead⟩
    · rfl
    · cases cs with
      | nil => rfl
      | cons c cs =>
        have hreturn : c ≠ '\r' := by
          rintro rfl
          simpa using hplain '\r' List.mem_cons_self
        have hend := lineEnd?_cons_of_ne (by simpa using hhead) hreturn
          (cs ++ '\'' :: '\'' :: '\'' :: rest)
        simp [dropLineEnd, hend]
  have hread := readLiteralLines_append cs rest hplain hinside hlast hrest
    ((first ++ (cs ++ '\'' :: '\'' :: '\'' :: rest)).length + 1) (by simp; omega)
  rw [readText, hdrop, hread]
  rfl

theorem readText_literal (cs rest : List Char) (hne : cs ≠ [])
    (hplain : ∀ c ∈ cs, isPlain c = true) (hquote : '\'' ∉ cs) :
    readText ('\'' :: (cs ++ '\'' :: rest)) = some (String.ofList cs, rest) := by
  obtain ⟨c, cs, rfl⟩ := List.exists_cons_of_ne_nil hne
  have hc : c ≠ '\'' := fun h => hquote (h ▸ List.mem_cons_self)
  rw [readText_of_ne _ (by simp) (by simp [hc]), readQuoted,
    readLiteral_append (c :: cs) rest hplain hquote]
  rfl

theorem readText_basicLines (cs rest : List Char) (hrest : rest.head? ≠ some '"') :
    readText ('"' :: '"' :: '"' :: '\n' ::
      (cs.flatMap (escaped true) ++ '"' :: '"' :: '"' :: rest)) =
      some (String.ofList cs, rest) := by
  have hdrop : dropLineEnd ('\n' :: (cs.flatMap (escaped true) ++ '"' :: '"' :: '"' :: rest)) =
      cs.flatMap (escaped true) ++ '"' :: '"' :: '"' :: rest := rfl
  have hlength := length_le_flatMap_escaped true cs
  have hread := readBasicLines_escaped cs rest hrest
    (('\n' :: (cs.flatMap (escaped true) ++ '"' :: '"' :: '"' :: rest)).length + 1)
    (by simp only [List.length_cons, List.length_append]; omega)
  rw [readText, hdrop, hread]
  rfl

theorem readText_basic (cs rest : List Char) (hrest : rest.head? ≠ some '"') :
    readText ('"' :: (cs.flatMap (escaped false) ++ '"' :: rest)) =
      some (String.ofList cs, rest) := by
  have hlength := length_le_flatMap_escaped false cs
  have hread := readBasic_escaped cs rest ((cs.flatMap (escaped false) ++ '"' :: rest).length + 1)
    (by simp only [List.length_cons, List.length_append]; omega)
  rw [readText_of_ne _ ?_ (by simp), readQuoted, hread]
  · rfl
  · -- an empty text has two quotes only, and no other one starts with a quote
    intro t h
    cases cs with
    | nil =>
      obtain rfl : rest = '"' :: t := by simpa using h
      simp at hrest
    | cons c cs =>
      have hwritten := written_escaped false c (Or.inl rfl)
      rw [List.flatMap_cons] at h
      generalize escaped false c = written at h hwritten
      cases hwritten with
      | plain _ hquote => exact hquote (List.cons.inj (List.cons.inj h).2).1
      | escape => exact absurd (List.cons.inj (List.cons.inj h).2).1 (by decide)

/-- What is written of a text is read as the text, up to the end of the line. -/
theorem readText_quoted (s : String) (rest : List Char) :
    readText ((quoted s).toList ++ '\n' :: rest) = some (s, '\n' :: rest) := by
  have hsource : String.ofList s.toList = s := String.ofList_toList
  unfold quoted
  simp only [String.toList_ofList]
  split
  · rename_i hbetter
    obtain ⟨hne, hplain, hinside, hlast⟩ := spec_of_isBetterPlain s.toList hbetter
    split
    · have hread := readText_literalLines s.toList ('\n' :: rest) ['\n'] (Or.inl rfl) hplain hinside
        hlast (by simp)
      simpa [hsource] using hread
    · rename_i hlines
      split
      · have hhead : s.toList.head? ≠ some '\n' := fun h =>
          hlines (by simpa using List.mem_of_mem_head? h)
        have hread := readText_literalLines s.toList ('\n' :: rest) [] (Or.inr ⟨rfl, hhead⟩) hplain
          hinside hlast (by simp)
        simpa [hsource] using hread
      · rename_i hquote
        have hinline : ∀ c ∈ s.toList, isPlain c = true := by
          intro c hc
          rcases hplain c hc with rfl | ⟨h, -⟩
          · exact absurd (by simpa using hc) hlines
          · exact h
        have hread := readText_literal s.toList ('\n' :: rest) hne hinline (by simpa using hquote)
        simpa [hsource] using hread
  · split
    · have hread := readText_basicLines s.toList ('\n' :: rest) (by simp)
      simpa [hsource] using hread
    · have hread := readText_basic s.toList ('\n' :: rest) (by simp)
      simpa [hsource] using hread

end ModelForm.Toml
