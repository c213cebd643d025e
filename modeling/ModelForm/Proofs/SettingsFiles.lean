import ModelForm.Proofs.QuotedTexts
import ModelForm.Settings.Source

/-!
Settings files as they are written. A written file has a header for each section and a line for each
key that has a value; reading it gives back exactly these sections, with these keys and values.
-/

namespace ModelForm

namespace Toml

/-! Tables that are put together in order. -/

namespace Entries

theorem get?_append_of_notMem {es : Entries} {key : String} (h : key ∉ es.map Prod.fst)
    (item : Item) : get? (es ++ [(key, item)]) key = some item := by
  induction es with
  | nil => simp [get?]
  | cons e es ih =>
    obtain ⟨hne, h⟩ := by simpa [not_or] using h
    simp [get?, Ne.symm hne, ih (by simpa using h)]

theorem get?_of_notMem {es : Entries} {key : String} (h : key ∉ es.map Prod.fst) :
    get? es key = none := by
  induction es with
  | nil => rfl
  | cons e es ih =>
    obtain ⟨hne, h⟩ := by simpa [not_or] using h
    simp [get?, Ne.symm hne, ih (by simpa using h)]

theorem put_of_notMem {es : Entries} {key : String} (h : key ∉ es.map Prod.fst) (item : Item) :
    put es key item = es ++ [(key, item)] := by
  induction es with
  | nil => rfl
  | cons e es ih =>
    obtain ⟨hne, h⟩ := by simpa [not_or] using h
    simp [put, Ne.symm hne, ih (by simpa using h)]

theorem put_append_of_notMem {es : Entries} {key : String} (h : key ∉ es.map Prod.fst)
    (item item' : Item) : put (es ++ [(key, item)]) key item' = es ++ [(key, item')] := by
  induction es with
  | nil => simp [put]
  | cons e es ih =>
    obtain ⟨hne, h⟩ := by simpa [not_or] using h
    simp [put, Ne.symm hne, ih (by simpa using h)]

end Entries

theorem settings_eq_map (es : List (String × Item)) :
    settings es = es.map fun e => (e.1, e.2.setting) := by
  induction es with
  | nil => rfl
  | cons e es ih => rw [settings, ih, List.map_cons]

/-! Lines. -/

structure BareKey (key : String) : Prop where
  ne_empty : key ≠ ""
  chars : ∀ c ∈ key.toList, isBareKeyChar c = true

theorem bareKey_of_all {key : String} (hne : key ≠ "")
    (hall : key.toList.all isBareKeyChar = true) : BareKey key :=
  ⟨hne, List.all_eq_true.mp hall⟩

theorem isSpace_of_isBareKeyChar {c : Char} (h : isBareKeyChar c = true) : isSpace c = false := by
  by_contra hspace
  simp only [isSpace, Bool.not_eq_false, Bool.or_eq_true, beq_iff_eq] at hspace
  rcases hspace with rfl | rfl <;> simp [isBareKeyChar] at h

theorem readSimpleKey_bare {key : String} (h : BareKey key) (rest : List Char)
    (hrest : rest.head?.any isBareKeyChar = false) :
    readSimpleKey (key.toList ++ rest) = some (key, rest) := by
  obtain ⟨c, cs, hkey⟩ := List.exists_cons_of_ne_nil (mt String.toList_eq_nil_iff.mp h.ne_empty)
  have hc : isBareKeyChar c = true := h.chars c (by simp [hkey])
  have hunquoted : readQuoted (key.toList ++ rest) = none := by
    rw [hkey, List.cons_append]
    unfold readQuoted
    split
    · exact absurd hc (by simp_all [isBareKeyChar])
    · exact absurd hc (by simp_all [isBareKeyChar])
    · rfl
  have hstop : rest.takeWhile isBareKeyChar = [] ∧ rest.dropWhile isBareKeyChar = rest := by
    cases rest with
    | nil => exact ⟨rfl, rfl⟩
    | cons d rest => simpa using hrest
  have htake : (key.toList ++ rest).takeWhile isBareKeyChar = key.toList := by
    rw [List.takeWhile_append_of_pos h.chars, hstop.1, List.append_nil]
  have hdrop : (key.toList ++ rest).dropWhile isBareKeyChar = rest := by
    rw [List.dropWhile_append_of_pos h.chars, hstop.2]
  simp [readSimpleKey, hunquoted, htake, hdrop, h.ne_empty]

theorem readKey_bare {key : String} (h : BareKey key) (rest : List Char)
    (hrest : rest.head?.any isBareKeyChar = false) (hdot : (skipSpace rest).head? ≠ some '.')
    (fuel : Nat) :
    readKey (fuel + 1) (key.toList ++ rest) = some ([key], skipSpace rest) := by
  have hskip : skipSpace (key.toList ++ rest) = key.toList ++ rest := by
    obtain ⟨c, cs, hkey⟩ := List.exists_cons_of_ne_nil (mt String.toList_eq_nil_iff.mp h.ne_empty)
    have hc := isSpace_of_isBareKeyChar (h.chars c (by simp [hkey]))
    simp [skipSpace, hkey, hc]
  rw [readKey, hskip, readSimpleKey_bare h rest hrest]
  simp only
  split
  · rename_i hrest'
    simp [hrest'] at hdot
  · rfl

/-- A header opens the table of its name, for the lines behind it. -/
theorem readHeader_bare {name : String} (h : BareKey name) (p : Progress) (rest : List Char) :
    readHeader false (name.toList ++ ']' :: '\n' :: rest) p =
      (Entries.define name p.root).map fun root => ({ root, current := [name] }, rest) := by
  have hskip : skipSpace (']' :: '\n' :: rest) = ']' :: '\n' :: rest := rfl
  have hkey := fun fuel => readKey_bare h (']' :: '\n' :: rest) rfl (by simp [hskip]) fuel
  have hline : finishLine ('\n' :: rest) = some rest := rfl
  simp only [readHeader, hkey, hskip, readBracket, hline, Bool.false_eq_true, if_false,
    Option.bind_eq_bind, Option.bind_some, List.getLast?_singleton, List.dropLast_singleton,
    Entries.within]
  cases Entries.define name p.root <;> rfl

theorem exists_quoted_cons (s : String) :
    ∃ q cs, (q = '"' ∨ q = '\'') ∧ (quoted s).toList = q :: cs := by
  unfold quoted
  simp only [String.toList_ofList]
  split
  · split
    · exact ⟨'\'', _, Or.inr rfl, rfl⟩
    · split <;> exact ⟨'\'', _, Or.inr rfl, rfl⟩
  · split <;> exact ⟨'"', _, Or.inl rfl, rfl⟩

theorem readValue_quoted (s : String) (fuel depth : Nat) (rest : List Char) :
    readValue (fuel + 1) depth ((quoted s).toList ++ '\n' :: rest) =
      some (.text s, '\n' :: rest) := by
  have htext := readText_quoted s rest
  obtain ⟨q, cs, hq, hcs⟩ := exists_quoted_cons s
  rw [hcs, List.cons_append] at htext ⊢
  rcases hq with rfl | rfl <;> simp [readValue, htext]

/-- A line with a text gives it to its key, in the table to which lines belong. -/
theorem readPair_line {key : String} (h : BareKey key) (value : String) (p : Progress)
    (rest : List Char) :
    readPair ((Settings.line key (some value)).toList ++ rest) p =
      (Entries.within (Entries.assign (.text value) [key]) p.current p.root).map
        fun root => ({ p with root }, rest) := by
  have hline : (Settings.line key (some value)).toList ++ rest =
      key.toList ++ ' ' :: '=' :: ' ' :: ((quoted value).toList ++ '\n' :: rest) := by
    simp [Settings.line]
  have hkey := fun fuel => readKey_bare h (' ' :: '=' :: ' ' ::
    ((quoted value).toList ++ '\n' :: rest)) rfl (by simp [skipSpace, isSpace]) fuel
  have hequals : skipSpace (' ' :: '=' :: ' ' :: ((quoted value).toList ++ '\n' :: rest)) =
      '=' :: ' ' :: ((quoted value).toList ++ '\n' :: rest) := rfl
  have hvalue : skipSpace (' ' :: ((quoted value).toList ++ '\n' :: rest)) =
      (quoted value).toList ++ '\n' :: rest := by
    obtain ⟨q, cs, hq, hcs⟩ := exists_quoted_cons value
    rw [hcs]
    rcases hq with rfl | rfl <;> rfl
  have hend : finishLine ('\n' :: rest) = some rest := rfl
  simp only [readPair, hline, hkey, hequals, hvalue, readValue_quoted, hend, Option.bind_eq_bind,
    Option.bind_some]
  cases Entries.within (Entries.assign (.text value) [key]) p.current p.root <;> rfl

/-! Files. -/

/-- Reading goes on from one place to another, whatever comes last. -/
def Reads (p : Progress) (cs : List Char) (p' : Progress) (rest : List Char) : Prop :=
  ∀ fuel, cs.length < fuel → ∃ fuel', rest.length < fuel' ∧ readLines fuel p cs =
    readLines fuel' p' rest

theorem Reads.refl (p : Progress) (cs : List Char) : Reads p cs p cs :=
  fun fuel h => ⟨fuel, h, rfl⟩

theorem Reads.trans {p p' p'' : Progress} {cs cs' cs'' : List Char} (h : Reads p cs p' cs')
    (h' : Reads p' cs' p'' cs'') : Reads p cs p'' cs'' := by
  intro fuel hfuel
  obtain ⟨fuel', hfuel', heq⟩ := h fuel hfuel
  obtain ⟨fuel'', hfuel'', heq'⟩ := h' fuel' hfuel'
  exact ⟨fuel'', hfuel'', heq.trans heq'⟩

theorem reads_blank (p : Progress) (rest : List Char) : Reads p ('\n' :: rest) p rest := by
  intro fuel hfuel
  refine ⟨fuel, by simp at hfuel; omega, ?_⟩
  have hskip : skipVoid false ('\n' :: rest) = skipVoid false rest := by simp [skipVoid]
  cases fuel with
  | zero => rfl
  | succ fuel => simp only [readLines, hskip]

theorem readLines_header (fuel : Nat) (p : Progress) {c : Char} (hc : c ≠ '[') (cs : List Char) :
    readLines (fuel + 1) p ('[' :: c :: cs) =
      (readHeader false (c :: cs) p).bind fun r => readLines fuel r.1 r.2 := by
  have hskip : skipVoid false ('[' :: c :: cs) = some ('[' :: c :: cs) := by
    simp [skipVoid, isSpace]
  simp [readLines, hskip, hc]

theorem readLines_pair (fuel : Nat) (p : Progress) {c : Char} (hc : isBareKeyChar c = true)
    (cs : List Char) : readLines (fuel + 1) p (c :: cs) =
      (readPair (c :: cs) p).bind fun r => readLines fuel r.1 r.2 := by
  have hne : ∀ d, isBareKeyChar d = false → c ≠ d := by
    rintro d hd rfl
    simp [hd] at hc
  have hline := hne '\n' (by decide)
  have hreturn := hne '\r' (by decide)
  have hcomment := hne '#' (by decide)
  have hbracket := hne '[' (by decide)
  have hskip : skipVoid false (c :: cs) = some (c :: cs) := by
    have hspace := isSpace_of_isBareKeyChar hc
    rw [skipVoid.eq_def]
    split <;> simp_all
  simp [readLines, hskip, hbracket]

theorem reads_header {name : String} (h : BareKey name) (p : Progress)
    (hnew : name ∉ p.root.map Prod.fst) (rest : List Char) :
    Reads p ('[' :: (name.toList ++ ']' :: '\n' :: rest))
      { root := p.root ++ [(name, .table .header [])], current := [name] } rest := by
  intro fuel hfuel
  obtain ⟨fuel, rfl⟩ := Nat.exists_eq_add_one_of_ne_zero (Nat.ne_zero_of_lt hfuel)
  obtain ⟨c, cs, hname⟩ := List.exists_cons_of_ne_nil (mt String.toList_eq_nil_iff.mp h.ne_empty)
  have hc : c ≠ '[' := by
    rintro rfl
    exact absurd (h.chars '[' (by simp [hname])) (by decide)
  have hread := readHeader_bare h p rest
  have hdefine : Entries.define name p.root = some (p.root ++ [(name, .table .header [])]) := by
    simp [Entries.define, Entries.get?_of_notMem hnew, Entries.put_of_notMem hnew]
  refine ⟨fuel, by simp at hfuel; omega, ?_⟩
  rw [hname, List.cons_append] at hread ⊢
  rw [readLines_header fuel p hc, hread, hdefine]
  rfl

theorem reads_line {key name : String} (h : BareKey key) (value : String) (done : Entries)
    (hname : name ∉ done.map Prod.fst) (es : Entries) (hnew : key ∉ es.map Prod.fst)
    (rest : List Char) :
    Reads { root := done ++ [(name, .table .header es)], current := [name] }
      ((Settings.line key (some value)).toList ++ rest)
      { root := done ++ [(name, .table .header (es ++ [(key, .value (.text value))]))],
        current := [name] } rest := by
  intro fuel hfuel
  obtain ⟨fuel, rfl⟩ := Nat.exists_eq_add_one_of_ne_zero (Nat.ne_zero_of_lt hfuel)
  obtain ⟨c, cs, hkey⟩ := List.exists_cons_of_ne_nil (mt String.toList_eq_nil_iff.mp h.ne_empty)
  have hc : isBareKeyChar c = true := h.chars c (by simp [hkey])
  have hline : ∃ more, (Settings.line key (some value)).toList ++ rest = c :: more := by
    simp [Settings.line, hkey]
  obtain ⟨more, hmore⟩ := hline
  have hassign : Entries.assign (.text value) [key] es =
      some (es ++ [(key, .value (.text value))]) := by
    simp [Entries.assign, Entries.get?_of_notMem hnew, Entries.put_of_notMem hnew]
  have hread := readPair_line h value
    { root := done ++ [(name, .table .header es)], current := [name] } rest
  simp only [Entries.within, Entries.get?_append_of_notMem hname, hassign, Option.map_some,
    Entries.put_append_of_notMem hname] at hread
  refine ⟨fuel, ?_, ?_⟩
  · simp [Settings.line] at hfuel
    omega
  · rw [hmore] at hread ⊢
    rw [readLines_pair fuel _ hc, hread]
    rfl

def keyLines (pairs : List (String × Option String)) : List Char :=
  pairs.flatMap fun pair => (Settings.line pair.1 pair.2).toList

theorem keyLines_nil : keyLines [] = [] := rfl

theorem keyLines_cons (key : String) (value : Option String)
    (pairs : List (String × Option String)) :
    keyLines ((key, value) :: pairs) = (Settings.line key value).toList ++ keyLines pairs := rfl

def given (pairs : List (String × Option String)) : List (String × Setting) :=
  pairs.filterMap fun pair => pair.2.map fun value => (pair.1, .text value)

def givenItems (pairs : List (String × Option String)) : Entries :=
  (given pairs).map fun pair => (pair.1, .value pair.2)

theorem settings_givenItems (pairs : List (String × Option String)) :
    settings (givenItems pairs) = given pairs := by
  simp [settings_eq_map, givenItems, Function.comp_def, Item.setting]

theorem reads_keyLines {name : String} (done : Entries) (hname : name ∉ done.map Prod.fst)
    (pairs : List (String × Option String)) (hbare : ∀ pair ∈ pairs, BareKey pair.1) (es : Entries)
    (hnew : (es.map Prod.fst ++ pairs.map Prod.fst).Nodup) (rest : List Char) :
    Reads { root := done ++ [(name, .table .header es)], current := [name] }
      (keyLines pairs ++ rest)
      { root := done ++ [(name, .table .header (es ++ givenItems pairs))], current := [name] }
      rest := by
  induction pairs generalizing es with
  | nil => simpa [keyLines, givenItems, given] using Reads.refl _ rest
  | cons pair pairs ih =>
    obtain ⟨key, value⟩ := pair
    obtain ⟨hkey, htail⟩ := List.forall_mem_cons.mp hbare
    cases value with
    | none =>
      have hnodup : (es.map Prod.fst ++ pairs.map Prod.fst).Nodup :=
        hnew.sublist ((List.Sublist.refl _).append (List.sublist_cons_self _ _))
      simpa [keyLines, givenItems, given, Settings.line] using ih htail es hnodup
    | some value =>
      have hnodup : ((es ++ [(key, Item.value (.text value))]).map Prod.fst ++
          pairs.map Prod.fst).Nodup := by simpa using hnew
      have hfresh : key ∉ es.map Prod.fst := by
        intro hmem
        exact (List.nodup_append.mp hnew).2.2 key hmem key (by simp) rfl
      have hline := reads_line hkey value done hname es hfresh (keyLines pairs ++ rest)
      have hrest := ih htail (es ++ [(key, .value (.text value))]) hnodup
      simpa [keyLines, givenItems, given] using hline.trans hrest

/-- A header with the lines of its keys adds a table. -/
theorem reads_section {name : String} (h : BareKey name) (p : Progress)
    (hname : name ∉ p.root.map Prod.fst) (pairs : List (String × Option String))
    (hbare : ∀ pair ∈ pairs, BareKey pair.1) (hnodup : (pairs.map Prod.fst).Nodup)
    (rest : List Char) :
    Reads p ('[' :: (name.toList ++ ']' :: '\n' :: (keyLines pairs ++ rest)))
      { root := p.root ++ [(name, .table .header (givenItems pairs))], current := [name] }
      rest := by
  have hheader := reads_header h p hname (keyLines pairs ++ rest)
  have hkeys := reads_keyLines p.root hname pairs hbare [] (by simpa using hnodup) rest
  simpa using hheader.trans hkeys

theorem table?_of_reads {text : String} {p : Progress} (h : Reads {} text.toList p []) :
    table? text = some (settings p.root) := by
  obtain ⟨fuel, hfuel, heq⟩ := h (text.toList.length + 1) (Nat.lt_succ_self _)
  obtain ⟨fuel, rfl⟩ := Nat.exists_eq_add_one_of_ne_zero (Nat.ne_zero_of_lt hfuel)
  have hend : readLines (fuel + 1) p [] = some p := by simp [readLines, skipVoid]
  simp only [table?, heq, hend, Option.map_some]

end Toml

namespace Settings

/-! The three sections of written settings, with their keys. -/

def messageKeys (s : Settings) : List (String × Option String) :=
  [("string", s.messages.string), ("number", s.messages.number), ("boolean", s.messages.boolean),
    ("enumeration", s.messages.enumeration), ("generic", some s.messages.generic)]

def loaderKeys (s : Settings) : List (String × Option String) :=
  [("models_dir", s.modelsDirectory)]

def loggingKeys (s : Settings) : List (String × Option String) := [("filter", some s.filter)]

/-- What written settings say: a table for each section, with the keys that have a value. -/
def written (s : Settings) : Setting.Table :=
  [("messages", .table (Toml.given s.messageKeys)), ("loader", .table (Toml.given s.loaderKeys)),
    ("logging", .table (Toml.given s.loggingKeys))]

theorem bareKey_of_mem (s : Settings) : ∀ pair ∈ s.messageKeys ++ s.loaderKeys ++ s.loggingKeys,
    Toml.BareKey pair.1 := by
  simp only [messageKeys, loaderKeys, loggingKeys, List.cons_append, List.nil_append,
    List.forall_mem_cons, List.not_mem_nil, false_imp_iff, implies_true, and_true]
  refine ⟨?_, ?_, ?_, ?_, ?_, ?_, ?_⟩ <;> exact Toml.bareKey_of_all (by decide) (by decide)

theorem toList_text (s : Settings) : s.text.toList =
    '[' :: ("messages".toList ++ ']' :: '\n' :: (Toml.keyLines s.messageKeys ++
      '\n' :: '[' :: ("loader".toList ++ ']' :: '\n' :: (Toml.keyLines s.loaderKeys ++
        '\n' :: '[' :: ("logging".toList ++ ']' :: '\n' ::
          (Toml.keyLines s.loggingKeys ++ [])))))) := by
  have hmessages : "[messages]\n".toList = '[' :: ("messages".toList ++ [']', '\n']) := by decide
  have hloader : "\n[loader]\n".toList = '\n' :: '[' :: ("loader".toList ++ [']', '\n']) := by
    decide
  have hlogging : "\n[logging]\n".toList = '\n' :: '[' :: ("logging".toList ++ [']', '\n']) := by
    decide
  unfold text
  repeat rw [String.toList_append]
  rw [hmessages, hloader, hlogging]
  simp only [messageKeys, loaderKeys, loggingKeys, Toml.keyLines_cons, Toml.keyLines_nil,
    List.append_assoc, List.cons_append, List.nil_append, List.append_nil]

theorem table?_text (s : Settings) : Toml.table? s.text = some s.written := by
  have hbare := s.bareKey_of_mem
  simp only [List.forall_mem_append] at hbare
  obtain ⟨⟨hmessages, hloader⟩, hlogging⟩ := hbare
  have hsection : ∀ name, name = "messages" ∨ name = "loader" ∨ name = "logging" →
      Toml.BareKey name := by
    rintro name (rfl | rfl | rfl) <;> exact Toml.bareKey_of_all (by decide) (by decide)
  have hfirst := fun rest => Toml.reads_section (hsection "messages" (by simp)) {} (by simp)
    s.messageKeys hmessages (by simp [messageKeys]) rest
  have hsecond := fun p hp rest => Toml.reads_section (hsection "loader" (by simp)) p hp
    s.loaderKeys hloader (by simp [loaderKeys]) rest
  have hthird := fun p hp rest => Toml.reads_section (hsection "logging" (by simp)) p hp
    s.loggingKeys hlogging (by simp [loggingKeys]) rest
  have hread : Toml.Reads {} s.text.toList
      { root := [("messages", .table .header (Toml.givenItems s.messageKeys)),
          ("loader", .table .header (Toml.givenItems s.loaderKeys)),
          ("logging", .table .header (Toml.givenItems s.loggingKeys))]
        current := ["logging"] } [] := by
    rw [toList_text]
    refine (hfirst _).trans ((Toml.reads_blank _ _).trans ((hsecond _ ?_ _).trans
      ((Toml.reads_blank _ _).trans (hthird _ ?_ _))))
    · simp
    · simp
  rw [Toml.table?_of_reads hread]
  simp only [Toml.settings, Toml.Item.setting, Toml.settings_givenItems, written]

/-- The entries of a written file are what was written. -/
theorem entries?_text (s : Settings) : Format.toml.entries? s.text = some s.written := by
  have hstart : ∃ cs, s.text.toList = '[' :: cs := ⟨_, s.toList_text.trans rfl⟩
  obtain ⟨cs, hcs⟩ := hstart
  simp only [Format.entries?, hcs]
  exact s.table?_text

end Settings

end ModelForm
