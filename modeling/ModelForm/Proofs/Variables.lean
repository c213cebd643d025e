import ModelForm.Proofs.FilledSettings
import ModelForm.Proofs.SettingsFiles
import ModelForm.Proofs.SettingsSources

/-!
Settings from variables of the environment. A variable gives a setting what its text reads as: a
truth value in lower case, a number as it is written in the shortest way, and any other text as it
stands. So it does the same as a named file that gives the setting this text, whatever the files
below say and whatever else is in the environment; and the same as a file with the text of the
variable exactly if reading leaves this text alone.
-/

namespace ModelForm.Settings

open Setting (Table fill apart Agree layer)

/-! What a variable says. -/

/-- The text that a setting gets from the text of a variable: one that reads as a truth value or as
a number stands for the value that it reads as, written in the one way that such a value has. -/
def reading (v : String) : String :=
  if Unicode.lowercase v = "true" ∨ Unicode.lowercase v = "false" then Unicode.lowercase v
  else
    match Literal.integer? v.toList, Literal.double? v.toList with
    | some i, _ => toString i
    | none, some x => x.inSentence
    | none, none => v

theorem isScalar_variableValue (v : String) : (variableValue v).isScalar = true := by
  unfold variableValue
  dsimp only
  split_ifs
  · rfl
  · rfl
  · split <;> rfl

theorem asText_variableValue (v : String) : (variableValue v).asText = .ok (reading v) := by
  unfold variableValue reading
  simp only [beq_iff_eq]
  by_cases htrue : Unicode.lowercase v = "true"
  · simp [htrue, Setting.asText]
  · by_cases hfalse : Unicode.lowercase v = "false"
    · simp [hfalse, Setting.asText]
    · simp only [htrue, hfalse, or_self, if_false]
      cases Literal.integer? v.toList <;> cases Literal.double? v.toList <;> rfl

theorem exists_of_mem_variableSource {environment : List (String × String)}
    {entry : String × Setting} (h : entry ∈ variableSource environment) :
    ∃ given ∈ environment, ∃ path, variableKey? given.1 = some path ∧
      (path, variableValue given.2) = entry := by
  obtain ⟨given, hgiven, hentry⟩ := List.mem_filterMap.mp h
  exact ⟨given, hgiven, by simpa only [Option.map_eq_some_iff] using hentry⟩

theorem variableSource_append (front back : List (String × String)) :
    variableSource (front ++ back) = variableSource front ++ variableSource back :=
  List.filterMap_append

namespace Key

variable (k : Key)

def variableName : Key → String
  | .optional .string => "VALIDATION__MESSAGES__STRING"
  | .optional .number => "VALIDATION__MESSAGES__NUMBER"
  | .optional .boolean => "VALIDATION__MESSAGES__BOOLEAN"
  | .optional .enumeration => "VALIDATION__MESSAGES__ENUMERATION"
  | .optional .modelsDirectory => "VALIDATION__LOADER__MODELS_DIR"
  | .generic => "VALIDATION__MESSAGES__GENERIC"
  | .filter => "VALIDATION__LOGGING__FILTER"

def path (k : Key) : String := k.table ++ "." ++ k.name

theorem variableKey?_variableName : variableKey? k.variableName = some k.path := by
  have hall : ∀ k ∈ all, variableKey? k.variableName = some k.path := by decide +kernel
  exact hall k k.mem_all

theorem stepsOf_path : Setting.stepsOf k.path = k.keys.map Setting.Step.key := by
  have hall : ∀ k ∈ all, Setting.stepsOf k.path = k.keys.map Setting.Step.key := by
    decide +kernel
  exact hall k k.mem_all

theorem lowercase_keys : ∀ key ∈ k.keys, Unicode.lowercase key = key := by
  have hall : ∀ k ∈ all, ∀ key ∈ k.keys, Unicode.lowercase key = key := by decide +kernel
  exact hall k k.mem_all

/-- Any of these values in the place of the setting is its value. -/
theorem meaning_of_asText {x : Setting} {text : String} (hx : x.asText = .ok text) :
    k.meaning (some x) = .ok (some text) := by
  have hmap : (x.asText).map some = .ok (some text) := by rw [hx]; rfl
  cases k with
  | optional o => cases x <;> first | exact hmap | simp [Setting.asText] at hx
  | _ => exact hmap

/-- A variable says nothing of the setting, nor of its section as a whole. -/
def spares (k : Key) (variableName : String) : Bool :=
  (variableKey? variableName).all fun path => apart k.keys (Setting.stepsOf path)

/-- The variables of all other settings do so. -/
theorem spares_variableName {k' : Key} (h : k' ≠ k) : k.spares k'.variableName = true := by
  have hlower := k'.lowercase_keys
  simp only [keys, List.forall_mem_cons] at hlower
  obtain ⟨htable, hname, -⟩ := hlower
  have hne : k'.name ≠ k.name := fun hname => h (name_injective hname)
  rw [spares, variableKey?_variableName, Option.all_some, stepsOf_path]
  simp [keys, apart, htable, hname, hne]

theorem place_path {x : Setting} (hx : x.isScalar = true) (t : Table) :
    Setting.place x (Setting.stepsOf k.path) (some (.table t)) = .table (k.filled x t) := by
  rw [stepsOf_path, Setting.place_keys hx k.lowercase_keys, fill_keys]

theorem layer_variable (v : String) (t : Table) :
    layer t (variableSource [(k.variableName, v)]) = k.filled (variableValue v) t := by
  have hsource : variableSource [(k.variableName, v)] = [(k.path, variableValue v)] := by
    simp [variableSource, k.variableKey?_variableName]
  rw [hsource, Setting.layer, List.foldl_cons, List.foldl_nil,
    k.place_path (isScalar_variableValue v)]
  rfl

def alone (text : String) : List (String × Setting) :=
  [(k.table, .table [(k.name, .text text)])]

theorem layer_alone (text : String) (t : Table) :
    layer t (k.alone text) = k.filled (.text text) t := by
  have hsteps : Setting.stepsOf k.table = [.key k.table] := by
    have hall : ∀ k ∈ all, Setting.stepsOf k.table = [.key k.table] := by decide +kernel
    exact hall k k.mem_all
  have htable : Unicode.lowercase k.table = k.table := k.lowercase_keys _ (by simp [keys])
  have hname : Unicode.lowercase k.name = k.name := k.lowercase_keys _ (by simp [keys])
  have hsection : ∀ here, (Setting.table [(k.name, .text text)]).onto here =
      fill (.text text) [k.name] here := Setting.onto_table_singleton rfl hname
  rw [alone, Setting.layer, List.foldl_cons, List.foldl_nil, hsteps]
  simp only [Setting.place, hsection, htable]
  rfl

/-- Variables that spare the setting may come before or after it is given its value. -/
theorem agree_layer_filled {environment : List (String × String)}
    (h : ∀ entry ∈ environment, k.spares entry.1 = true) (x : Setting) (t : Table) :
    Agree (some (.table (layer (k.filled x t) (variableSource environment))))
      (some (.table (k.filled x (layer t (variableSource environment))))) := by
  rw [← k.fill_keys x (layer t (variableSource environment))]
  refine Setting.agree_layer_fill x _ ?_ (by rw [k.fill_keys]; exact Agree.refl _)
  intro entry hentry
  obtain ⟨given, hmem, path, hpath, rfl⟩ := exists_of_mem_variableSource hentry
  have hspares := h given hmem
  rw [spares, hpath, Option.all_some] at hspares
  exact ⟨isScalar_variableValue given.2, hspares⟩

/-- Among variables that spare the setting its variable gives it the value. -/
theorem agree_layer_variable {before after : List (String × String)}
    (h : ∀ entry ∈ before ++ after, k.spares entry.1 = true) (v : String) (t : Table) :
    Agree (some (.table (layer t (variableSource (before ++ (k.variableName, v) :: after)))))
      (some (.table (k.filled (variableValue v)
        (layer t (variableSource (before ++ after)))))) := by
  have hafter : ∀ entry ∈ after, k.spares entry.1 = true :=
    fun entry hentry => h entry (List.mem_append_right before hentry)
  have hsplit : variableSource (before ++ (k.variableName, v) :: after) =
      variableSource before ++ (variableSource [(k.variableName, v)] ++ variableSource after) := by
    rw [← variableSource_append, ← variableSource_append]
    rfl
  rw [hsplit, variableSource_append, Setting.layer_append, Setting.layer_append,
    Setting.layer_append, k.layer_variable]
  exact k.agree_layer_filled hafter _ _

end Key

/-! One setting from a variable, and from a file. -/

/-- The file that a path names gives the setting a text, and says nothing else. -/
def Key.GivenBy (k : Key) (files : Files) (path text : String) : Prop :=
  namedSource files path = .ok (k.alone text)

def Key.fileText (k : Key) (text : String) : String :=
  "[" ++ k.table ++ "]\n" ++ line k.name (some text)

theorem Key.bareKey_keys (k : Key) : ∀ key ∈ k.keys, Toml.BareKey key := by
  have hall : ∀ k ∈ all, ∀ key ∈ k.keys, key ≠ "" ∧ key.toList.all Toml.isBareKeyChar = true := by
    decide
  intro key hkey
  obtain ⟨hne, hchars⟩ := hall k k.mem_all key hkey
  exact Toml.bareKey_of_all hne hchars

theorem Key.entries?_fileText (k : Key) (text : String) :
    Format.toml.entries? (k.fileText text) = some (k.alone text) := by
  have htable : Toml.BareKey k.table := k.bareKey_keys _ (by simp [keys])
  have hname : Toml.BareKey k.name := k.bareKey_keys _ (by simp [keys])
  have htext : (k.fileText text).toList = '[' :: (k.table.toList ++ ']' :: '\n' ::
      (Toml.keyLines [(k.name, some text)] ++ [])) := by
    simp [fileText, Toml.keyLines]
  have hreads := Toml.reads_section htable {} (by simp) [(k.name, some text)]
    (by simpa using hname) (by simp) []
  rw [← htext] at hreads
  have hread : Toml.table? (k.fileText text) = some (k.alone text) := by
    rw [Toml.table?_of_reads hreads]
    simp only [List.nil_append, Toml.settings, Toml.Item.setting, Toml.settings_givenItems]
    rfl
  simp only [Format.entries?, htext]
  exact hread

/-- Every text can be given to a setting by a file. -/
theorem Key.givenBy_of_fileText {k : Key} {files : Files} {path text : String}
    (hfile : files.isFile path = true) (hremains : files.readRemains path = .ok (k.fileText text))
    (hextension : Path.lastExtension? path = some "toml") : k.GivenBy files path text :=
  namedSource_of_entries? hfile hremains hextension (k.entries?_fileText text)

theorem filesTable_of_givenBy {s : Surroundings} {k : Key} {path text : String}
    (h : k.GivenBy s.files path text) :
    filesTable s (some path) = (filesTable s none).map (k.filled (.text text)) := by
  have hnamed : namedSource s.files path = .ok (k.alone text) := h
  unfold filesTable
  cases lowerSources s with
  | error e => rfl
  | ok lower =>
    simp only [bind, Except.bind, pure, Except.pure, Except.map, hnamed, k.layer_alone]
    rfl

section Load

variable {s : Surroundings} {k : Key}

theorem load_variable_eq_ok_iff {before after : List (String × String)}
    (h : ∀ entry ∈ before ++ after, k.spares entry.1 = true) (v : String) (named : Option String)
    (loaded : Settings) :
    load { s with environment := before ++ (k.variableName, v) :: after } named = .ok loaded ↔
      ∃ below, filesTable s named = .ok below ∧ ofTable (k.filled (variableValue v)
        (layer below (variableSource (before ++ after)))) = .ok loaded := by
  rw [load_eq_ok_iff]
  refine exists_congr fun below => and_congr_right fun _ => ?_
  exact ofTable_eq_ok_iff_of_agree (k.agree_layer_variable h v below) loaded

theorem load_givenBy_eq_ok_iff {environment : List (String × String)}
    (h : ∀ entry ∈ environment, k.spares entry.1 = true) {path text : String}
    (hfile : k.GivenBy s.files path text) (loaded : Settings) :
    load { s with environment } (some path) = .ok loaded ↔
      ∃ below, filesTable s none = .ok below ∧ ofTable (k.filled (.text text)
        (layer below (variableSource environment))) = .ok loaded := by
  have hagree := fun below => ofTable_eq_ok_iff_of_agree
    (k.agree_layer_filled h (.text text) below) loaded
  have hfiles : filesTable { s with environment } (some path) =
      (filesTable s none).map (k.filled (.text text)) := filesTable_of_givenBy hfile
  rw [load_eq_ok_iff, hfiles]
  cases filesTable s none with
  | error e => simp [Except.map]
  | ok below => simpa [Except.map] using hagree below

end Load

/-- A variable gives its setting what its text reads as, over all files and among variables that
speak of other things, and never keeps settings from being loaded. A named file that gives the
setting a text, and says nothing else, gives it exactly this text. So the two load the same settings
if the text of the file is what the variable reads as, and different ones if not: a variable is
taken as literally as a file exactly if reading leaves its text alone. -/
theorem load_variable (s : Surroundings) (k : Key) (v : String)
    (before after : List (String × String))
    (hothers : ∀ entry ∈ before ++ after, k.spares entry.1 = true) :
    let unset : Surroundings := { s with environment := before ++ after }
    let set : Surroundings := { s with environment := before ++ (k.variableName, v) :: after }
    (∀ named, (∀ loaded, load set named = .ok loaded → k.value loaded = some (reading v)) ∧
      ((∃ lower, load unset named = .ok lower) → ∃ loaded, load set named = .ok loaded)) ∧
    ∀ path text, k.GivenBy s.files path text →
      (∀ loaded, load unset (some path) = .ok loaded → k.value loaded = some text) ∧
      ((∃ lower, load unset none = .ok lower) → ∃ loaded, load unset (some path) = .ok loaded) ∧
      (text = reading v →
        ∀ loaded, load set none = .ok loaded ↔ load unset (some path) = .ok loaded) ∧
      (text ≠ reading v →
        ∀ loaded, load set none = .ok loaded → load unset (some path) ≠ .ok loaded) := by
  intro unset set
  have hreading : k.meaning (some (variableValue v)) = .ok (some (reading v)) :=
    k.meaning_of_asText (asText_variableValue v)
  have htext : ∀ text, k.meaning (some (.text text)) = .ok (some text) :=
    fun text => k.meaning_of_asText rfl
  have hset := fun named loaded => load_variable_eq_ok_iff (s := s) hothers v named loaded
  have hlower : ∀ named, (∃ lower, load unset named = .ok lower) → ∃ below lower,
      filesTable s named = .ok below ∧
        ofTable (layer below (variableSource (before ++ after))) = .ok lower := by
    rintro named ⟨lower, hload⟩
    obtain ⟨below, hbelow, hok⟩ := (load_eq_ok_iff unset named lower).mp hload
    exact ⟨below, lower, hbelow, hok⟩
  refine ⟨fun named => ⟨?_, ?_⟩, fun path text hfile => ?_⟩
  · intro loaded hload
    obtain ⟨below, -, hok⟩ := (hset named loaded).mp hload
    exact k.value_of_ofTable_filled hreading hok
  · intro h
    obtain ⟨below, lower, hbelow, hok⟩ := hlower named h
    obtain ⟨loaded, hloaded⟩ := k.exists_ofTable_filled hreading hok
    exact ⟨loaded, (hset named loaded).mpr ⟨below, hbelow, hloaded⟩⟩
  · have hgiven := fun loaded => load_givenBy_eq_ok_iff (s := s) hothers hfile loaded
    have hvalue : ∀ loaded, load unset (some path) = .ok loaded → k.value loaded = some text := by
      intro loaded hload
      obtain ⟨below, -, hok⟩ := (hgiven loaded).mp hload
      exact k.value_of_ofTable_filled (htext text) hok
    refine ⟨hvalue, ?_, ?_, ?_⟩
    · intro h
      obtain ⟨below, lower, hbelow, hok⟩ := hlower none h
      obtain ⟨loaded, hloaded⟩ := k.exists_ofTable_filled (htext text) hok
      exact ⟨loaded, (hgiven loaded).mpr ⟨below, hbelow, hloaded⟩⟩
    · rintro rfl loaded
      rw [hset none loaded, hgiven loaded]
      refine exists_congr fun below => and_congr_right fun _ => ?_
      exact k.ofTable_filled (hreading.trans (htext _).symm) _ loaded
    · intro hne loaded hload hload'
      obtain ⟨below, -, hok⟩ := (hset none loaded).mp hload
      have hboth := (hvalue loaded hload').symm.trans (k.value_of_ofTable_filled hreading hok)
      exact hne (Option.some.inj hboth)

/-- A directory of models with a number for a name, in a variable and in a file over the others. -/
theorem load_variable_directory :
    let k : Key := .optional .modelsDirectory
    let s : Surroundings := {
      files := {
        root := .directory [("work", .directory [
          ("validation.toml", .file "[loader]\nmodels_dir = \"models\"\n"),
          ("over.toml", .file (k.fileText "007"))])]
        here := "/work" }
      userDirectory := "/work/xdg" }
    let path : String × String := ("PATH", "/bin")
    let level : String × String := (Key.filter.variableName, "debug")
    let unset : Surroundings := { s with environment := [path, level] }
    let set : Surroundings := { s with environment := [path, (k.variableName, "007"), level] }
    (∀ entry ∈ [path, level], k.spares entry.1 = true) ∧ k.GivenBy s.files "over.toml" "007" ∧
      ∃ loaded loaded', load set none = .ok loaded ∧ loaded.modelsDirectory = some "7" ∧
        load unset (some "over.toml") = .ok loaded' ∧ loaded'.modelsDirectory = some "007" := by
  intro k s path level unset set
  have hspares : ∀ entry ∈ [path, level], k.spares entry.1 = true := by
    simp only [List.forall_mem_cons]
    exact ⟨by decide +kernel, k.spares_variableName (by simp [k]), by simp⟩
  have hgiven : k.GivenBy s.files "over.toml" "007" :=
    Key.givenBy_of_fileText (by decide +kernel) (by decide +kernel) (by decide)
  obtain ⟨lower, hlower⟩ : ∃ lower, load unset none = .ok lower :=
    exists_of_isOk (by decide +kernel)
  obtain ⟨hvariable, hfile⟩ := load_variable s k "007" [path] [level] hspares
  obtain ⟨hvalue, hloads⟩ := hvariable none
  obtain ⟨hvalue', hloads', -⟩ := hfile "over.toml" "007" hgiven
  obtain ⟨loaded, hload⟩ := hloads ⟨lower, hlower⟩
  obtain ⟨loaded', hload'⟩ := hloads' ⟨lower, hlower⟩
  have hreading : reading "007" = "7" := by decide +kernel
  exact ⟨hspares, hgiven, loaded, loaded', hload, (hvalue loaded hload).trans (by rw [hreading]),
    hload', hvalue' loaded' hload'⟩

/-- A variable is not always taken as it stands. -/
theorem load_variable_rewrites :
    let s : Surroundings := {
      files := {
        root := .directory [("work", .directory [
          ("over.toml", .file "[loader]\nmodels_dir = \"007\"\n")])]
        here := "/work" }
      userDirectory := "/work/xdg" }
    (∃ loaded, load { s with environment := [("VALIDATION__LOADER__MODELS_DIR", "007")] } none =
        .ok loaded ∧ loaded.modelsDirectory = some "7") ∧
      ∃ loaded, load s (some "over.toml") = .ok loaded ∧ loaded.modelsDirectory = some "007" := by
  intro s
  obtain ⟨loaded, hload, hdirectory⟩ :
      ∃ loaded, load { s with environment := [("VALIDATION__LOADER__MODELS_DIR", "007")] } none =
        .ok loaded ∧ (loaded.modelsDirectory == some "7") = true :=
    exists_of_any (by decide +kernel)
  obtain ⟨loaded', hload', hdirectory'⟩ : ∃ loaded, load s (some "over.toml") = .ok loaded ∧
      (loaded.modelsDirectory == some "007") = true :=
    exists_of_any (by decide +kernel)
  exact ⟨⟨loaded, hload, beq_iff_eq.mp hdirectory⟩, loaded', hload', beq_iff_eq.mp hdirectory'⟩

end ModelForm.Settings
