import ModelForm.Proofs.SettingsSources
import ModelForm.Proofs.WrittenSettings

/-!
Saved settings that are loaded again. What the settings say is in the file, and comes from there;
what they leave open comes from the last of the files below that says it.
-/

namespace ModelForm.Settings

open Setting (Table lookup opens lastDefinition layer)

/-- The saved file is read as what was written. -/
theorem namedSource_saved {files files' : Files} {path : String} {c : Settings}
    (h : files.Saved files' path c.text) (hextension : Path.lastExtension? path = some "toml") :
    namedSource files' path = .ok c.written := by
  have hfile : files'.isFile path = true := by
    simp only [Files.isFile, h.find]
    rfl
  have hremains : files'.readRemains path = .ok c.text := by
    simp only [Files.readRemains, h.find]
    rfl
  exact namedSource_of_entries? hfile hremains hextension c.entries?_text

/-- Settings that are saved at a place of their own are loaded from there, if the files below can be
loaded. What they have a value for has this value. What they leave open has the value that the last
file below gives, if these files have their sections as tables. The last part holds of all tables
of a source: it hides nothing that it does not name itself. -/
theorem load_save (s : Surroundings) (c lower : Settings) (path : String) (files : Files)
    (hsave : c.save s.files path = .ok files) (hextension : Path.lastExtension? path = some "toml")
    (hpath : ∀ lowerPath ∈ lowerPaths s, ∀ candidate ∈ lookedAt s.files lowerPath,
      Path.settled (s.files.partsOf candidate) ≠ Path.settled (s.files.partsOf path))
    (henvironment : ∀ entry ∈ s.environment, variableKey? entry.1 = none)
    (hlower : load s none = .ok lower) :
    (∃ loaded layers, load { s with files } (some path) = .ok loaded ∧
      lowerSources s = .ok layers ∧ loaded.messages.generic = c.messages.generic ∧
      loaded.filter = c.filter ∧
      ∀ o : Optional, (∀ text, o.value c = some text → o.value loaded = some text) ∧
        (o.value c = none → (∀ source ∈ layers, opens o.keys source = true) →
          o.value loaded = lastDefinition o.keys layers)) ∧
    ∀ (keys : List String) (source below : Table), opens keys source = true →
      lookup keys (some (.table (layer [] source))) = none →
      lookup keys (some (.table (layer below source))) = lookup keys (some (.table below)) := by
  have hvariables := variableSource_eq_nil henvironment
  have hsaved := Files.saved_of_save hsave hextension (by decide)
  have hsame : lowerSources { s with files } = lowerSources s :=
    lowerSources_congr fun lowerPath hlowerPath candidate hcandidate =>
      hsaved.sameFile (hpath lowerPath hlowerPath candidate hcandidate)
  obtain ⟨all, hall, htable⟩ := exists_of_bind_eq_ok hlower
  rw [sources_eq] at hall
  obtain ⟨layers, hlayers, hall⟩ := exists_of_bind_eq_ok hall
  obtain rfl := Except.ok.inj hall
  rw [List.foldl_append, hvariables] at htable
  obtain ⟨loaded, hloaded, hgeneric, hfilter, ho⟩ := ofTable_layer_written c lower htable
  have hload : load { s with files } (some path) = .ok loaded := by
    rw [load, sources_eq, hsame, hlayers]
    simp only [bind, Except.bind, namedSource_saved hsaved hextension, hvariables, pure,
      Except.pure, List.foldl_append]
    exact hloaded
  refine ⟨⟨loaded, layers, hload, hlayers, hgeneric, hfilter, fun o => ⟨(ho o).1, ?_⟩⟩, ?_⟩
  · intro hnone hopens
    rw [(ho o).2 hnone (Setting.isSection_layers hopens)]
    exact o.value_eq_lastDefinition htable hopens
  · exact fun keys source below hopens hnone =>
      Setting.lookup_layer_of_eq_none hopens hnone below

/-- The saved number stands over the one of the file below, whose text is inherited. -/
theorem load_save_inherited :
    let s : Surroundings := {
      files := {
        root := .directory [("work", .directory [
          ("validation.toml", .file "[messages]\nstring = \"x\"\nnumber = \"y\"\n")])]
        here := "/work" }
      userDirectory := "/work/xdg" }
    let c : Settings := { messages := { number := some "n" } }
    ∃ files loaded, c.save s.files "base.toml" = .ok files ∧
      load { s with files } (some "base.toml") = .ok loaded ∧
      loaded.messages.string = some "x" ∧ loaded.messages.number = some "n" := by
  intro s c
  obtain ⟨files, hsave⟩ : ∃ files, c.save s.files "base.toml" = .ok files :=
    exists_of_isOk (by decide +kernel)
  obtain ⟨lower, hlower⟩ : ∃ lower, load s none = .ok lower := exists_of_isOk (by decide +kernel)
  obtain ⟨layers, hlayers, hcheck⟩ : ∃ layers, lowerSources s = .ok layers ∧
      (layers.all (opens Optional.string.keys) &&
        lastDefinition Optional.string.keys layers == some "x") = true :=
    exists_of_any (by decide +kernel)
  have hpath : ∀ lowerPath ∈ lowerPaths s, ∀ candidate ∈ lookedAt s.files lowerPath,
      Path.settled (s.files.partsOf candidate) ≠ Path.settled (s.files.partsOf "base.toml") := by
    decide +kernel
  obtain ⟨⟨loaded, layers', hload, hlayers', -, -, ho⟩, -⟩ :=
    load_save s c lower "base.toml" files hsave (by decide) hpath (by simp [s]) hlower
  obtain rfl : layers = layers' := Except.ok.inj (hlayers.symm.trans hlayers')
  simp only [Bool.and_eq_true, List.all_eq_true, beq_iff_eq] at hcheck
  refine ⟨files, loaded, hsave, hload, ?_, (ho .number).1 "n" rfl⟩
  exact ((ho .string).2 rfl hcheck.1).trans hcheck.2

/-- A list in the place of a section hides the tables below it, and is hidden by a table. What the
files below say of a setting is then lost over them, as the list says it and as the table does. -/
theorem load_save_hidden :
    let s : Surroundings := {
      files := {
        root := .directory [("work", .directory [
          ("validation.toml", .file "[messages]\nstring = \"x\"\n"),
          (".validation.toml", .file "messages = [\"a\"]\n")])]
        here := "/work" }
      userDirectory := "/work/xdg" }
    let c : Settings := { messages := { generic := "g" } }
    (∃ layers, lowerSources s = .ok layers ∧
        lastDefinition Optional.string.keys layers = some "x") ∧
      (∃ lower, load s none = .ok lower ∧ lower.messages.string = some "a") ∧
      c.messages.string = none ∧
      ∃ files loaded, c.save s.files "base.toml" = .ok files ∧
        load { s with files } (some "base.toml") = .ok loaded ∧ loaded.messages.string = none := by
  intro s c
  obtain ⟨layers, hlayers, hlast⟩ : ∃ layers, lowerSources s = .ok layers ∧
      (lastDefinition Optional.string.keys layers == some "x") = true :=
    exists_of_any (by decide +kernel)
  obtain ⟨lower, hlower, hlist⟩ : ∃ lower, load s none = .ok lower ∧
      (lower.messages.string == some "a") = true :=
    exists_of_any (by decide +kernel)
  obtain ⟨files, hsave, hload⟩ : ∃ files, c.save s.files "base.toml" = .ok files ∧
      (load { s with files } (some "base.toml")).toOption.any
        (fun loaded => loaded.messages.string == none) = true :=
    exists_of_any (by decide +kernel)
  obtain ⟨loaded, hloaded, hstring⟩ := exists_of_any hload
  exact ⟨⟨layers, hlayers, beq_iff_eq.mp hlast⟩, ⟨lower, hlower, beq_iff_eq.mp hlist⟩, rfl,
    files, loaded, hsave, hloaded, beq_iff_eq.mp hstring⟩

end ModelForm.Settings
