import Mathlib.Data.List.Find
import ModelForm.Proofs.Layers
import ModelForm.Proofs.Results
import ModelForm.Proofs.Saves
import ModelForm.Settings.Source

/-!
The sources of settings: files at known places, the file of the user and a named file, and then the
variables. What the files say depends only on what stands at the paths where they are looked for.
-/

namespace ModelForm.Settings

open Setting (Table layer)

/-- The sources below a named file, the lowest first: the known places, and the file of the user. -/
def lowerSources (s : Surroundings) : Except SettingsError (List (List (String × Setting))) := do
  let common ← places.mapM (fileSource s.files)
  let user ← if s.files.contains (userFile s.userDirectory)
    then fileSource s.files (userFile s.userDirectory) else pure []
  return common ++ [user]

theorem sources_eq (s : Surroundings) (named : Option String) : sources s named = do
    let lower ← lowerSources s
    let explicit ← match named with
      | some path => namedSource s.files path
      | none => pure []
    return lower ++ [explicit, variableSource s.environment] := by
  simp only [sources, lowerSources]
  by_cases huser : s.files.contains (userFile s.userDirectory) = true <;>
    cases named <;> simp [huser]

/-- The paths at which there may be the file that a path names: others are looked at only if there
is no file at the path itself. -/
def lookedAt (files : Files) (path : String) : List String :=
  if files.isFile path then [path] else path :: (extended path).map Prod.fst

theorem mem_lookedAt (files : Files) (path : String) : path ∈ lookedAt files path := by
  unfold lookedAt
  split <;> simp

theorem findFile_congr {files files' : Files} {path : String}
    (h : ∀ candidate ∈ lookedAt files path, files.SameFile files' candidate) :
    findFile files' path = findFile files path := by
  unfold findFile
  rw [(h path (mem_lookedAt files path)).isFile]
  split
  · rfl
  · rename_i hfile
    have hfind : ((extended path).find? fun candidate => files'.isFile candidate.1) =
        (extended path).find? fun candidate => files.isFile candidate.1 := by
      apply List.find?_congr
      intro candidate hcandidate
      refine (h candidate.1 ?_).isFile
      rw [lookedAt, if_neg hfile]
      exact List.mem_cons_of_mem _ (List.mem_map_of_mem hcandidate)
    rw [hfind]

theorem mem_of_findFile {files : Files} {path found : String} {format : Format}
    (h : findFile files path = .ok (found, format)) : found ∈ lookedAt files path := by
  unfold findFile at h
  split at h
  · split at h
    · obtain ⟨rfl, -⟩ := Prod.mk.inj (Except.ok.inj h)
      exact mem_lookedAt files path
    · simp at h
  · rename_i hfile
    split at h
    · rename_i hfind
      obtain rfl := Except.ok.inj h
      rw [lookedAt, if_neg hfile]
      exact List.mem_cons_of_mem _ (List.mem_map_of_mem (List.mem_of_find?_eq_some hfind))
    · simp at h

theorem openFile_congr {files files' : Files} {path : String}
    (h : ∀ candidate ∈ lookedAt files path, files.SameFile files' candidate) :
    openFile files' path = openFile files path := by
  unfold openFile
  rw [findFile_congr h]
  cases hfind : findFile files path with
  | error e => rfl
  | ok result =>
    obtain ⟨found, format⟩ := result
    have hremains := (h found (mem_of_findFile hfind)).remains
    simp only [bind, Except.bind]
    generalize files.readRemains found = before at hremains
    generalize files'.readRemains found = after at hremains
    cases before <;> cases after <;> simp_all [Except.toOption]

def lowerPaths (s : Surroundings) : List String := places ++ [userFile s.userDirectory]

/-- A file that is saved at no place where the lower sources are looked for does not change them. -/
theorem lowerSources_congr {s : Surroundings} {files : Files}
    (h : ∀ path ∈ lowerPaths s, ∀ candidate ∈ lookedAt s.files path,
      s.files.SameFile files candidate) :
    lowerSources { s with files } = lowerSources s := by
  have hsource : ∀ path ∈ lowerPaths s, fileSource files path = fileSource s.files path := by
    intro path hpath
    rw [fileSource, fileSource, openFile_congr (h path hpath)]
  have huser : userFile s.userDirectory ∈ lowerPaths s := by simp [lowerPaths]
  have hcontains := (h _ huser _ (mem_lookedAt s.files _)).contains
  have hplaces : places.mapM (fileSource files) = places.mapM (fileSource s.files) :=
    mapM_congr fun path hpath => hsource path (by simp [lowerPaths, hpath])
  simp only [lowerSources, hplaces, hcontains, hsource _ huser]

/-- A file of the format that its path tells is read as what its text says. -/
theorem namedSource_of_entries? {files : Files} {path text : String}
    {entries : List (String × Setting)} (hfile : files.isFile path = true)
    (hremains : files.readRemains path = .ok text)
    (hextension : Path.lastExtension? path = some "toml")
    (hentries : Format.toml.entries? text = some entries) :
    namedSource files path = .ok entries := by
  have hformat : Format.ofExtension? "toml" = some .toml := by decide
  have hfound : findFile files path = .ok (path, .toml) := by
    simp only [findFile, hfile, hextension, Option.bind_some, hformat, if_true]
  have hopened : openFile files path = .ok ⟨path, .toml, text⟩ := by
    simp only [openFile, hfound, bind, Except.bind, hremains]
    rfl
  simp only [namedSource, hopened, bind, Except.bind, Found.entries, hentries]

theorem variableSource_eq_nil {environment : List (String × String)}
    (h : ∀ entry ∈ environment, variableKey? entry.1 = none) : variableSource environment = [] := by
  refine List.filterMap_eq_nil_iff.mpr ?_
  intro entry hentry
  simp [h entry hentry]

def filesTable (s : Surroundings) (named : Option String) : Except SettingsError Table := do
  let lower ← lowerSources s
  let explicit ← match named with
    | some path => namedSource s.files path
    | none => pure []
  return layer (lower.foldl layer []) explicit

theorem load_eq (s : Surroundings) (named : Option String) : load s named =
    (filesTable s named).bind fun below =>
      ofTable (layer below (variableSource s.environment)) := by
  rw [load, sources_eq, filesTable]
  cases lowerSources s with
  | error e => rfl
  | ok lower =>
    cases named with
    | none => simp [bind, Except.bind, pure, Except.pure]
    | some path =>
      simp only [bind, Except.bind, pure, Except.pure]
      cases namedSource s.files path <;> simp

theorem load_eq_ok_iff (s : Surroundings) (named : Option String) (loaded : Settings) :
    load s named = .ok loaded ↔ ∃ below, filesTable s named = .ok below ∧
      ofTable (layer below (variableSource s.environment)) = .ok loaded := by
  rw [load_eq]
  cases filesTable s named with
  | error e => simp [Except.bind]
  | ok below => simp [Except.bind]

end ModelForm.Settings
