import Mathlib.Data.List.Nodup
import ModelForm.Proofs.Layers
import ModelForm.Proofs.Results

/-!
Settings one by one. A table holds settings if each of them can be read in its place, so that what
sources do to the whole is known from what they do to the place of each setting.
-/

namespace ModelForm.Settings

open Setting (asText? asTextOr member? Table IsSection opens lastDefinition layer)

/-- The settings that may have no value. -/
inductive Optional where
  | string
  | number
  | boolean
  | enumeration
  | modelsDirectory

namespace Optional

def table : Optional → String
  | .modelsDirectory => "loader"
  | _ => "messages"

def key : Optional → String
  | .string => "string"
  | .number => "number"
  | .boolean => "boolean"
  | .enumeration => "enumeration"
  | .modelsDirectory => "models_dir"

def position : Optional → Nat
  | .number => 1
  | .boolean => 2
  | .enumeration => 3
  | _ => 0

def keys (o : Optional) : List String := [o.table, o.key]

def value : Optional → Settings → Option String
  | .string, s => s.messages.string
  | .number, s => s.messages.number
  | .boolean, s => s.messages.boolean
  | .enumeration, s => s.messages.enumeration
  | .modelsDirectory, s => s.modelsDirectory

def settings (values : Optional → Option String) (generic filter : String) : Settings where
  messages := {
    string := values .string
    number := values .number
    boolean := values .boolean
    enumeration := values .enumeration
    generic }
  modelsDirectory := values .modelsDirectory
  filter

theorem value_settings (values : Optional → Option String) (generic filter : String)
    (o : Optional) : o.value (settings values generic filter) = values o := by
  cases o <;> rfl

def read (o : Optional) (t : Table) : Except SettingsError (Option String) := do
  asText? (← member? o.key o.position (t.get? o.table))

end Optional

def readGeneric (t : Table) : Except SettingsError String := do
  asTextOr genericMessage (← member? "generic" 4 (t.get? "messages"))

def readFilter (t : Table) : Except SettingsError String := do
  asTextOr "info" (← member? "filter" 0 (t.get? "logging"))

theorem ofTable_eq (t : Table) : ofTable t = do
    return {
      messages := {
        string := ← Optional.string.read t
        number := ← Optional.number.read t
        boolean := ← Optional.boolean.read t
        enumeration := ← Optional.enumeration.read t
        generic := ← readGeneric t }
      modelsDirectory := ← Optional.modelsDirectory.read t
      filter := ← readFilter t } := by
  simp only [ofTable, readMessages, Optional.read, readGeneric, readFilter, bind_assoc, pure_bind]
  rfl

/-- A table holds settings if each of them can be read. -/
theorem ofTable_eq_ok_iff (t : Table) (s : Settings) : ofTable t = .ok s ↔
    (∀ o : Optional, o.read t = .ok (o.value s)) ∧ readGeneric t = .ok s.messages.generic ∧
      readFilter t = .ok s.filter := by
  rw [ofTable_eq]
  constructor
  · intro h
    obtain ⟨string, hstring, h⟩ := exists_of_bind_eq_ok h
    obtain ⟨number, hnumber, h⟩ := exists_of_bind_eq_ok h
    obtain ⟨boolean, hboolean, h⟩ := exists_of_bind_eq_ok h
    obtain ⟨enumeration, henumeration, h⟩ := exists_of_bind_eq_ok h
    obtain ⟨generic, hgeneric, h⟩ := exists_of_bind_eq_ok h
    obtain ⟨directory, hdirectory, h⟩ := exists_of_bind_eq_ok h
    obtain ⟨filter, hfilter, h⟩ := exists_of_bind_eq_ok h
    obtain rfl := Except.ok.inj h
    refine ⟨fun o => ?_, hgeneric, hfilter⟩
    cases o <;> assumption
  · rintro ⟨ho, hgeneric, hfilter⟩
    rw [ho .string, ho .number, ho .boolean, ho .enumeration, ho .modelsDirectory, hgeneric,
      hfilter]
    rfl

/-- A setting that sources give in tables only has the value that the last of them says. -/
theorem Optional.value_eq_lastDefinition (o : Optional) {sources : List (List (String × Setting))}
    {s : Settings} (h : ofTable (sources.foldl layer []) = .ok s)
    (hopens : ∀ source ∈ sources, opens o.keys source = true) :
    o.value s = lastDefinition o.keys sources := by
  have hread := ((ofTable_eq_ok_iff _ s).mp h).1 o
  have hsection : IsSection (Table.get? (sources.foldl layer []) o.table) :=
    Setting.isSection_layers hopens
  rw [Optional.read, hsection.member?] at hread
  exact Setting.eq_lastDefinition o.keys sources hopens hread

/-! All settings alike. -/

/-- The settings: those that may have no value, and the two that always have one. -/
inductive Key where
  | optional (o : Optional)
  | generic
  | filter

namespace Key

def table : Key → String
  | .optional o => o.table
  | .generic => "messages"
  | .filter => "logging"

def name : Key → String
  | .optional o => o.key
  | .generic => "generic"
  | .filter => "filter"

def position : Key → Nat
  | .optional o => o.position
  | .generic => 4
  | .filter => 0

def keys (k : Key) : List String := [k.table, k.name]

def value : Key → Settings → Option String
  | .optional o, s => o.value s
  | .generic, s => some s.messages.generic
  | .filter, s => some s.filter

/-- The value of the setting, given what is found in its place. -/
def meaning : Key → Option Setting → Except SettingsError (Option String)
  | .optional _, found => asText? found
  | .generic, found => (asTextOr genericMessage found).map some
  | .filter, found => (asTextOr "info" found).map some

def read (k : Key) (t : Table) : Except SettingsError (Option String) := do
  k.meaning (← member? k.name k.position (t.get? k.table))

theorem read_eq (k : Key) {t : Table} {found : Option Setting}
    (h : member? k.name k.position (t.get? k.table) = .ok found) : k.read t = k.meaning found := by
  rw [read, h]
  rfl

def all : List Key :=
  [.optional .string, .optional .number, .optional .boolean, .optional .enumeration, .generic,
    .optional .modelsDirectory, .filter]

theorem mem_all (k : Key) : k ∈ all := by
  rcases k with (_ | _ | _ | _ | _) | _ | _ <;> simp [all]

theorem name_injective {k k' : Key} (h : k.name = k'.name) : k = k' := by
  have hnames : (all.map name).Nodup := by decide
  exact List.inj_on_of_nodup_map hnames k.mem_all k'.mem_all h

theorem read_generic (t : Table) : generic.read t = (readGeneric t).map some := by
  show (member? "generic" 4 (t.get? "messages")).bind generic.meaning =
    ((member? "generic" 4 (t.get? "messages")).bind (asTextOr genericMessage)).map some
  cases member? "generic" 4 (t.get? "messages") <;> rfl

theorem read_filter (t : Table) : filter.read t = (readFilter t).map some := by
  show (member? "filter" 0 (t.get? "logging")).bind filter.meaning =
    ((member? "filter" 0 (t.get? "logging")).bind (asTextOr "info")).map some
  cases member? "filter" 0 (t.get? "logging") <;> rfl

end Key

/-- A table holds settings if each of them can be read. -/
theorem ofTable_eq_ok_iff_forall (t : Table) (s : Settings) :
    ofTable t = .ok s ↔ ∀ k : Key, k.read t = .ok (k.value s) := by
  have hmap : ∀ (x : Except SettingsError String) (text : String),
      x.map some = .ok (some text) ↔ x = .ok text := by
    intro x text
    cases x <;> simp [Except.map]
  rw [ofTable_eq_ok_iff]
  constructor
  · rintro ⟨ho, hgeneric, hfilter⟩ k
    cases k with
    | optional o => exact ho o
    | generic => rw [Key.read_generic, hgeneric]; rfl
    | filter => rw [Key.read_filter, hfilter]; rfl
  · intro h
    refine ⟨fun o => h (.optional o), ?_, ?_⟩
    · exact (hmap _ _).mp ((Key.read_generic t).symm.trans (h .generic))
    · exact (hmap _ _).mp ((Key.read_filter t).symm.trans (h .filter))

theorem exists_ofTable {t : Table} (h : ∀ k : Key, ∃ x, k.read t = .ok x) :
    ∃ s, ofTable t = .ok s := by
  choose x hx using h
  have hsome : ∀ (k : Key) (y : Except SettingsError String), k.read t = y.map some →
      ∃ text, x k = some text := by
    intro k y hy
    rw [hx] at hy
    cases y with
    | error e => simp [Except.map] at hy
    | ok text => exact ⟨text, Except.ok.inj hy⟩
  obtain ⟨generic, hgeneric⟩ := hsome .generic _ (Key.read_generic t)
  obtain ⟨filter, hfilter⟩ := hsome .filter _ (Key.read_filter t)
  let values (o : Optional) : Option String := x (.optional o)
  refine ⟨Optional.settings values generic filter,
    (ofTable_eq_ok_iff_forall t _).mpr fun k => ?_⟩
  rw [hx]
  cases k with
  | optional o => exact congrArg Except.ok (Optional.value_settings values generic filter o).symm
  | generic => exact congrArg Except.ok hgeneric
  | filter => exact congrArg Except.ok hfilter

end ModelForm.Settings
