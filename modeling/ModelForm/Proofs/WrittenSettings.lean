import ModelForm.Proofs.SettingValues
import ModelForm.Proofs.SettingsFiles

/-!
Written settings over what is below of them. The keys of a written section are in lower case and
stand once, so a setting with a value has this value over any table, and one without it has what is
found below.
-/

namespace ModelForm

namespace Setting

theorem get?_ontoAll_of_notMem {new : Table} {key : String}
    (h : ∀ entry ∈ new, Unicode.lowercase entry.1 ≠ key) (below : Table) :
    Table.get? (ontoAll new below) key = below.get? key := by
  induction new generalizing below with
  | nil => rfl
  | cons entry new ih =>
    obtain ⟨hentry, hnew⟩ := List.forall_mem_cons.mp h
    rw [ontoAll, ih hnew, Table.get?_put_of_ne _ _ (Ne.symm hentry)]

theorem get?_ontoAll_of_mem {new : Table}
    (hlower : ∀ entry ∈ new, Unicode.lowercase entry.1 = entry.1)
    (hnodup : (new.map Prod.fst).Nodup) {key text : String} (h : (key, .text text) ∈ new)
    (below : Table) : Table.get? (ontoAll new below) key = some (.text text) := by
  induction new generalizing below with
  | nil => simp at h
  | cons entry new ih =>
    obtain ⟨hentry, hrest⟩ := List.forall_mem_cons.mp hlower
    obtain ⟨hfresh, hnodup⟩ := List.nodup_cons.mp hnodup
    rw [ontoAll]
    rcases List.mem_cons.mp h with rfl | h
    · have hother : ∀ entry ∈ new, Unicode.lowercase entry.1 ≠ key := by
        rintro entry he rfl
        exact hfresh (List.mem_map.mpr ⟨entry, he, (hrest entry he).symm⟩)
      rw [get?_ontoAll_of_notMem hother, hentry, Table.get?_put_self]
      rfl
    · exact ih hrest hnodup h _

end Setting

namespace Settings

open Setting (asText? asTextOr member? Table IsSection layer)

theorem mem_given {pairs : List (String × Option String)} {key text : String}
    (h : (key, some text) ∈ pairs) : (key, .text text) ∈ Toml.given pairs :=
  List.mem_filterMap.mpr ⟨(key, some text), h, rfl⟩

theorem exists_mem_of_mem_given {pairs : List (String × Option String)} {entry : String × Setting}
    (h : entry ∈ Toml.given pairs) : ∃ text, (entry.1, some text) ∈ pairs := by
  obtain ⟨⟨key, value⟩, hpair, hentry⟩ := List.mem_filterMap.mp h
  obtain ⟨text, rfl, rfl⟩ := Option.map_eq_some_iff.mp hentry
  exact ⟨text, hpair⟩

theorem map_fst_given (pairs : List (String × Option String)) :
    ((Toml.given pairs).map Prod.fst).Sublist (pairs.map Prod.fst) := by
  induction pairs with
  | nil => exact .slnil
  | cons pair pairs ih =>
    obtain ⟨key, value⟩ := pair
    cases value with
    | none => exact .cons key ih
    | some text => exact .cons_cons key ih

structure Clean (pairs : List (String × Option String)) : Prop where
  lower : ∀ pair ∈ pairs, Unicode.lowercase pair.1 = pair.1
  nodup : (pairs.map Prod.fst).Nodup

section Section

variable {pairs : List (String × Option String)} {key : String}

theorem get?_given_of_some (h : Clean pairs) {text : String} (hmem : (key, some text) ∈ pairs)
    (below : Table) : Table.get? (Setting.ontoAll (Toml.given pairs) below) key =
      some (.text text) := by
  refine Setting.get?_ontoAll_of_mem ?_ (h.nodup.sublist (map_fst_given pairs)) (mem_given hmem)
    below
  intro entry he
  obtain ⟨text, hpair⟩ := exists_mem_of_mem_given he
  exact h.lower (entry.1, some text) hpair

theorem get?_given_of_none (h : Clean pairs) (hmem : (key, none) ∈ pairs) (below : Table) :
    Table.get? (Setting.ontoAll (Toml.given pairs) below) key = below.get? key := by
  refine Setting.get?_ontoAll_of_notMem ?_ below
  rintro entry he rfl
  obtain ⟨text, hpair⟩ := exists_mem_of_mem_given he
  rw [h.lower (entry.1, some text) hpair] at hmem
  have hsame := List.inj_on_of_nodup_map h.nodup hpair hmem rfl
  simp at hsame

/-- A written section gives the values that it has. What it has no value for comes from below, or
is hidden with a list that was there. -/
theorem member?_given (h : Clean pairs) {place : Nat} {value : Option String}
    (hmem : (key, value) ∈ pairs) {old found : Option Setting}
    (hfound : member? key place old = .ok found) :
    ∃ found', member? key place (some ((Setting.table (Toml.given pairs)).onto old)) = .ok found' ∧
      (∀ text, value = some text → found' = some (.text text)) ∧
      (value = none → found' = found ∨ found' = none ∧ ¬ IsSection old) := by
  have hget : ∀ below : Table,
      (∀ text, value = some text → Table.get? (Setting.ontoAll (Toml.given pairs) below) key =
        some (.text text)) ∧
      (value = none → Table.get? (Setting.ontoAll (Toml.given pairs) below) key =
        below.get? key) := by
    intro below
    constructor
    · rintro text rfl
      exact get?_given_of_some h hmem below
    · rintro rfl
      exact get?_given_of_none h hmem below
  cases old with
  | none =>
    obtain rfl := Except.ok.inj hfound
    exact ⟨_, rfl, (hget []).1, fun hnone => .inl ((hget []).2 hnone)⟩
  | some v =>
    cases v with
    | table below =>
      obtain rfl := Except.ok.inj hfound
      exact ⟨_, rfl, (hget below).1, fun hnone => .inl ((hget below).2 hnone)⟩
    | list items =>
      cases hgiven : Toml.given pairs with
      | nil =>
        refine ⟨found, hfound, ?_, fun _ => .inl rfl⟩
        rintro text rfl
        have hempty := mem_given hmem
        simp [hgiven] at hempty
      | cons entry rest =>
        have hlist : ¬ IsSection (some (Setting.list items)) := by simp [IsSection]
        rw [hgiven] at hget
        exact ⟨_, rfl, (hget []).1, fun hnone => .inr ⟨(hget []).2 hnone, hlist⟩⟩
    | _ => simp [member?] at hfound

end Section

theorem clean_messageKeys (c : Settings) : Clean c.messageKeys where
  lower := by
    simp only [messageKeys, List.forall_mem_cons, List.not_mem_nil, false_imp_iff, implies_true,
      and_true]
    decide +kernel
  nodup := by simp [messageKeys]

theorem clean_loaderKeys (c : Settings) : Clean c.loaderKeys where
  lower := by
    simp only [loaderKeys, List.forall_mem_singleton]
    decide +kernel
  nodup := by simp [loaderKeys]

theorem clean_loggingKeys (c : Settings) : Clean c.loggingKeys where
  lower := by
    simp only [loggingKeys, List.forall_mem_singleton]
    decide +kernel
  nodup := by simp [loggingKeys]

/-- Each section of what is written lies over the section of that name. -/
theorem get?_layer_written (c : Settings) (below : Table) :
    Table.get? (layer below c.written) "messages" =
        some ((Setting.table (Toml.given c.messageKeys)).onto (below.get? "messages")) ∧
      Table.get? (layer below c.written) "loader" =
        some ((Setting.table (Toml.given c.loaderKeys)).onto (below.get? "loader")) ∧
      Table.get? (layer below c.written) "logging" =
        some ((Setting.table (Toml.given c.loggingKeys)).onto (below.get? "logging")) := by
  have hmessages : Setting.stepsOf "messages" = [.key "messages"] ∧
      Unicode.lowercase "messages" = "messages" := by decide +kernel
  have hloader : Setting.stepsOf "loader" = [.key "loader"] ∧
      Unicode.lowercase "loader" = "loader" := by decide +kernel
  have hlogging : Setting.stepsOf "logging" = [.key "logging"] ∧
      Unicode.lowercase "logging" = "logging" := by decide +kernel
  simp only [written, layer, List.foldl_cons, List.foldl_nil, hmessages, hloader, hlogging,
    Setting.place, Setting.entries, Option.getD_some]
  simp [Table.get?_put_self, Table.get?_put_of_ne]

namespace Optional

def siblings : Optional → Settings → List (String × Option String)
  | .modelsDirectory, c => c.loaderKeys
  | _, c => c.messageKeys

theorem mem_siblings (o : Optional) (c : Settings) : (o.key, o.value c) ∈ o.siblings c := by
  cases o <;> simp [siblings, key, value, messageKeys, loaderKeys]

theorem clean_siblings (o : Optional) (c : Settings) : Clean (o.siblings c) := by
  cases o with
  | modelsDirectory => exact c.clean_loaderKeys
  | _ => exact c.clean_messageKeys

theorem get?_layer_written (o : Optional) (c : Settings) (below : Table) :
    Table.get? (layer below c.written) o.table =
      some ((Setting.table (Toml.given (o.siblings c))).onto (below.get? o.table)) := by
  obtain ⟨hmessages, hloader, -⟩ := c.get?_layer_written below
  cases o with
  | modelsDirectory => exact hloader
  | _ => exact hmessages

/-- Read over what is below, a setting that is written has its value. -/
theorem read_layer_written (o : Optional) (c : Settings) {below : Table} {inherited : Option String}
    (h : o.read below = .ok inherited) :
    ∃ t, o.read (layer below c.written) = .ok t ∧ (∀ text, o.value c = some text → t = some text) ∧
      (o.value c = none → IsSection (below.get? o.table) → t = inherited) := by
  obtain ⟨found, hfound, hread⟩ := exists_of_bind_eq_ok h
  obtain ⟨found', hfound', hsome, hnone⟩ :=
    member?_given (o.clean_siblings c) (o.mem_siblings c) hfound
  have hover : o.read (layer below c.written) = asText? found' := by
    rw [read, o.get?_layer_written, hfound']
    rfl
  cases hvalue : o.value c with
  | some text =>
    rw [hover, hsome text hvalue]
    exact ⟨some text, rfl, fun other hother => hother, fun hnone => by simp at hnone⟩
  | none =>
    rw [hover]
    rcases hnone hvalue with rfl | ⟨rfl, hclosed⟩
    · exact ⟨inherited, hread, fun text htext => by simp at htext, fun _ _ => rfl⟩
    · exact ⟨none, rfl, fun text htext => by simp at htext, fun _ hopen => absurd hopen hclosed⟩

end Optional

theorem readGeneric_layer_written (c : Settings) {below : Table} {generic : String}
    (h : readGeneric below = .ok generic) :
    readGeneric (layer below c.written) = .ok c.messages.generic := by
  obtain ⟨found, hfound, -⟩ := exists_of_bind_eq_ok h
  have hmem : ("generic", some c.messages.generic) ∈ c.messageKeys := by simp [messageKeys]
  obtain ⟨found', hfound', hsome, -⟩ := member?_given c.clean_messageKeys hmem hfound
  rw [readGeneric, (c.get?_layer_written below).1, hfound', hsome _ rfl]
  rfl

theorem readFilter_layer_written (c : Settings) {below : Table} {filter : String}
    (h : readFilter below = .ok filter) : readFilter (layer below c.written) = .ok c.filter := by
  obtain ⟨found, hfound, -⟩ := exists_of_bind_eq_ok h
  have hmem : ("filter", some c.filter) ∈ c.loggingKeys := by simp [loggingKeys]
  obtain ⟨found', hfound', hsome, -⟩ := member?_given c.clean_loggingKeys hmem hfound
  rw [readFilter, (c.get?_layer_written below).2.2, hfound', hsome _ rfl]
  rfl

/-- Over a table that holds settings, what is written gives settings again. -/
theorem ofTable_layer_written (c lower : Settings) {below : Table} (h : ofTable below = .ok lower) :
    ∃ loaded, ofTable (layer below c.written) = .ok loaded ∧
      loaded.messages.generic = c.messages.generic ∧ loaded.filter = c.filter ∧
      ∀ o : Optional, (∀ text, o.value c = some text → o.value loaded = some text) ∧
        (o.value c = none → IsSection (below.get? o.table) → o.value loaded = o.value lower) := by
  obtain ⟨ho, hgeneric, hfilter⟩ := (ofTable_eq_ok_iff below lower).mp h
  choose t hread hsome hnone using fun o : Optional => o.read_layer_written c (ho o)
  refine ⟨Optional.settings t c.messages.generic c.filter,
    (ofTable_eq_ok_iff _ _).mpr ⟨?_, ?_, ?_⟩, rfl, rfl, ?_⟩
  · intro o
    rw [Optional.value_settings, hread]
  · exact c.readGeneric_layer_written hgeneric
  · exact c.readFilter_layer_written hfilter
  · intro o
    rw [Optional.value_settings]
    exact ⟨hsome o, hnone o⟩

end Settings

end ModelForm
