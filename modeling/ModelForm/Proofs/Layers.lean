import Mathlib.Data.List.Induction
import ModelForm.Settings.Basic

/-!
Sources over other sources. For a value that is reached by keys, a source that gives nothing but
tables on the way decides alone: it leaves the value below as it is, or puts a scalar in its place,
or puts there something that cannot be read. Over any number of such sources the value that can be
read is the one that the last of them gives.
-/

namespace ModelForm.Setting

def lookup : List String → Option Setting → Option Setting
  | [], here => here
  | key :: rest, here => lookup rest (Table.get? (here.getD .absent).entries key)

theorem lookup_none (keys : List String) : lookup keys none = none := by
  induction keys with
  | nil => rfl
  | cons key rest ih => exact ih

/-- Text, truth values and numbers can be read as texts, and so can what says that there is none. -/
def isScalar : Setting → Bool
  | .list _ => false
  | .table _ => false
  | _ => true

theorem isScalar_iff (v : Setting) : v.isScalar = true ↔ ∃ t, asText? (some v) = .ok t := by
  cases v <;> simp [isScalar, asText?, asText, Except.map]

/-- There are tables only on the way to the end of some keys, where a value stands at the end of
some steps. Lists hide what lies below of them, and so do scalars. -/
def onlyTables : List String → List Step → Setting → Bool
  | [], _, _ => true
  | key :: rest, .key name :: steps, value =>
    Unicode.lowercase name != key || onlyTables rest steps value
  | _ :: _, .index _ :: _, _ => false
  | key :: rest, [], .table entries =>
    entries.all fun entry => Unicode.lowercase entry.1 != key || onlyTables rest [] entry.2
  | _ :: _, [], _ => false

def opens (keys : List String) (source : List (String × Setting)) : Bool :=
  source.all fun entry => onlyTables keys (stepsOf entry.1) entry.2

/-- What a source says by itself of the value at the end of some keys, if it can be read. -/
def definition? (keys : List String) (source : List (String × Setting)) : Option (Option String) :=
  (lookup keys (some (.table (layer [] source)))).bind fun v => (asText? (some v)).toOption

def lastDefinition (keys : List String) (sources : List (List (String × Setting))) :
    Option String :=
  (sources.reverse.findSome? (definition? keys)).join

/-! One value. -/

section Onto

variable {below alone combined : Option Setting}

/-- How the value over a lower one comes from the value that a source gives by itself. -/
inductive Follows (below : Option Setting) : Option Setting → Option Setting → Prop
  | untouched : Follows below none below
  | replaced {v : Setting} (h : v.isScalar = true) : Follows below (some v) (some v)
  | unreadable {v w : Setting} (hv : v.isScalar = false) (hw : w.isScalar = false) :
      Follows below (some v) (some w)
  | kept {v : Setting} (h : v.isScalar = false) : Follows below (some v) below

/-- A table changes nothing about a scalar, or makes that it cannot be read. -/
theorem onto_table_cases (new : Table) (old : Option Setting) :
    ((Setting.table new).onto old).isScalar = false ∨
      some ((Setting.table new).onto old) = old := by
  cases old with
  | none => exact .inl rfl
  | some v => cases v <;> simp only [onto] <;> first | exact .inl rfl | (split <;> simp [isScalar])

theorem entries_onto_table (new : Table) (old : Option Setting) :
    ((Setting.table new).onto old).entries = ontoAll new (old.getD .absent).entries := by
  cases old with
  | none => rfl
  | some v =>
    cases v with
    | table below => rfl
    | _ => cases new <;> simp [onto, ontoAll, entries]

theorem onto_of_isScalar {v : Setting} (h : v.isScalar = true) (old : Option Setting) :
    v.onto old = v := by
  cases v with
  | table new => simp [isScalar] at h
  | _ => rfl

theorem Follows.onto (h : Follows below alone combined) (v : Setting) :
    Follows below (some (v.onto alone)) (some (v.onto combined)) := by
  cases v with
  | table new =>
    -- what is over `below` or over nothing readable is unreadable, or `below` is kept
    have hside : ∀ {v : Setting}, v.isScalar = false → ∀ old, old = below ∨
        (∃ w : Setting, w.isScalar = false ∧ old = some w) →
        Follows below (some v) (some ((Setting.table new).onto old)) := by
      intro v hv old hold
      rcases onto_table_cases new old with hnew | hsame
      · exact .unreadable hv hnew
      · rw [hsame]
        rcases hold with rfl | ⟨w, hw, rfl⟩
        · exact .kept hv
        · exact .unreadable hv hw
    cases h with
    | untouched => exact hside rfl _ (.inl rfl)
    | @replaced v h =>
      cases hnew : ((Setting.table new).onto (some v)).isScalar with
      | true => exact .replaced hnew
      | false => exact .unreadable hnew hnew
    | @unreadable v w hv hw =>
      refine hside ?_ _ (.inr ⟨w, hw, rfl⟩)
      rcases onto_table_cases new (some v) with hnew | hsame
      · exact hnew
      · rwa [Option.some.inj hsame]
    | @kept v hv =>
      refine hside ?_ _ (.inl rfl)
      rcases onto_table_cases new (some v) with hnew | hsame
      · exact hnew
      · rwa [Option.some.inj hsame]
  | list items => exact .unreadable rfl rfl
  | _ => exact .replaced rfl

/-- The value at the end of some keys, where entries are laid over two tables. -/
theorem follows_ontoAll {key : String} {rest : List String}
    (hvalue : ∀ (v : Setting) {alone combined : Option Setting}, onlyTables rest [] v = true →
      Follows below (lookup rest alone) (lookup rest combined) →
      Follows below (lookup rest (some (v.onto alone))) (lookup rest (some (v.onto combined))))
    (new : Table) (aloneTable combinedTable : Table)
    (hnew : ∀ entry ∈ new, Unicode.lowercase entry.1 = key → onlyTables rest [] entry.2 = true)
    (h : Follows below (lookup rest (aloneTable.get? key)) (lookup rest (combinedTable.get? key))) :
    Follows below (lookup rest (Table.get? (ontoAll new aloneTable) key))
      (lookup rest (Table.get? (ontoAll new combinedTable) key)) := by
  induction new generalizing aloneTable combinedTable with
  | nil => simpa only [ontoAll] using h
  | cons entry new ih =>
    obtain ⟨name, v⟩ := entry
    obtain ⟨hentry, hnew⟩ := List.forall_mem_cons.mp hnew
    simp only [ontoAll]
    refine ih _ _ hnew ?_
    by_cases hkey : Unicode.lowercase name = key
    · subst hkey
      rw [Table.get?_put_self, Table.get?_put_self]
      exact hvalue v (hentry rfl) h
    · rwa [Table.get?_put_of_ne _ _ (Ne.symm hkey), Table.get?_put_of_ne _ _ (Ne.symm hkey)]

theorem follows_onto (keys : List String) (v : Setting) (hv : onlyTables keys [] v = true)
    (h : Follows below (lookup keys alone) (lookup keys combined)) :
    Follows below (lookup keys (some (v.onto alone))) (lookup keys (some (v.onto combined))) := by
  induction keys generalizing v alone combined with
  | nil => exact Follows.onto h v
  | cons key rest ih =>
    cases v with
    | table new =>
      simp only [onlyTables, List.all_eq_true, Bool.or_eq_true, bne_iff_ne, ne_eq] at hv
      simp only [lookup, Option.getD_some, entries_onto_table]
      have hnew : ∀ entry ∈ new, Unicode.lowercase entry.1 = key →
          onlyTables rest [] entry.2 = true :=
        fun entry he hkey => (hv entry he).resolve_left (· hkey)
      exact follows_ontoAll (fun v _ _ => ih v) new _ _ hnew h
    | _ => simp [onlyTables] at hv

theorem follows_place (steps : List Step) (keys : List String) (v : Setting)
    (hv : onlyTables keys steps v = true)
    (h : Follows below (lookup keys alone) (lookup keys combined)) :
    Follows below (lookup keys (some (place v steps alone)))
      (lookup keys (some (place v steps combined))) := by
  induction steps generalizing keys alone combined with
  | nil => simpa only [place] using follows_onto keys v hv h
  | cons step steps ih =>
    cases step with
    | key name =>
      cases keys with
      | nil => exact .unreadable rfl rfl
      | cons key rest =>
        simp only [onlyTables, Bool.or_eq_true, bne_iff_ne, ne_eq] at hv
        simp only [place, lookup, Option.getD_some, entries]
        by_cases hkey : Unicode.lowercase name = key
        · subst hkey
          rw [Table.get?_put_self, Table.get?_put_self]
          exact ih rest (hv.resolve_left (· rfl)) h
        · rwa [Table.get?_put_of_ne _ _ (Ne.symm hkey), Table.get?_put_of_ne _ _ (Ne.symm hkey)]
    | index position =>
      cases keys with
      | nil => exact .unreadable rfl rfl
      | cons key rest => simp [onlyTables] at hv

end Onto

/-! One source. -/

section Layer

theorem exists_stepsOf_eq_cons (key : String) : ∃ name rest, stepsOf key = .key name :: rest := by
  simp only [stepsOf]
  split <;> exact ⟨_, _, rfl⟩

/-- An entry of a source makes a table out of a table. -/
theorem table_entries_place (key : String) (v : Setting) (here : Option Setting) :
    .table (place v (stepsOf key) here).entries = place v (stepsOf key) here := by
  obtain ⟨name, rest, h⟩ := exists_stepsOf_eq_cons key
  simp only [h, place, entries]

theorem layer_cons (below : Table) (entry : String × Setting) (source : List (String × Setting)) :
    layer below (entry :: source) =
      layer (place entry.2 (stepsOf entry.1) (some (.table below))).entries source := rfl

/-- A source over a table decides alone what is at the end of keys on whose way it has only
tables. -/
theorem follows_layer (keys : List String) (source : List (String × Setting))
    (h : opens keys source = true) (below : Table) :
    Follows (lookup keys (some (.table below))) (lookup keys (some (.table (layer [] source))))
      (lookup keys (some (.table (layer below source)))) := by
  have hall : ∀ entry ∈ source, onlyTables keys (stepsOf entry.1) entry.2 = true := by
    simpa [opens] using h
  -- both tables change in step, from the empty one and from the one below
  have hrun : ∀ alone combined : Table,
      Follows (lookup keys (some (.table below))) (lookup keys (some (.table alone)))
        (lookup keys (some (.table combined))) →
      Follows (lookup keys (some (.table below))) (lookup keys (some (.table (layer alone source))))
        (lookup keys (some (.table (layer combined source)))) := by
    clear h
    induction source with
    | nil => exact fun alone combined hstart => hstart
    | cons entry source ih =>
      intro alone combined hstart
      obtain ⟨hentry, hsource⟩ := List.forall_mem_cons.mp hall
      rw [layer_cons, layer_cons]
      refine ih hsource _ _ ?_
      rw [table_entries_place, table_entries_place]
      exact follows_place _ keys entry.2 hentry hstart
  apply hrun
  cases keys with
  | nil => exact .kept rfl
  | cons key rest =>
    have hempty : lookup (key :: rest) (some (.table [])) = none := lookup_none rest
    rw [hempty]
    exact .untouched

/-- A source that says nothing of a value leaves it as it is. -/
theorem lookup_layer_of_eq_none {keys : List String} {source : List (String × Setting)}
    (h : opens keys source = true)
    (hnone : lookup keys (some (.table (layer [] source))) = none) (below : Table) :
    lookup keys (some (.table (layer below source))) = lookup keys (some (.table below)) := by
  have hfollows := follows_layer keys source h below
  rw [hnone] at hfollows
  generalize lookup keys (some (.table (layer below source))) = combined at hfollows
  cases hfollows with
  | untouched => rfl

end Layer

/-! Any number of sources. -/

section Layers

/-- A value that can be read is what the last source says that says something of it. -/
theorem eq_lastDefinition (keys : List String) (sources : List (List (String × Setting)))
    (h : ∀ source ∈ sources, opens keys source = true) {t : Option String}
    (ht : asText? (lookup keys (some (.table (sources.foldl layer [])))) = .ok t) :
    t = lastDefinition keys sources := by
  induction sources using List.reverseRecOn with
  | nil =>
    cases keys with
    | nil => simp [lookup, asText?, asText, Except.map] at ht
    | cons key rest =>
      have hempty : lookup (key :: rest) (some (.table [])) = none := lookup_none rest
      rw [List.foldl_nil, hempty] at ht
      exact (Except.ok.inj ht).symm
  | append_singleton sources source ih =>
    obtain ⟨hsources, hsource⟩ := List.forall_mem_append.mp h
    have hfollows := follows_layer keys source (hsource source (List.mem_singleton_self source))
      (sources.foldl layer [])
    have hlast : lastDefinition keys (sources ++ [source]) =
        ((definition? keys source).or (sources.reverse.findSome? (definition? keys))).join := by
      rw [lastDefinition, List.reverse_append, List.reverse_singleton, List.singleton_append,
        List.findSome?_cons]
      cases definition? keys source <;> rfl
    rw [List.foldl_append, List.foldl_cons, List.foldl_nil] at ht
    generalize halone : lookup keys (some (.table (layer [] source))) = alone at hfollows
    generalize lookup keys (some (.table (layer (sources.foldl layer []) source))) = combined
      at hfollows ht
    have hdefinition : definition? keys source =
        alone.bind fun v => (asText? (some v)).toOption := by rw [definition?, halone]
    have hbelow : definition? keys source = none →
        t = (sources.reverse.findSome? (definition? keys)).join →
        t = lastDefinition keys (sources ++ [source]) := by
      intro hnone heq
      rw [hlast, hnone, Option.none_or, heq]
    cases hfollows with
    | untouched => exact hbelow hdefinition (ih hsources ht)
    | replaced h =>
      rw [hlast, hdefinition, Option.bind_some, ht]
      rfl
    | unreadable hv hw => simp [(isScalar_iff _).mpr ⟨t, ht⟩] at hw
    | @kept v hv =>
      refine hbelow ?_ (ih hsources ht)
      rw [hdefinition, Option.bind_some]
      cases hread : asText? (some v) with
      | error e => rfl
      | ok t => simp [(isScalar_iff v).mpr ⟨t, hread⟩] at hv

def IsSection (here : Option Setting) : Prop :=
  here = none ∨ ∃ entries, here = some (.table entries)

theorem IsSection.place {key : String} {rest : List String} {steps : List Step} {v : Setting}
    {here : Option Setting} (hv : onlyTables (key :: rest) steps v = true) (h : IsSection here) :
    IsSection (some (place v steps here)) := by
  cases steps with
  | nil =>
    cases v with
    | table new => rcases h with rfl | ⟨entries, rfl⟩ <;> exact .inr ⟨_, rfl⟩
    | _ => simp [onlyTables] at hv
  | cons step steps =>
    cases step with
    | key name => exact .inr ⟨_, rfl⟩
    | index position => simp [onlyTables] at hv

theorem IsSection.layer {key inner : String} {rest : List String}
    {source : List (String × Setting)} (hsource : opens (key :: inner :: rest) source = true)
    {below : Table} (h : IsSection (below.get? key)) :
    IsSection (Table.get? (layer below source) key) := by
  have hall : ∀ entry ∈ source,
      onlyTables (key :: inner :: rest) (stepsOf entry.1) entry.2 = true := by
    simpa [opens] using hsource
  clear hsource
  induction source generalizing below with
  | nil => exact h
  | cons entry source ih =>
    obtain ⟨hentry, hsource⟩ := List.forall_mem_cons.mp hall
    rw [layer_cons]
    refine ih ?_ hsource
    obtain ⟨name, steps, hsteps⟩ := exists_stepsOf_eq_cons entry.1
    simp only [hsteps, onlyTables, Bool.or_eq_true, bne_iff_ne, ne_eq] at hentry
    simp only [hsteps, Setting.place, entries, Option.getD_some]
    by_cases hkey : Unicode.lowercase name = key
    · subst hkey
      rw [Table.get?_put_self]
      exact h.place (hentry.resolve_left (· rfl))
    · rwa [Table.get?_put_of_ne _ _ (Ne.symm hkey)]

theorem isSection_layers {key inner : String} {rest : List String}
    {sources : List (List (String × Setting))}
    (h : ∀ source ∈ sources, opens (key :: inner :: rest) source = true) :
    IsSection (Table.get? (sources.foldl layer []) key) := by
  induction sources using List.reverseRecOn with
  | nil => exact .inl rfl
  | append_singleton sources source ih =>
    obtain ⟨hsources, hsource⟩ := List.forall_mem_append.mp h
    rw [List.foldl_append, List.foldl_cons, List.foldl_nil]
    exact (ih hsources).layer (hsource source (List.mem_singleton_self source))

theorem IsSection.member? {here : Option Setting} (h : IsSection here) (key : String)
    (place : Nat) : member? key place here = .ok (lookup [key] here) := by
  rcases h with rfl | ⟨entries, rfl⟩ <;> rfl

end Layers

end ModelForm.Setting
