import ModelForm.Proofs.Overrides
import ModelForm.Proofs.SettingValues

/-!
Settings of a table in which one of them is given its value. The value is that of the setting, the
other settings are read wherever they were, and tables that agree hold the same settings.
-/

namespace ModelForm.Settings

open Setting (asText? asTextOr member? Table fill Agree)

/-! Tables that agree hold the same settings. -/

namespace Key

variable (k : Key)

theorem meaning_of_agree {found found' : Option Setting} (h : Agree found found')
    {x : Option String} (hx : k.meaning found = .ok x) : k.meaning found' = .ok x := by
  rcases h.eq_or_tables with rfl | ⟨t, t', rfl, rfl⟩
  · exact hx
  · cases k <;> simp [meaning, asText?, asTextOr, Setting.asText, Except.map] at hx

theorem exists_member?_of_agree {key : String} {place : Nat} {here there found : Option Setting}
    (h : Agree here there) (hfound : member? key place here = .ok found) :
    ∃ found', member? key place there = .ok found' ∧ Agree found found' := by
  rcases h.eq_or_tables with rfl | ⟨t, t', rfl, rfl⟩
  · exact ⟨found, hfound, Agree.refl found⟩
  · obtain rfl := Except.ok.inj hfound
    exact ⟨_, rfl, h.get? key⟩

theorem read_of_agree {t t' : Table} (h : Agree (some (.table t)) (some (.table t')))
    {x : Option String} (hx : k.read t = .ok x) : k.read t' = .ok x := by
  obtain ⟨found, hfound, hmeaning⟩ := exists_of_bind_eq_ok hx
  obtain ⟨found', hfound', hagree⟩ := exists_member?_of_agree (h.get? k.table) hfound
  exact (k.read_eq hfound').trans (k.meaning_of_agree hagree hmeaning)

end Key

theorem ofTable_eq_ok_iff_of_agree {t t' : Table} (h : Agree (some (.table t)) (some (.table t')))
    (s : Settings) : ofTable t = .ok s ↔ ofTable t' = .ok s := by
  rw [ofTable_eq_ok_iff_forall, ofTable_eq_ok_iff_forall]
  exact ⟨fun hs k => k.read_of_agree h (hs k), fun hs k => k.read_of_agree h.symm (hs k)⟩

/-! One setting that is given its value. -/

namespace Key

variable (k : Key)

/-- The table with a value in the place of the setting. -/
def filled (x : Setting) (t : Table) : Table :=
  t.put k.table (.table (((t.get? k.table).getD .absent).entries.put k.name x))

theorem fill_keys (x : Setting) (t : Table) :
    fill x k.keys (some (.table t)) = .table (k.filled x t) := rfl

theorem read_filled_self (x : Setting) (t : Table) :
    k.read (k.filled x t) = k.meaning (some x) := by
  refine k.read_eq ?_
  rw [filled, Table.get?_put_self]
  exact congrArg Except.ok (Table.get?_put_self _ _ _)

/-- Another setting of the section is found if the section is a table; if not, all that was there
gives way. -/
theorem read_filled_of_ne {k' : Key} (h : k' ≠ k) (htable : k'.table = k.table) (x : Setting)
    (t : Table) : k'.read (k.filled x t) =
      k'.meaning (((t.get? k.table).getD .absent).entries.get? k'.name) := by
  have hname : k'.name ≠ k.name := fun hname => h (name_injective hname)
  refine k'.read_eq ?_
  rw [filled, htable, Table.get?_put_self]
  exact congrArg Except.ok (Table.get?_put_of_ne _ _ hname)

theorem read_filled_of_table_ne {k' : Key} (htable : k'.table ≠ k.table) (x : Setting)
    (t : Table) : k'.read (k.filled x t) = k'.read t := by
  rw [read, filled, Table.get?_put_of_ne _ _ htable]
  rfl

/-- What can be read in a section can be read if nothing but its table is left. -/
theorem exists_meaning_of_read {t : Table} {y : Option String} (h : k.read t = .ok y) :
    ∃ y', k.meaning (((t.get? k.table).getD .absent).entries.get? k.name) = .ok y' := by
  obtain ⟨found, hfound, hmeaning⟩ := exists_of_bind_eq_ok h
  have hnone : ∃ y', k.meaning none = .ok y' := by cases k <;> exact ⟨_, rfl⟩
  cases hhere : t.get? k.table with
  | none => exact hnone
  | some here =>
    rw [hhere] at hfound
    cases here with
    | table entries =>
      obtain rfl := Except.ok.inj hfound
      exact ⟨y, hmeaning⟩
    | list items => exact hnone
    | _ => simp [member?] at hfound

/-- Values that mean the same give the same settings. -/
theorem ofTable_filled {x y : Setting} (h : k.meaning (some x) = k.meaning (some y)) (t : Table)
    (s : Settings) : ofTable (k.filled x t) = .ok s ↔ ofTable (k.filled y t) = .ok s := by
  have hread : ∀ k' : Key, k'.read (k.filled x t) = k'.read (k.filled y t) := by
    intro k'
    by_cases hk : k' = k
    · rw [hk, read_filled_self, read_filled_self, h]
    · by_cases htable : k'.table = k.table
      · rw [k.read_filled_of_ne hk htable, k.read_filled_of_ne hk htable]
      · rw [k.read_filled_of_table_ne htable, k.read_filled_of_table_ne htable]
  simp only [ofTable_eq_ok_iff_forall, hread]

theorem value_of_ofTable_filled {x : Setting} {text : String}
    (hx : k.meaning (some x) = .ok (some text)) {t : Table} {s : Settings}
    (h : ofTable (k.filled x t) = .ok s) : k.value s = some text := by
  have hself : k.read (k.filled x t) = .ok (k.value s) := (ofTable_eq_ok_iff_forall _ s).mp h k
  rw [read_filled_self, hx] at hself
  exact (Except.ok.inj hself).symm

/-- Where there are settings there still are, when one of them is given another value. -/
theorem exists_ofTable_filled {x : Setting} {text : String}
    (hx : k.meaning (some x) = .ok (some text)) {t : Table} {s : Settings}
    (h : ofTable t = .ok s) : ∃ s', ofTable (k.filled x t) = .ok s' := by
  refine exists_ofTable fun k' => ?_
  have hbefore : k'.read t = .ok (k'.value s) := (ofTable_eq_ok_iff_forall t s).mp h k'
  by_cases hk : k' = k
  · exact ⟨some text, by rw [hk, read_filled_self, hx]⟩
  · by_cases htable : k'.table = k.table
    · rw [k.read_filled_of_ne hk htable, ← htable]
      exact k'.exists_meaning_of_read hbefore
    · exact ⟨_, (k.read_filled_of_table_ne htable x t).trans hbefore⟩

end Key

end ModelForm.Settings
