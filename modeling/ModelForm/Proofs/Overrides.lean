import ModelForm.Proofs.Layers

/-!
Scalars that are put at the end of some keys. Two values agree if the same is found in both,
whichever keys are followed. Up to agreement it makes no difference whether such a scalar comes
before or after what leads elsewhere: so of a source that says nothing of the place, nothing is
hidden, and the scalar may be thought of as coming last.
-/

namespace ModelForm.Setting

def face : Setting → Setting
  | .table _ => .table []
  | v => v

/-- Whichever keys are followed in both, the same is found. -/
def Agree (here there : Option Setting) : Prop :=
  ∀ keys, (lookup keys here).map face = (lookup keys there).map face

/-- The value with another one at the end of some keys; what is in the way gives way. -/
def fill (value : Setting) : List String → Option Setting → Setting
  | [], _ => value
  | key :: rest, here =>
    let below := (here.getD .absent).entries
    .table (below.put key (fill value rest (below.get? key)))

/-- The steps leave the way along some keys before it ends, and lead on elsewhere. -/
def apart : List String → List Step → Bool
  | key :: rest, .key name :: steps => Unicode.lowercase name != key || apart rest steps
  | _, _ => false

section Agree

variable {here there : Option Setting}

theorem Agree.refl (here : Option Setting) : Agree here here := fun _ => rfl

theorem Agree.symm (h : Agree here there) : Agree there here := fun keys => (h keys).symm

theorem Agree.trans {last : Option Setting} (h : Agree here there) (h' : Agree there last) :
    Agree here last :=
  fun keys => (h keys).trans (h' keys)

theorem Agree.get? (h : Agree here there) (key : String) :
    Agree (Table.get? (here.getD .absent).entries key)
      (Table.get? (there.getD .absent).entries key) :=
  fun keys => h (key :: keys)

/-- Values that agree are the same, or tables both. -/
theorem Agree.eq_or_tables (h : Agree here there) :
    here = there ∨ ∃ t t', here = some (.table t) ∧ there = some (.table t') := by
  have hface : here.map face = there.map face := h []
  cases here with
  | none => exact .inl (by simpa [eq_comm] using hface)
  | some v =>
    cases there with
    | none => simp at hface
    | some w => cases v <;> cases w <;> simp_all [face]

theorem Agree.items (h : Agree here there) :
    (here.getD .absent).items = (there.getD .absent).items := by
  rcases h.eq_or_tables with rfl | ⟨t, t', rfl, rfl⟩ <;> rfl

theorem agree_tables {t t' : Table} (h : ∀ key, Agree (t.get? key) (t'.get? key)) :
    Agree (some (.table t)) (some (.table t')) := by
  intro keys
  cases keys with
  | nil => rfl
  | cons key keys => exact h key keys

theorem Table.get?_put (t : Table) (key other : String) (v : Setting) :
    (t.put key v).get? other = if other = key then some v else t.get? other := by
  split_ifs with h
  · rw [h, get?_put_self]
  · exact get?_put_of_ne t v h

theorem agree_put {t t' : Table} (h : ∀ key, Agree (t.get? key) (t'.get? key)) (key : String)
    {v v' : Setting} (hv : Agree (some v) (some v')) :
    Agree (some (.table (t.put key v))) (some (.table (t'.put key v'))) := by
  refine agree_tables fun other => ?_
  rw [Table.get?_put, Table.get?_put]
  split_ifs
  · exact hv
  · exact h other

/-- Values that agree still do so when the same scalar is placed in both. -/
theorem Agree.place (h : Agree here there) {v : Setting} (hv : v.isScalar = true)
    (steps : List Step) :
    Agree (some (Setting.place v steps here)) (some (Setting.place v steps there)) := by
  induction steps generalizing here there with
  | nil =>
    simp only [Setting.place, onto_of_isScalar hv]
    exact Agree.refl _
  | cons step steps ih =>
    cases step with
    | key name =>
      simp only [Setting.place]
      exact agree_put h.get? _ (ih (h.get? _))
    | index position =>
      simp only [Setting.place, h.items]
      exact Agree.refl _

/-- What is placed elsewhere may be placed before or after the end of the keys is filled. -/
theorem agree_place_fill (v x : Setting) {keys : List String} {steps : List Step}
    (h : apart keys steps = true) (here : Option Setting) :
    Agree (some (place v steps (some (fill x keys here))))
      (some (fill x keys (some (place v steps here)))) := by
  induction keys generalizing steps here with
  | nil => simp [apart] at h
  | cons key rest ih =>
    cases steps with
    | nil => simp [apart] at h
    | cons step steps =>
      cases step with
      | index position => simp [apart] at h
      | key name =>
        simp only [apart, Bool.or_eq_true, bne_iff_ne, ne_eq] at h
        simp only [place, fill, Option.getD_some, entries]
        generalize (here.getD .absent).entries = below
        refine agree_tables fun other => ?_
        by_cases hkey : Unicode.lowercase name = key
        · subst hkey
          simp only [Table.get?_put, if_true]
          split_ifs
          · exact ih (h.resolve_left (· rfl)) _
          · exact Agree.refl _
        · -- two places in one table
          simp only [Table.get?_put, hkey, Ne.symm hkey, if_false]
          split_ifs with hname hother
          · exact absurd (hname.symm.trans hother) hkey
          all_goals exact Agree.refl _

end Agree

/-! A scalar among the entries of a source. -/

section Fill

variable {x : Setting} (hx : x.isScalar = true) {keys : List String}
include hx

/-- Steps by keys lead to the end of the keys. -/
theorem place_keys (hlower : ∀ key ∈ keys, Unicode.lowercase key = key) (here : Option Setting) :
    place x (keys.map Step.key) here = fill x keys here := by
  induction keys generalizing here with
  | nil => exact onto_of_isScalar hx here
  | cons key rest ih =>
    obtain ⟨hkey, hrest⟩ := List.forall_mem_cons.mp hlower
    simp only [List.map_cons, place, hkey, ih hrest, fill]

/-- A table that has nothing but the scalar puts it in its place, over whatever is there. -/
theorem onto_table_singleton {key : String} (hlower : Unicode.lowercase key = key)
    (here : Option Setting) : (Setting.table [(key, x)]).onto here = fill x [key] here := by
  have hscalar : ∀ old, x.onto old = x := onto_of_isScalar hx
  cases here with
  | none => simp [onto, ontoAll, fill, entries, hlower, hscalar]
  | some v => cases v <;> simp [onto, ontoAll, fill, entries, hlower, hscalar]

end Fill

theorem layer_append (below : Table) (source source' : List (String × Setting)) :
    layer below (source ++ source') = layer (layer below source) source' := List.foldl_append

/-- Entries that lead elsewhere may be laid below or over the filled place. -/
theorem agree_layer_fill (x : Setting) {keys : List String} (source : List (String × Setting))
    (hsource : ∀ entry ∈ source, entry.2.isScalar = true ∧ apart keys (stepsOf entry.1) = true)
    {below below' : Table}
    (h : Agree (some (.table below')) (some (fill x keys (some (.table below))))) :
    Agree (some (.table (layer below' source)))
      (some (fill x keys (some (.table (layer below source))))) := by
  induction source generalizing below below' with
  | nil => exact h
  | cons entry source ih =>
    obtain ⟨⟨hscalar, hapart⟩, hsource⟩ := List.forall_mem_cons.mp hsource
    rw [layer_cons, layer_cons]
    refine ih hsource ?_
    rw [table_entries_place, table_entries_place]
    exact (h.place hscalar _).trans (agree_place_fill entry.2 x hapart _)

end ModelForm.Setting
