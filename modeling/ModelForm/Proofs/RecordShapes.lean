import ModelForm.Model.Writing
import ModelForm.Proofs.Shapes
import Mathlib.Data.List.Forall2
import Mathlib.Data.List.Nodup
import Mathlib.Data.List.Perm.Basic

/-!
Records and their fields. What reading each field of a record keeps is kept by reading the
record, from an object or from an array. A record is read back from the members that were
written for it if each of its fields is: the members come in the order of their keys, but
fields that set different parts of a record can be read in any order, and a member that
was left out would have changed nothing.
-/

namespace ModelForm

variable {α β : Type}

def FieldShape.Keeps (P : α → Prop) (field : FieldShape α) : Prop :=
  ∀ (origin : Origin) (v : Json) (r r' : α), v.WellFormed → P r →
    field.read origin (Document.ofValue v) r = .ok r' → P r'

/-- Reading the field from the value that is written for it, if there is one, copies it from the
record that was written; without a value the field may be absent, and the copy changes nothing in a
blank record. -/
structure FieldShape.Copies (blank : α) (field : FieldShape α) (v? : Option Json)
    (copy : α → α) : Prop where
  wellFormed : ∀ v, v? = some v → v.WellFormed
  read : ∀ v, v? = some v → ∀ origin r, field.read origin (Document.ofValue v) r = .ok (copy r)
  absent : v? = none → field.optional = true ∧ copy blank = blank

def Json.given (members : List (String × Option Json)) : Object :=
  members.filterMap fun (key, v?) => v?.map fun v => (key, v)

theorem Json.map_fst_given (members : List (String × Option Json)) :
    ((Json.given members).map Prod.fst).Sublist (members.map Prod.fst) := by
  induction members with
  | nil => exact List.Sublist.refl _
  | cons m rest ih =>
    obtain ⟨key, v?⟩ := m
    cases v? with
    | none => exact ih.cons _
    | some v => exact ih.cons_cons _

namespace FieldShape

section Keeps

variable {P : α → Prop} {key : String} {shape : Shape β} {set : β → α → α} {optional : Bool}

/-- A field that is set to something of which enough is known. -/
theorem keeps_of_yields {Q : β → Prop} (hshape : shape.Yields Q)
    (hset : ∀ x r, Q x → P r → P (set x r)) :
    Keeps P ⟨key, fun origin d r => (shape origin d).map fun x => set x r, optional⟩ := by
  intro origin v r r' hv hr h
  dsimp only at h
  cases hread : shape origin (Document.ofValue v) with
  | error e => simp [hread, Except.map] at h
  | ok x =>
    simp only [hread, Except.map, Except.ok.injEq] at h
    exact h ▸ hset x r (hshape origin v x hv hread) hr

/-- A field that does not matter. -/
theorem keeps_of_set (hset : ∀ x r, P r → P (set x r)) :
    Keeps P ⟨key, fun origin d r => (shape origin d).map fun x => set x r, optional⟩ :=
  keeps_of_yields shape.yields_true fun x r _ hr => hset x r hr

end Keeps

section Copies

variable {blank : α} {key : String} {shape : Shape β}

theorem copies_required {set : β → α → α} {v : Json} {x : β} (h : shape.Reads v x) :
    (required key shape set).Copies blank (Json.present v) (set x) := by
  refine ⟨?_, ?_, fun hnone => nomatch hnone⟩
  · intro w hw
    exact Option.some.inj hw ▸ h.wellFormed
  · intro w hw origin r
    obtain rfl := Option.some.inj hw
    simp [required, h.read origin, Except.map]

theorem copies_defaulted {set : β → α → α} {v : Json} {x : β} (h : shape.Reads v x) :
    (defaulted key shape set).Copies blank (Json.present v) (set x) := by
  have hcopies : (required key shape set).Copies blank (Json.present v) (set x) := copies_required h
  exact ⟨hcopies.wellFormed, hcopies.read, fun hnone => nomatch hnone⟩

/-- What is left out where it is absent. -/
theorem copies_option {set : Option β → α → α} (write : β → Json) {x? : Option β}
    (h : ∀ x ∈ x?, write x ≠ .null ∧ shape.Reads (write x) x) (hblank : set none blank = blank) :
    (defaulted key (.option shape) set).Copies blank (x?.map write) (set x?) := by
  cases x? with
  | none => exact ⟨nofun, nofun, fun _ => ⟨rfl, hblank⟩⟩
  | some x =>
    obtain ⟨hnull, hread⟩ := h x rfl
    exact copies_defaulted (Shape.reads_option shape (write x) x hnull hread)

/-- A list, left out where it is empty. -/
theorem copies_list {set : List β → α → α} {write : β → Json} {xs : List β}
    (h : ∀ x ∈ xs, shape.Reads (write x) x) (hblank : set [] blank = blank) :
    (defaulted key (.list shape) set).Copies blank (Json.nonempty (xs.map write)) (set xs) := by
  cases xs with
  | nil => exact ⟨nofun, nofun, fun _ => ⟨rfl, hblank⟩⟩
  | cons x rest => exact copies_defaulted (Shape.reads_list shape write _ h)

end Copies

end FieldShape

namespace RecordShape

variable (shape : RecordShape α) (origin : Origin)

theorem field?_mem (key : String) (field : FieldShape α) (h : shape.field? key = some field) :
    field ∈ shape.fields := List.mem_of_find?_eq_some h

section Keeps

variable (P : α → Prop) (hfields : ∀ field ∈ shape.fields, field.Keeps P)
include hfields

theorem keeps_readMembers (members : Object) (hmembers : ∀ m ∈ members, m.2.WellFormed)
    (seen seen' : List String) (r r' : α) (hr : P r)
    (h : shape.readMembers origin (Document.ofMembers members) seen r = .ok (seen', r')) :
    P r' := by
  induction members generalizing seen r with
  | nil =>
    obtain ⟨_, rfl⟩ := Prod.mk.inj (Except.ok.inj h)
    exact hr
  | cons m rest ih =>
    obtain ⟨key, v⟩ := m
    have hrest := fun m hm => hmembers m (List.mem_cons_of_mem _ hm)
    obtain ⟨k, hk, h⟩ := exists_of_bind_eq_ok h
    split at h
    · obtain ⟨_, _, h⟩ := exists_of_bind_eq_ok h
      exact ih hrest seen r hr h
    · rename_i field hfield
      split at h
      · cases h
      · obtain ⟨s, hs, h⟩ := exists_of_bind_eq_ok h
        have hmem := field?_mem shape k field hfield
        have hv := hmembers (key, v) (List.mem_cons_self ..)
        exact ih hrest _ s (hfields field hmem origin v r s hv hr hs) h

theorem keeps_readItems (ending : Option Fault) (fields : List (FieldShape α))
    (hsub : ∀ field ∈ fields, field ∈ shape.fields) (items : List Json)
    (hitems : ∀ v ∈ items, v.WellFormed) (left : List Document) (index : Nat) (r r' : α) (hr : P r)
    (h : shape.readItems origin ending fields (Document.ofItems items) index r = .ok (left, r')) :
    P r' := by
  induction fields generalizing items index r with
  | nil =>
    obtain ⟨_, rfl⟩ := Prod.mk.inj (Except.ok.inj h)
    exact hr
  | cons field fields ih =>
    have hfield := hsub field (List.mem_cons_self ..)
    have htail := fun f hf => hsub f (List.mem_cons_of_mem _ hf)
    cases items with
    | nil =>
      obtain ⟨_, _, h⟩ := exists_of_bind_eq_ok h
      split at h
      · exact ih htail [] (by simp) _ r hr h
      · cases h
    | cons v rest =>
      obtain ⟨s, hs, h⟩ := exists_of_bind_eq_ok h
      have hkeep := hfields field hfield origin v r s (hitems v (List.mem_cons_self ..)) hr hs
      exact ih htail rest (fun w hw => hitems w (List.mem_cons_of_mem _ hw)) _ s hkeep h

/-- What the blank record has and reading a field keeps, every record has that is read. -/
theorem yields_read (hblank : P shape.blank) : Shape.Yields shape.read P := by
  intro origin v x hv h
  cases hv with
  | object members _ hmembers =>
    obtain ⟨⟨seen, r⟩, hread, h⟩ := exists_of_bind_eq_ok h
    obtain ⟨_, _, h⟩ := exists_of_bind_eq_ok h
    have hr := keeps_readMembers shape origin P hfields members hmembers [] seen _ r hblank hread
    split at h
    · cases h
    · exact Except.ok.inj h ▸ hr
  | array items hitems =>
    obtain ⟨⟨left, r⟩, hread, h⟩ := exists_of_bind_eq_ok h
    have hr := keeps_readItems shape origin P hfields none shape.fields (fun _ hf => hf) items
      hitems left 0 _ r hblank hread
    have hx : r = x := by
      cases origin with
      | text =>
        obtain ⟨_, h⟩ := of_check_eq_ok h
        exact Except.ok.inj h
      | value =>
        obtain ⟨_, h⟩ := of_check_eq_ok h
        exact Except.ok.inj h
    exact hx ▸ hr
  | null => cases h
  | bool b => cases h
  | number n _ => cases h
  | string s => cases h

end Keeps

/-! Reading back what a record wrote. -/

/-- Fields, the values that a record writes for them, and what reading each of them copies from that
record into another. -/
inductive Written (blank : α) :
    List (FieldShape α) → List (String × Option Json) → List (α → α) → Prop
  | nil : Written blank [] [] []
  | cons {field : FieldShape α} {v? : Option Json} {copy : α → α} {fields : List (FieldShape α)}
      {members : List (String × Option Json)} {copies : List (α → α)}
      (h : field.Copies blank v? copy) (rest : Written blank fields members copies) :
      Written blank (field :: fields) ((field.key, v?) :: members) (copy :: copies)

namespace Written

variable {blank : α} {key : String} {shape : Shape β} {fields : List (FieldShape α)}
  {members : List (String × Option Json)} {copies : List (α → α)}

theorem required {set : β → α → α} {v : Json} {x : β} (h : shape.Reads v x)
    (rest : Written blank fields members copies) :
    Written blank (.required key shape set :: fields) ((key, Json.present v) :: members)
      (set x :: copies) :=
  .cons (FieldShape.copies_required h) rest

theorem defaulted {set : β → α → α} {v : Json} {x : β} (h : shape.Reads v x)
    (rest : Written blank fields members copies) :
    Written blank (.defaulted key shape set :: fields) ((key, Json.present v) :: members)
      (set x :: copies) :=
  .cons (FieldShape.copies_defaulted h) rest

theorem option {set : Option β → α → α} {write : β → Json} {x? : Option β}
    (h : ∀ x ∈ x?, write x ≠ .null ∧ shape.Reads (write x) x) (hblank : set none blank = blank)
    (rest : Written blank fields members copies) :
    Written blank (.defaulted key (.option shape) set :: fields) ((key, x?.map write) :: members)
      (set x? :: copies) :=
  .cons (FieldShape.copies_option write h hblank) rest

theorem list {set : List β → α → α} {write : β → Json} {xs : List β}
    (h : ∀ x ∈ xs, shape.Reads (write x) x) (hblank : set [] blank = blank)
    (rest : Written blank fields members copies) :
    Written blank (.defaulted key (.list shape) set :: fields)
      ((key, Json.nonempty (xs.map write)) :: members) (set xs :: copies) :=
  .cons (FieldShape.copies_list h hblank) rest

/-- A value of any kind other than null, left out where it is absent. -/
theorem json {set : Option Json → α → α} {v? : Option Json}
    (h : ∀ v ∈ v?, v.WellFormed ∧ v ≠ .null) (hblank : set none blank = blank)
    (rest : Written blank fields members copies) :
    Written blank (.defaulted key (.option .json) set :: fields) ((key, v?) :: members)
      (set v? :: copies) := by
  have hreads : ∀ v ∈ v?, id v ≠ .null ∧ Shape.json.Reads (id v) v :=
    fun v hv => ⟨(h v hv).2, Shape.reads_json v (h v hv).1⟩
  have hcopies : (FieldShape.defaulted key (.option .json) set).Copies blank (v?.map id) (set v?) :=
    FieldShape.copies_option id hreads hblank
  rw [Option.map_id] at hcopies
  exact .cons hcopies rest

end Written

def Steps (m : String × Json) (step : α → α) : Prop :=
  ∃ field, shape.field? m.1 = some field ∧
    ∀ origin r, field.read origin (Document.ofValue m.2) r = .ok (step r)

theorem field?_of_mem (hkeys : (shape.fields.map FieldShape.key).Nodup) (field : FieldShape α)
    (h : field ∈ shape.fields) : shape.field? field.key = some field := by
  have hsome : (shape.field? field.key).isSome := List.find?_isSome.mpr ⟨field, h, by simp⟩
  obtain ⟨found, hfound⟩ := Option.isSome_iff_exists.mp hsome
  have hkey : found.key = field.key := by simpa using List.find?_some hfound
  rw [hfound, List.inj_on_of_nodup_map hkeys (field?_mem shape _ found hfound) h hkey]

theorem map_fst_of_written (blank : α) (fields : List (FieldShape α))
    (members : List (String × Option Json)) (copies : List (α → α))
    (h : Written blank fields members copies) :
    members.map Prod.fst = fields.map FieldShape.key := by
  induction h with
  | nil => rfl
  | cons _ _ ih => simp [ih]

/-- The members that are present make steps, and those that are absent would have copied nothing. -/
theorem exists_steps (blank : α) (fields : List (FieldShape α))
    (members : List (String × Option Json)) (copies : List (α → α))
    (h : Written blank fields members copies)
    (hfields : ∀ field ∈ fields, shape.field? field.key = some field)
    (hcommute : copies.Pairwise fun c d => ∀ r, c (d r) = d (c r)) :
    ∃ steps : List (α → α), List.Forall₂ shape.Steps (Json.given members) steps ∧
      steps.Sublist copies ∧ ∀ r, (∀ copy ∈ copies, copy blank = blank → copy r = r) →
        steps.foldl (fun r step => step r) r = copies.foldl (fun r copy => copy r) r := by
  induction h with
  | nil => exact ⟨[], .nil, List.Sublist.refl _, fun _ _ => rfl⟩
  | @cons field v? copy fields members copies hcopy _ ih =>
    obtain ⟨hhead, htail⟩ := List.pairwise_cons.mp hcommute
    obtain ⟨steps, hsteps, hsub, hfold⟩ :=
      ih (fun f hf => hfields f (List.mem_cons_of_mem _ hf)) htail
    cases hv : v? with
    | none =>
      refine ⟨steps, hsteps, hsub.cons _, ?_⟩
      intro r hr
      rw [List.foldl_cons, hr copy (List.mem_cons_self ..) (hcopy.absent hv).2]
      exact hfold r fun c hc => hr c (List.mem_cons_of_mem _ hc)
    | some v =>
      have hstep : shape.Steps (field.key, v) copy :=
        ⟨field, hfields field (List.mem_cons_self ..), hcopy.read v hv⟩
      refine ⟨copy :: steps, .cons hstep hsteps, hsub.cons_cons copy, ?_⟩
      intro r hr
      refine hfold (copy r) ?_
      -- what the absent ones leave alone they leave alone after this step, too
      intro c hc hblank
      rw [← hhead c hc r, hr c (List.mem_cons_of_mem _ hc) hblank]

theorem readMembers_steps (members : Object) (steps : List (α → α))
    (h : List.Forall₂ shape.Steps members steps) (hkeys : (members.map Prod.fst).Nodup)
    (seen : List String) (hseen : ∀ key ∈ members.map Prod.fst, key ∉ seen) (r : α) :
    shape.readMembers origin (Document.ofMembers members) seen r =
      .ok ((members.map Prod.fst).reverse ++ seen, steps.foldl (fun r step => step r) r) := by
  induction h generalizing seen r with
  | nil => rfl
  | @cons m step members steps hstep _ ih =>
    obtain ⟨key, v⟩ := m
    obtain ⟨field, hfield, hread⟩ := hstep
    obtain ⟨hnew, hrest⟩ := List.nodup_cons.mp hkeys
    have hnot : seen.contains key = false := by
      simpa using hseen key (List.mem_cons_self ..)
    have hseen' : ∀ k ∈ members.map Prod.fst, k ∉ key :: seen := by
      intro k hk hmem
      rcases List.mem_cons.mp hmem with rfl | hmem
      · exact hnew hk
      · exact hseen k (List.mem_cons_of_mem _ hk) hmem
    have htail := ih hrest (key :: seen) hseen' (step r)
    simp only [Document.ofMembers, readMembers, Shape.ofFault, Except.mapError, bind, Except.bind,
      hfield, hnot, hread, Bool.false_eq_true, if_false, htail]
    simp

/-- A record is read from an object whose members make steps. -/
theorem read_of_steps (members : Object) (steps : List (α → α))
    (h : List.Forall₂ shape.Steps members steps) (hkeys : (members.map Prod.fst).Nodup)
    (hpresent : ∀ field ∈ shape.fields,
      field.optional = true ∨ field.key ∈ members.map Prod.fst) :
    shape.read origin (Document.ofValue (.object members)) =
      .ok (steps.foldl (fun r step => step r) shape.blank) := by
  have hread := readMembers_steps shape origin members steps h hkeys [] (by simp) shape.blank
  have hseen : shape.fields.find? (fun field => !field.optional &&
      !((members.map Prod.fst).reverse ++ []).contains field.key) = none := by
    refine List.find?_eq_none.mpr ?_
    intro field hf
    rcases hpresent field hf with hopt | hmem
    · simp [hopt]
    · simp [hmem]
  simp only [read, Document.ofValue, hread, bind, Except.bind, Shape.ofFault, Document.ended,
    Except.mapError, hseen]
  rfl

/-- The order of the members does not matter if their steps set different parts of the record. -/
theorem read_of_perm (ordered members : Object) (hperm : ordered.Perm members)
    (steps : List (α → α)) (h : List.Forall₂ shape.Steps members steps)
    (hkeys : (members.map Prod.fst).Nodup)
    (hpresent : ∀ field ∈ shape.fields,
      field.optional = true ∨ field.key ∈ members.map Prod.fst)
    (hcommute : steps.Pairwise fun c d => ∀ r, c (d r) = d (c r)) :
    shape.read origin (Document.ofValue (.object ordered)) =
      .ok (steps.foldl (fun r step => step r) shape.blank) := by
  have hfst : (ordered.map Prod.fst).Perm (members.map Prod.fst) := hperm.map Prod.fst
  obtain ⟨moved, hmoved, hsame⟩ := List.perm_comp_forall₂ hperm h
  have hcomm := hcommute.forall_of_forall_of_flip (fun _ _ _ => rfl)
    (hcommute.imp fun h r => (h r).symm)
  rw [read_of_steps shape origin ordered moved hmoved (hfst.nodup_iff.mpr hkeys)
    fun field hf => (hpresent field hf).imp id hfst.mem_iff.mpr]
  refine congrArg Except.ok (hsame.foldl_eq' ?_ shape.blank)
  exact fun c hc d hd r => hcomm (hsame.mem_iff.mp hd) (hsame.mem_iff.mp hc) r

theorem wellFormed_of_written (blank : α) (fields : List (FieldShape α))
    (members : List (String × Option Json)) (copies : List (α → α))
    (h : Written blank fields members copies) : ∀ m ∈ Json.given members, m.2.WellFormed := by
  induction h with
  | nil => exact fun m hm => nomatch hm
  | @cons field v? copy fields members copies hcopy _ ih =>
    cases hv : v? with
    | none => exact ih
    | some v =>
      intro m hm
      rcases List.mem_cons.mp hm with rfl | hm
      · exact hcopy.wellFormed v hv
      · exact ih m hm

theorem optional_of_written (blank : α) (fields : List (FieldShape α))
    (members : List (String × Option Json)) (copies : List (α → α))
    (h : Written blank fields members copies) :
    ∀ field ∈ fields, field.optional = true ∨ field.key ∈ (Json.given members).map Prod.fst := by
  induction h with
  | nil => simp
  | @cons field v? copy fields members copies hcopy _ ih =>
    intro f hf
    cases hv : v? with
    | none =>
      rcases List.mem_cons.mp hf with rfl | hf
      · exact Or.inl (hcopy.absent hv).1
      · exact ih f hf
    | some v =>
      rcases List.mem_cons.mp hf with rfl | hf
      · exact Or.inr (List.mem_cons_self ..)
      · exact (ih f hf).imp id (List.mem_cons_of_mem _)

/-- A record is read back from its members if each of its fields is and the fields set different
parts of it. -/
theorem reads_record {members : List (String × Option Json)} {copies : List (α → α)} {t : α}
    (hwritten : Written shape.blank shape.fields members copies)
    (hkeys : (shape.fields.map FieldShape.key).Nodup)
    (hcommute : copies.Pairwise fun c d => ∀ r, c (d r) = d (c r))
    (hall : copies.foldl (fun r copy => copy r) shape.blank = t) :
    Shape.Reads shape.read (Json.record members) t := by
  have hgiven : ((Json.given members).map Prod.fst).Nodup := by
    rw [← map_fst_of_written _ _ _ _ hwritten] at hkeys
    exact hkeys.sublist (Json.map_fst_given members)
  have hperm := Object.perm_ofList (Json.given members) hgiven
  refine ⟨.object _ (Object.ascending_ofList _) ?_, fun origin => ?_⟩
  · exact fun m hm => wellFormed_of_written _ _ _ _ hwritten m (hperm.mem_iff.mp hm)
  obtain ⟨steps, hsteps, hsub, hfold⟩ := exists_steps shape shape.blank _ members copies hwritten
    (fun field hf => field?_of_mem shape hkeys field hf) hcommute
  -- the members come in the order of their keys, and so do their steps
  have hread := read_of_perm shape origin _ _ hperm steps hsteps hgiven
    (optional_of_written _ _ _ _ hwritten) (hcommute.sublist hsub)
  rw [hfold shape.blank fun _ _ h => h, hall] at hread
  exact hread

end RecordShape

end ModelForm
