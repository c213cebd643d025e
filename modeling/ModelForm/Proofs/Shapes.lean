import ModelForm.Json.Shape
import ModelForm.Proofs.Documents
import ModelForm.Proofs.Timestamps

/-!
Shapes and values. A shape reads a value back if it gives the data that the value was
written for, and it yields a property if all that it reads from well-formed values has
the property. Both are stated for each kind of shape, and carry over from the items of a
list to the list.
-/

namespace ModelForm

namespace Shape

variable {α β : Type}

/-- The value is well-formed and read as the data, from a text as well as by itself. -/
structure Reads (shape : Shape α) (v : Json) (x : α) : Prop where
  wellFormed : v.WellFormed
  read : ∀ origin, shape origin (Document.ofValue v) = .ok x

def Yields (shape : Shape α) (P : α → Prop) : Prop :=
  ∀ (origin : Origin) (v : Json) (x : α), v.WellFormed →
    shape origin (Document.ofValue v) = .ok x → P x

theorem reads_json (v : Json) (h : v.WellFormed) : json.Reads v v := by
  refine ⟨h, fun origin => ?_⟩
  simp [json, ofFault, Document.value_ofValue v h, Except.mapError]

theorem reads_string (s : String) : string.Reads (.string s) s := ⟨.string s, fun _ => rfl⟩

theorem reads_bool (b : Bool) : bool.Reads (.bool b) b := ⟨.bool b, fun _ => rfl⟩

theorem reads_integer (type : String) (low high i : Int) (h : low ≤ i ∧ i ≤ high)
    (hi : (Number.integer i).Representable) :
    (integer type low high).Reads (.number (.integer i)) i := by
  refine ⟨.number _ hi, fun origin => ?_⟩
  simp [integer, Document.ofValue, h]

theorem reads_instant (t : Instant) (h : t.Valid) : instant.Reads (.string t.text) t := by
  refine ⟨.string _, fun origin => ?_⟩
  simp [instant, Document.ofValue, Instant.ofText_text t h, Except.mapError]

theorem reads_name (known : List String) (meaning : String → Option α) (n : String) (x : α)
    (h : meaning n = some x) : (name known meaning).Reads (.string n) x := by
  refine ⟨.string n, fun origin => ?_⟩
  simp [name, Document.ofValue, h]

theorem reads_option (shape : Shape α) (v : Json) (x : α) (hv : v ≠ .null) (h : shape.Reads v x) :
    (option shape).Reads v (some x) := by
  refine ⟨h.wellFormed, fun origin => ?_⟩
  have hnull : Document.ofValue v ≠ .null := fun heq => hv ((Document.ofValue_eq_null_iff v).mp heq)
  unfold option
  split
  · contradiction
  · rw [h.read origin]
    rfl

theorem read_list (shape : Shape α) (write : α → Json) (origin : Origin) (xs : List α)
    (h : ∀ x ∈ xs, shape origin (Document.ofValue (write x)) = .ok x) :
    list shape origin (Document.ofValue (.array (xs.map write))) = .ok xs := by
  have hitems : listItems shape origin (Document.ofItems (xs.map write)) = .ok xs := by
    induction xs with
    | nil => rfl
    | cons x rest ih =>
      rw [List.map_cons, Document.ofItems, listItems, h x (List.mem_cons_self ..),
        ih fun y hy => h y (List.mem_cons_of_mem _ hy)]
      rfl
  simp only [list, Document.ofValue, hitems]
  rfl

theorem reads_list (shape : Shape α) (write : α → Json) (xs : List α)
    (h : ∀ x ∈ xs, shape.Reads (write x) x) : (list shape).Reads (.array (xs.map write)) xs :=
  ⟨.array _ (List.forall_mem_map.mpr fun x hx => (h x hx).wellFormed),
    fun origin => read_list shape write origin xs fun x hx => (h x hx).read origin⟩

theorem yields_true (shape : Shape α) : shape.Yields fun _ => True := fun _ _ _ _ _ => trivial

theorem yields_json : json.Yields Json.WellFormed := by
  intro origin v x hv h
  rw [(reads_json v hv).read origin] at h
  exact Except.ok.inj h ▸ hv

theorem mismatch_ne_ok (expected : String) (d : Document) (x : α) :
    mismatch expected d ≠ .ok x := by
  unfold mismatch
  split <;> simp [refuse]

theorem yields_integer (type : String) (low high : Int) :
    (integer type low high).Yields fun i => low ≤ i ∧ i ≤ high := by
  intro origin v x _ h
  unfold integer at h
  split at h
  · split at h
    · cases h
      assumption
    · cases h
  · exact absurd h (mismatch_ne_ok _ _ x)

theorem yields_instant : instant.Yields Instant.Valid := by
  intro origin v t _ h
  unfold instant at h
  split at h
  · rename_i s _
    cases hread : Instant.ofText s with
    | error e => simp [hread, Except.mapError] at h
    | ok u =>
      simp only [hread, Except.mapError, Except.ok.injEq] at h
      exact h ▸ Instant.valid_of_ofText s u hread
  · exact absurd h (mismatch_ne_ok _ _ t)

/-- What may be null is absent for null only. -/
theorem option_cases (shape : Shape α) (origin : Origin) (v : Json) (x? : Option α)
    (h : option shape origin (Document.ofValue v) = .ok x?) :
    x? = none ∨ v ≠ .null ∧ ∃ x, x? = some x ∧ shape origin (Document.ofValue v) = .ok x := by
  unfold option at h
  split at h
  · exact Or.inl (Except.ok.inj h).symm
  · rename_i hnull
    refine Or.inr ⟨fun heq => hnull ((Document.ofValue_eq_null_iff v).mpr heq), ?_⟩
    cases hread : shape origin (Document.ofValue v) with
    | error e => simp [hread, Except.map] at h
    | ok x =>
      simp only [hread, Except.map, Except.ok.injEq] at h
      exact ⟨x, h.symm, rfl⟩

theorem yields_option (shape : Shape α) (P : α → Prop) (h : shape.Yields P) :
    (option shape).Yields fun x? => ∀ x ∈ x?, P x := by
  intro origin v x? hv hread
  rcases option_cases shape origin v x? hread with rfl | ⟨_, x, rfl, hx⟩
  · simp
  · simpa using h origin v x hv hx

theorem yields_option_json : (option json).Yields fun v? => ∀ v ∈ v?, v.WellFormed ∧ v ≠ .null := by
  intro origin v x? hv hread
  rcases option_cases json origin v x? hread with rfl | ⟨hnull, x, rfl, hx⟩
  · simp
  · rw [(reads_json v hv).read origin] at hx
    obtain rfl := Except.ok.inj hx
    simpa using And.intro hv hnull

theorem yields_listItems (shape : Shape α) (P : α → Prop) (h : shape.Yields P) (origin : Origin)
    (items : List Json) (hitems : ∀ v ∈ items, v.WellFormed) (xs : List α)
    (hread : listItems shape origin (Document.ofItems items) = .ok xs) : ∀ x ∈ xs, P x := by
  induction items generalizing xs with
  | nil =>
    obtain rfl := Except.ok.inj hread
    simp
  | cons v rest ih =>
    obtain ⟨y, hy, hread⟩ := exists_of_bind_eq_ok hread
    obtain ⟨ys, hys, hread⟩ := exists_of_bind_eq_ok hread
    obtain rfl := Except.ok.inj hread
    intro x hx
    rcases List.mem_cons.mp hx with rfl | hx
    · exact h origin v x (hitems v (List.mem_cons_self ..)) hy
    · exact ih (fun w hw => hitems w (List.mem_cons_of_mem _ hw)) ys hys x hx

theorem yields_list (shape : Shape α) (P : α → Prop) (h : shape.Yields P) :
    (list shape).Yields fun xs => ∀ x ∈ xs, P x := by
  intro origin v xs hv hread
  cases hv with
  | array items hitems =>
    obtain ⟨ys, hys, hread⟩ := exists_of_bind_eq_ok hread
    obtain rfl : ys = xs := Except.ok.inj hread
    exact yields_listItems shape P h origin items hitems ys hys
  | null => cases hread
  | bool b => cases hread
  | number n _ => cases hread
  | string s => cases hread
  | object members _ _ => cases hread

end Shape

end ModelForm
