import ModelForm.Json.Document
import ModelForm.Proofs.Objects
import ModelForm.Proofs.Rounding

/-!
Values as documents. The values that documents can hold have numbers of the 64-bit ranges
or finite doubles, and objects in ascending order. Any value is read from its document with
the members of its objects put in order, and one of these comes back unchanged.
-/

namespace ModelForm

def Number.Representable : Number → Prop
  | .integer i => -(2 ^ 63) ≤ i ∧ i < 2 ^ 64
  | .double x => x.isFinite = true

theorem Number.isFinite_toDouble (n : Number) (h : n.Representable) :
    n.toDouble.isFinite = true := by
  cases n with
  | integer i =>
    obtain ⟨hlow, hhigh⟩ := h
    exact Binary64.isFinite_ofInt i (by omega)
  | double x => exact h

/-- A value that a document can hold: its numbers are representable, and its objects in order. -/
inductive Json.WellFormed : Json → Prop
  | null : WellFormed .null
  | bool (b : Bool) : WellFormed (.bool b)
  | number (n : Number) (h : n.Representable) : WellFormed (.number n)
  | string (s : String) : WellFormed (.string s)
  | array (items : List Json) (h : ∀ v ∈ items, WellFormed v) : WellFormed (.array items)
  | object (members : Object) (hkeys : members.Ascending) (h : ∀ m ∈ members, WellFormed m.2) :
      WellFormed (.object members)

namespace Json

/-- Members with different keys make up an object. -/
theorem wellFormed_ofList (members : Object) (hkeys : (members.map Prod.fst).Nodup)
    (h : ∀ m ∈ members, m.2.WellFormed) : (object (Object.ofList members)).WellFormed :=
  .object _ (Object.ascending_ofList members) fun m hm =>
    h m ((Object.perm_ofList members hkeys).mem_iff.mp hm)

mutual

def sorted : Json → Json
  | .array items => .array (sortedItems items)
  | .object members => .object (Object.ofList (sortedMembers members))
  | v => v

def sortedItems : List Json → List Json
  | [] => []
  | v :: rest => v.sorted :: sortedItems rest

def sortedMembers : Object → Object
  | [] => []
  | (key, v) :: rest => (key, v.sorted) :: sortedMembers rest

end

theorem sortedItems_eq_map (items : List Json) : sortedItems items = items.map sorted := by
  induction items with
  | nil => rfl
  | cons v rest ih => rw [sortedItems, ih, List.map_cons]

theorem sortedMembers_eq_map (members : Object) :
    sortedMembers members = members.map fun m => (m.1, m.2.sorted) := by
  induction members with
  | nil => rfl
  | cons m rest ih =>
    obtain ⟨key, v⟩ := m
    rw [sortedMembers, ih, List.map_cons]

theorem sorted_eq_self (v : Json) (h : v.WellFormed) : v.sorted = v := by
  induction h with
  | array items _ ih =>
    rw [sorted, sortedItems_eq_map, List.map_congr_left ih, List.map_id']
  | object members hkeys _ ih =>
    have hmembers : ∀ m ∈ members, (m.1, m.2.sorted) = m := fun m hm => by rw [ih m hm]
    rw [sorted, sortedMembers_eq_map, List.map_congr_left hmembers, List.map_id',
      Object.ofList_eq_self members hkeys]
  | _ => simp [sorted]

end Json

namespace Document

theorem ofItems_eq_map (items : List Json) : ofItems items = items.map ofValue := by
  induction items with
  | nil => rfl
  | cons v rest ih => rw [ofItems, ih, List.map_cons]

theorem ofMembers_eq_map (members : Object) :
    ofMembers members = members.map fun m => (.ok m.1, ofValue m.2) := by
  induction members with
  | nil => rfl
  | cons m rest ih =>
    obtain ⟨key, v⟩ := m
    rw [ofMembers, ih, List.map_cons]

theorem ofValue_eq_null_iff (v : Json) : ofValue v = .null ↔ v = .null := by
  cases v <;> simp [ofValue]

mutual

/-- A document without faults is read as its value, with the members in order. -/
theorem value_ofValue_sorted : ∀ v : Json, (ofValue v).value = .ok v.sorted
  | .null => rfl
  | .bool _ => rfl
  | .number _ => rfl
  | .string _ => rfl
  | .array items => by
    rw [ofValue, value, valueItems_ofItems items]
    rfl
  | .object members => by
    rw [ofValue, value, valueMembers_ofMembers members []]
    rfl

theorem valueItems_ofItems :
    ∀ items : List Json, valueItems (ofItems items) = .ok (Json.sortedItems items)
  | [] => rfl
  | v :: rest => by
    rw [ofItems, valueItems, value_ofValue_sorted v, valueItems_ofItems rest]
    rfl

theorem valueMembers_ofMembers : ∀ members read : Object, valueMembers (ofMembers members) read =
    .ok ((Json.sortedMembers members).foldl (fun o m => o.insert m.1 m.2) read)
  | [], _ => rfl
  | (key, v) :: rest, read => by
    rw [ofMembers, valueMembers, value_ofValue_sorted v, Json.sortedMembers, List.foldl_cons,
      ← valueMembers_ofMembers rest]
    rfl

end

/-- A well-formed value is what its document is read as. -/
theorem value_ofValue (v : Json) (h : v.WellFormed) : (ofValue v).value = .ok v := by
  rw [value_ofValue_sorted, Json.sorted_eq_self v h]

end Document

end ModelForm
