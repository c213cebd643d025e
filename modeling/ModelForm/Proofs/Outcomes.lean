import ModelForm.Outcome
import ModelForm.Proofs.RecordShapes
import ModelForm.Proofs.Texts

/-!
Outcomes on their way to a consumer and back. The members of an outcome, and of the errors
in it, come in the order in which they are written or in the order of their keys; reading
does not depend on it. What is read is the outcome again, with each step of a path of the
kind that it was, except that data that is null counts as none, which means the same.
-/

namespace ModelForm

def Json.unlessNull : Json → Option Json
  | .null => none
  | v => some v

theorem Json.unlessNull_of_ne (v : Json) (h : v ≠ .null) : v.unlessNull = some v := by
  cases v <;> simp_all [unlessNull]

theorem Shape.read_unlessNull (v : Json) (h : v.WellFormed) (origin : Origin) :
    option json origin (Document.ofValue v) = .ok v.unlessNull := by
  by_cases hnull : v = .null
  · rw [hnull]
    rfl
  · rw [Json.unlessNull_of_ne v hnull]
    exact (reads_option json v v hnull (reads_json v h)).read origin

namespace Segment

/-- Whether a document can hold the step: positions have 64 bits. -/
def Representable : Segment → Prop
  | .key _ => True
  | .index i => i < 2 ^ 64

theorem sorted_json (s : Segment) : s.json.sorted = s.json := by
  cases s <;> rfl

theorem wellFormed_json (s : Segment) (h : s.Representable) : s.json.WellFormed := by
  cases s with
  | key name => exact .string name
  | index i =>
    have hi : i < 2 ^ 64 := h
    exact .number _ ⟨by omega, by omega⟩

theorem legible_json (s : Segment) (h : s.Representable) (room : Nat) : s.json.Legible room := by
  cases s with
  | key name => exact .string room name
  | index i =>
    have hi : i < 2 ^ 64 := h
    exact .number room _ (Number.legible_integer i ⟨by omega, by omega⟩)

theorem read_json (s : Segment) (origin : Origin) :
    shape origin (Document.ofValue s.json) = .ok s := by
  simp only [shape, Shape.oneOf, Document.value_ofValue_sorted, sorted_json, Shape.ofFault,
    Except.mapError, bind, Except.bind, List.findSome?_cons, ofJson?_json]
  rfl

end Segment

namespace FieldError

def Representable (e : FieldError) : Prop := ∀ s ∈ e.path, s.Representable

def members (e : FieldError) : Object :=
  [("path", .array (e.path.map Segment.json)), ("message", .string e.message)]

theorem sorted_json (e : FieldError) : e.json.sorted = .object (Object.ofList e.members) := by
  have hpath : Json.sortedItems (e.path.map Segment.json) = e.path.map Segment.json := by
    rw [Json.sortedItems_eq_map, List.map_map]
    exact List.map_congr_left fun s _ => s.sorted_json
  simp only [json, Json.sorted, Json.sortedMembers, hpath]
  rfl

theorem legible_json (e : FieldError) (h : e.Representable) (room : Nat) :
    e.json.Legible (room + 2) := by
  refine .object (room + 1) e.members fun m hm => ?_
  rcases List.mem_pair.mp hm with rfl | rfl
  · exact .array room _ (List.forall_mem_map.mpr fun s hs => s.legible_json (h s hs) room)
  · exact .string (room + 1) e.message

theorem nodup_keys_members (e : FieldError) : (e.members.map Prod.fst).Nodup := by
  simp [members]

theorem wellFormed_sorted_json (e : FieldError) (h : e.Representable) :
    e.json.sorted.WellFormed := by
  rw [e.sorted_json]
  refine Json.wellFormed_ofList e.members e.nodup_keys_members fun m hm => ?_
  rcases List.mem_pair.mp hm with rfl | rfl
  · exact .array _ (List.forall_mem_map.mpr fun s hs => s.wellFormed_json (h s hs))
  · exact .string e.message

/-- An error is read from its members in either order. -/
theorem read_of_perm (e : FieldError) (ordered : Object) (hperm : ordered.Perm e.members)
    (origin : Origin) : shape origin (Document.ofValue (.object ordered)) = .ok e := by
  have hpath : ∀ origin, Shape.list Segment.shape origin
      (Document.ofValue (.array (e.path.map Segment.json))) = .ok e.path :=
    fun origin => Shape.read_list _ _ origin e.path fun s _ => s.read_json origin
  refine Eq.trans (RecordShape.read_of_perm _ origin ordered e.members hperm
    [fun r => { r with path := e.path }, fun r => { r with message := e.message }]
    (.cons ⟨_, rfl, ?path⟩ (.cons ⟨_, rfl, fun _ _ => rfl⟩ .nil)) ?_ ?_ ?_) rfl
  case path =>
    intro origin r
    simp [hpath, FieldShape.required, Except.map]
  · exact e.nodup_keys_members
  · simp [members, FieldShape.required]
  · simp

end FieldError

namespace Outcome

/-- What documents can hold: data that is a value of a document, and positions of 64 bits. -/
structure Representable (o : Outcome) : Prop where
  data : ∀ v ∈ o.data, v.WellFormed
  errors : ∀ es ∈ o.errors, ∀ e ∈ es, e.Representable

/-- The outcome as it is read: data that is null is none. -/
def stored (o : Outcome) : Outcome := { o with data := o.data.bind Json.unlessNull }

theorem stored_eq_self (o : Outcome) (h : o.data ≠ some .null) : o.stored = o := by
  obtain ⟨success, data, errors⟩ := o
  cases data with
  | none => rfl
  | some v =>
    have hv : v ≠ .null := fun hnull => h (congrArg some hnull)
    simp [stored, Json.unlessNull_of_ne v hv]

theorem stored_of_null (o : Outcome) (h : o.data = some .null) :
    o.stored = { o with data := none } := by
  simp [stored, h, Json.unlessNull]

/-- Null and no data mean the same. -/
theorem toExcept_stored (o : Outcome) : o.stored.toExcept = o.toExcept := by
  by_cases hnull : o.data = some .null
  · simp [stored, toExcept, hnull, Json.unlessNull]
  · rw [stored_eq_self o hnull]

def members (write : FieldError → Json) (o : Outcome) : Object :=
  [("success", Json.bool o.success)] ++ (o.data.map fun v => ("data", v)).toList ++
    (o.errors.map fun es => ("errors", Json.array (es.map write))).toList

theorem nodup_keys_members (write : FieldError → Json) (o : Outcome) :
    ((o.members write).map Prod.fst).Nodup := by
  unfold members
  cases o.data <;> cases o.errors <;> simp

theorem sorted_json (o : Outcome) (h : ∀ v ∈ o.data, v.WellFormed) :
    o.json.sorted = .object (Object.ofList (o.members fun e => e.json.sorted)) := by
  have hmembers : Json.sortedMembers (o.members FieldError.json) =
      o.members fun e => e.json.sorted := by
    unfold members
    cases hdata : o.data with
    | none =>
      cases o.errors <;>
        simp [Json.sortedMembers, Json.sorted, Json.sortedItems_eq_map, Function.comp_def]
    | some v =>
      have hv := Json.sorted_eq_self v (h v hdata)
      cases o.errors <;>
        simp [Json.sortedMembers, hv, Json.sorted, Json.sortedItems_eq_map, Function.comp_def]
  rw [← hmembers]
  rfl

theorem mem_members_cases (write : FieldError → Json) (o : Outcome) (m : String × Json)
    (hm : m ∈ o.members write) : m = ("success", .bool o.success) ∨
      (∃ v ∈ o.data, m = ("data", v)) ∨
      ∃ es ∈ o.errors, m = ("errors", .array (es.map write)) := by
  simp only [members, List.mem_append, List.mem_singleton, Option.mem_toList,
    Option.map_eq_some_iff] at hm
  rcases hm with (hsuccess | ⟨v, hv, rfl⟩) | ⟨es, hes, rfl⟩
  · exact Or.inl hsuccess
  · exact Or.inr (Or.inl ⟨v, hv, rfl⟩)
  · exact Or.inr (Or.inr ⟨es, hes, rfl⟩)

theorem wellFormed_sorted_json (o : Outcome) (h : o.Representable) : o.json.sorted.WellFormed := by
  rw [o.sorted_json h.data]
  refine Json.wellFormed_ofList _ (o.nodup_keys_members _) fun m hm => ?_
  rcases o.mem_members_cases _ m hm with rfl | ⟨v, hv, rfl⟩ | ⟨es, hes, rfl⟩
  · exact .bool o.success
  · exact h.data v hv
  · exact .array _ (List.forall_mem_map.mpr fun e he =>
      e.wellFormed_sorted_json (h.errors es hes e he))

/-- An outcome is read from its members in any order. -/
theorem read_of_perm (o : Outcome) (write : FieldError → Json) (ordered : Object)
    (hperm : ordered.Perm (o.members write)) (hdata : ∀ v ∈ o.data, v.WellFormed)
    (hwrite : ∀ e origin, FieldError.shape origin (Document.ofValue (write e)) = .ok e)
    (origin : Origin) : shape origin (Document.ofValue (.object ordered)) = .ok o.stored := by
  refine Eq.trans (RecordShape.read_of_perm _ origin ordered _ hperm
    ([fun r => { r with success := o.success }] ++
      (o.data.map fun v r => { r with data := v.unlessNull }).toList ++
      (o.errors.map fun es r => { r with errors := some es }).toList)
    (List.rel_append (List.rel_append (.cons ⟨_, rfl, fun _ _ => rfl⟩ .nil) ?data) ?errors)
    (o.nodup_keys_members write) ?present ?commute) ?all
  case data =>
    cases hv : o.data with
    | none => exact .nil
    | some v =>
      have hread := Shape.read_unlessNull v (hdata v hv)
      exact .cons ⟨_, rfl, fun origin r => by simp [FieldShape.defaulted, hread, Except.map]⟩ .nil
  case errors =>
    cases o.errors with
    | none => exact .nil
    | some es =>
      have hread : ∀ origin, Shape.option (.list FieldError.shape) origin
          (Document.ofValue (.array (es.map write))) = .ok (some es) := by
        intro origin
        have hlist := Shape.read_list FieldError.shape write origin es fun e _ => hwrite e origin
        simp only [Shape.option, Document.ofValue] at hlist ⊢
        rw [hlist]
        rfl
      exact .cons ⟨_, rfl, fun origin r => by simp [FieldShape.defaulted, hread, Except.map]⟩ .nil
  case present =>
    simp [members, FieldShape.required, FieldShape.defaulted]
  case commute =>
    cases o.data <;> cases o.errors <;> simp
  case all =>
    obtain ⟨success, data, errors⟩ := o
    cases data <;> cases errors <;> rfl

theorem read_json (o : Outcome) (hdata : ∀ v ∈ o.data, v.WellFormed) (origin : Origin) :
    shape origin (Document.ofValue o.json) = .ok o.stored :=
  o.read_of_perm FieldError.json _ (.refl _) hdata
    (fun e origin => e.read_of_perm e.members (.refl _) origin) origin

theorem read_sorted (o : Outcome) (hdata : ∀ v ∈ o.data, v.WellFormed) (origin : Origin) :
    shape origin (Document.ofValue o.json.sorted) = .ok o.stored := by
  rw [o.sorted_json hdata]
  refine o.read_of_perm (fun e => e.json.sorted) _
    (Object.perm_ofList _ (o.nodup_keys_members _)) hdata (fun e origin => ?_) origin
  rw [e.sorted_json]
  exact e.read_of_perm _ (Object.perm_ofList _ e.nodup_keys_members) origin

/-- Around the data there is one bracket more. -/
theorem legible_json (o : Outcome) (h : o.Representable) (room : Nat)
    (hdata : ∀ v ∈ o.data, v.Legible (room + 3)) : o.json.Legible (room + 4) := by
  refine .object (room + 3) (o.members FieldError.json) fun m hm => ?_
  rcases o.mem_members_cases _ m hm with rfl | ⟨v, hv, rfl⟩ | ⟨es, hes, rfl⟩
  · exact .bool (room + 3) o.success
  · exact hdata v hv
  · exact .array (room + 2) _ (List.forall_mem_map.mpr fun e he =>
      e.legible_json (h.errors es hes e he) room)

/-- An outcome is read again from its value, and also from its text if its data is legible there.
Its meaning stays the same, with each step of a path of its kind, and so does all of it unless its
data is null. -/
theorem reads_back (o : Outcome) (h : o.Representable) :
    (Document.ofValue o.json).value = .ok o.json.sorted ∧ o.json.sorted.WellFormed ∧
    shape.ofValue o.json.sorted = .ok o.stored ∧
    ((∀ v ∈ o.data, v.Legible (Document.depthLimit - 1)) →
      shape.ofText o.json.compact = .ok o.stored ∧ shape.ofText o.json.pretty = .ok o.stored) ∧
    o.stored.toExcept = o.toExcept ∧
    (o.data = some .null → o.stored = { o with data := none }) ∧
    (o.data ≠ some .null → o.stored = o) := by
  refine ⟨Document.value_ofValue_sorted o.json, o.wellFormed_sorted_json h,
    o.read_sorted h.data .value, fun hlegible => ?_, o.toExcept_stored, o.stored_of_null,
    o.stored_eq_self⟩
  obtain ⟨hcompact, hpretty⟩ := Document.ofText_written o.json (o.legible_json h 123 hlegible)
  have hread := o.read_json h.data .text
  simp only [Shape.ofText, hcompact, hpretty, hread]
  exact ⟨rfl, rfl⟩

/-- A failure with data that is null, and with a path on which a key looks like a position. -/
def secondItem : Outcome where
  success := false
  data := some .null
  errors := some [⟨[.key "items", .key "0", .index 0], "Required"⟩, ⟨[], "Unexpected"⟩]

/-- Null is read as no data, and the key that looks like a position stays a key. -/
theorem reads_back_secondItem :
    secondItem.Representable ∧
    secondItem.json.compact = "\x7b\"success\":false,\"data\":null,\"errors\":[" ++
      "\x7b\"path\":[\"items\",\"0\",0],\"message\":\"Required\"\x7d," ++
      "\x7b\"path\":[],\"message\":\"Unexpected\"\x7d]\x7d" ∧
    shape.ofText secondItem.json.compact = .ok { secondItem with data := none } ∧
    secondItem.toExcept = .error
      [⟨[.key "items", .key "0", .index 0], "Required"⟩, ⟨[], "Unexpected"⟩] := by
  have hrepresentable : secondItem.Representable := by
    constructor
    · intro v hv
      obtain rfl : .null = v := Option.some.inj hv
      exact .null
    · intro es hes e he s hs
      obtain rfl := Option.some.inj hes
      simp only [List.mem_cons, List.not_mem_nil, or_false] at he
      rcases he with rfl | rfl
      · simp only [List.mem_cons, List.not_mem_nil, or_false] at hs
        rcases hs with rfl | rfl | rfl <;> simp [Segment.Representable]
      · simp at hs
  obtain ⟨-, -, -, htext, -, hnull, -⟩ := secondItem.reads_back hrepresentable
  have hread := (htext fun v hv => by
    obtain rfl : .null = v := Option.some.inj hv
    exact .null _).1
  exact ⟨hrepresentable, by cbv, hread.trans (congrArg _ (hnull rfl)), rfl⟩

end Outcome

end ModelForm
