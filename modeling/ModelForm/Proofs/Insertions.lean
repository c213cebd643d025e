import ModelForm.Compile
import ModelForm.Proofs.Records
import Mathlib.Data.Finset.Card

/-!
What a sequence of insertions makes of the empty record. Every insertion replaces the member
in its place or appends one, and answers with the schema that was there. So the record lists
the names in the order in which they first came, each with the schema that came last, and no
other reading of it says anything else. A compiled model is such a record, with one insertion
for each field.
-/

namespace ModelForm

namespace Members

def insertAll (ms : Members) : List (String × Schema) → List (Option Schema) × Members
  | [] => ([], ms)
  | (name, schema) :: rest =>
    let (replaced, ms) := ms.exchange name schema
    let (others, ms) := insertAll ms rest
    (replaced :: others, ms)

theorem insertAll_cons (ms : Members) (m : String × Schema) (rest : List (String × Schema)) :
    ms.insertAll (m :: rest) =
      (ms.get? m.1 :: ((ms.insert m.1 m.2).insertAll rest).1,
        ((ms.insert m.1 m.2).insertAll rest).2) := by
  rw [← exchange_fst ms m.1 m.2]
  rfl

theorem insertAll_snd (ms : Members) (pairs : List (String × Schema)) :
    (ms.insertAll pairs).2 = pairs.foldl (fun ms pair => ms.insert pair.1 pair.2) ms := by
  induction pairs generalizing ms with
  | nil => rfl
  | cons m rest ih => rw [insertAll_cons, ih, List.foldl_cons]

/-- The record has the names of the pairs in the order in which they first come, no name twice, and
under each name the schema that comes last. -/
structure Gathers (ms : Members) (pairs : List (String × Schema)) : Prop where
  distinct : ms.names.Nodup
  names : ms.names = (pairs.map Prod.fst).eraseDups
  get? : ∀ n, ms.get? n = pairs.reverse.lookup n

theorem gathers_nil : Gathers [] [] := ⟨List.nodup_nil, rfl, fun _ => rfl⟩

/-- One more pair is gathered by inserting it. -/
theorem Gathers.insert (ms : Members) (pairs : List (String × Schema)) (h : ms.Gathers pairs)
    (name : String) (schema : Schema) :
    (ms.insert name schema).Gathers (pairs ++ [(name, schema)]) := by
  have hnames : (ms.insert name schema).names =
      ((pairs ++ [(name, schema)]).map Prod.fst).eraseDups := by
    have hmem : name ∈ ms.names ↔ name ∈ pairs.map Prod.fst := by rw [h.names, List.mem_eraseDups]
    rw [List.map_append, List.map_singleton, List.eraseDups_append, ← h.names]
    by_cases hname : name ∈ ms.names
    · have hold := hmem.mp hname
      rw [names_insert_of_mem ms name schema hname]
      simp [List.removeAll, hold]
    · have hnew : name ∉ pairs.map Prod.fst := fun hold => hname (hmem.mpr hold)
      rw [insert_of_notMem ms name schema hname]
      simp [List.removeAll, hnew, Members.names, List.eraseDups_cons]
  refine ⟨nodup_names_insert ms name schema h.distinct, hnames, ?_⟩
  intro n
  rw [List.reverse_append, List.reverse_singleton, List.singleton_append, List.lookup_cons]
  by_cases hn : n = name
  · subst hn
    rw [beq_self_eq_true, get?_insert_self]
  · rw [beq_eq_false_iff_ne.mpr hn, get?_insert_of_ne ms schema hn, h.get?]

/-- A whole sequence of insertions gathers its pairs behind those that the record already has, and
each insertion is answered by the schema that was the last one under its name. -/
theorem Gathers.insertAll (ms : Members) (before : List (String × Schema)) (h : ms.Gathers before)
    (pairs : List (String × Schema)) :
    (ms.insertAll pairs).2.Gathers (before ++ pairs) ∧
      (ms.insertAll pairs).1 = List.ofFn fun i : Fin pairs.length =>
        (before ++ pairs.take i).reverse.lookup pairs[i].1 := by
  induction pairs generalizing ms before with
  | nil => exact ⟨by simpa [Members.insertAll] using h, rfl⟩
  | cons m rest ih =>
    obtain ⟨hrest, hreplies⟩ := ih (ms.insert m.1 m.2) (before ++ [m]) (h.insert ms before m.1 m.2)
    rw [insertAll_cons]
    refine ⟨by simpa using hrest, ?_⟩
    rw [hreplies, h.get?, List.ofFn_succ]
    simp

theorem gathers_insertAll (pairs : List (String × Schema)) :
    (insertAll [] pairs).2.Gathers pairs :=
  (gathers_nil.insertAll [] [] pairs).1

theorem insertAll_snd_eq_ofList (pairs : List (String × Schema)) :
    (insertAll [] pairs).2 = ofList pairs := insertAll_snd [] pairs

theorem get?_eq_lookup (ms : Members) (n : String) : ms.get? n = List.lookup n ms := by
  induction ms with
  | nil => rfl
  | cons m rest ih =>
    rw [Members.get?, List.lookup_cons, ih, BEq.comm]
    by_cases h : m.1 = n
    · rw [if_pos h, beq_iff_eq.mpr h]
    · rw [if_neg h, beq_eq_false_iff_ne.mpr h]

theorem mem_iff_get? (ms : Members) (hms : ms.names.Nodup) (n : String) (s : Schema) :
    (n, s) ∈ ms ↔ ms.get? n = some s :=
  ⟨get?_of_mem ms hms n s, mem_of_get?_eq_some ms n s⟩

end Members

/-- Looking up a name among pairs made from fields is looking for a field of that name. -/
theorem Field.lookup_map {α : Type} (g : Field → α) (fields : List Field) (n : String) :
    (fields.map fun f => (f.name, g f)).lookup n = (fields.find? fun f => f.name == n).map g := by
  induction fields with
  | nil => rfl
  | cons f rest ih =>
    rw [List.map_cons, List.lookup_cons, List.find?_cons, ih, BEq.comm]
    cases f.name == n <;> rfl

namespace Compiler

variable (c : Compiler) (m : Model)

/-- Compiling a model inserts its fields one after the other. -/
theorem gathers_compile :
    (c.compile m).Gathers (m.fields.map fun f => (f.name, c.compileField f)) := by
  rw [compile, ← Members.insertAll_snd_eq_ofList]
  exact Members.gathers_insertAll _

theorem get?_compile (n : String) : (c.compile m).get? n =
    (m.fields.reverse.find? fun f => f.name == n).map c.compileField := by
  rw [(gathers_compile c m).get?, ← List.map_reverse, Field.lookup_map]

end Compiler

/-- Insertions into the empty record make a map that keeps the order of its keys: the names are
those that were inserted, each once and at the place of its first insertion, and whatever reads
the record finds under a name the schema of the last insertion, or nothing if there was none. Each
insertion answers with the schema that it replaced. A compiled model, with repeated names or not,
has each name at its first place, with the schema of its last definition. -/
theorem Members.insertAll_ordered :
    (∀ pairs : List (String × Schema),
      let ms := (insertAll [] pairs).2
      let last? (n : String) : Option Schema := pairs.reverse.lookup n
      ms = ofList pairs ∧
      (insertAll [] pairs).1 = (List.ofFn fun i : Fin pairs.length =>
        (pairs.take i).reverse.lookup pairs[i].1) ∧
      ms.names.Nodup ∧ ms.names = (pairs.map Prod.fst).eraseDups ∧
      ms.length = (pairs.map Prod.fst).toFinset.card ∧
      ∀ n, ms.get? n = last? n ∧ ms.contains n = (last? n).isSome ∧
        (n ∈ ms.names ↔ ∃ s, last? n = some s) ∧ (∀ s, (n, s) ∈ ms ↔ last? n = some s) ∧
        ms.pick? n = (last? n).map fun s => [(n, s)]) ∧
    ∀ (c : Compiler) (m : Model), (c.compile m).names = m.fieldNames.eraseDups ∧
      ∀ n, (c.compile m).get? n =
        (m.fields.reverse.find? fun f => f.name == n).map c.compileField := by
  constructor
  · intro pairs ms last?
    obtain ⟨hgathers, hreplies⟩ := gathers_nil.insertAll [] [] pairs
    have hlength : ms.length = (pairs.map Prod.fst).toFinset.card := by
      have hnames : ms.names.toFinset = (pairs.map Prod.fst).toFinset := by
        ext n
        rw [List.mem_toFinset, List.mem_toFinset, hgathers.names]
        exact List.mem_eraseDups
      rw [← hnames, List.toFinset_card_of_nodup hgathers.distinct, names, List.length_map]
    refine ⟨insertAll_snd_eq_ofList pairs, hreplies, hgathers.distinct, hgathers.names, hlength, ?_⟩
    intro n
    have hget : ms.get? n = last? n := hgathers.get? n
    refine ⟨hget, congrArg Option.isSome hget, ?_, ?_, congrArg (Option.map _) hget⟩
    · rw [← hget, exists_get?_iff]
    · intro s
      rw [← hget, mem_iff_get? ms hgathers.distinct]
  · intro c m
    refine ⟨?_, Compiler.get?_compile c m⟩
    rw [(Compiler.gathers_compile c m).names, List.map_map]
    rfl

/-- A name that comes back keeps its place and takes the new schema; the old one is given back. -/
example : Members.insertAll [] [("a", .unknown), ("b", .unknown), ("a", .number none)] =
    ([none, none, some .unknown], [("a", .number none), ("b", .unknown)]) := rfl

end ModelForm
