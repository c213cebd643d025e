import ModelForm.Schema.Refine
import Mathlib.Data.List.Basic

/-!
Records as maps. Members are added under their names only, so the names of a record stay
pairwise distinct; a list of pairs with distinct names is already a record. Distinctness
at every depth is the invariant under which decoding a decoded document again gives the
same document.
-/

namespace ModelForm

namespace Members

theorem insert_cons (n name : String) (s schema : Schema) (rest : Members) :
    insert ((n, s) :: rest) name schema =
      if n = name then (n, schema) :: rest else (n, s) :: insert rest name schema := by
  by_cases h : n = name <;> simp [insert, exchange, h]

theorem insert_of_notMem (ms : Members) (name : String) (schema : Schema)
    (h : name ∉ ms.names) : ms.insert name schema = ms ++ [(name, schema)] := by
  induction ms with
  | nil => rfl
  | cons m rest ih =>
    obtain ⟨n, s⟩ := m
    simp only [names, List.map_cons, List.mem_cons, not_or] at h
    have hne : ¬ n = name := fun he => h.1 he.symm
    rw [insert_cons, if_neg hne, ih h.2, List.cons_append]

theorem names_insert_of_mem (ms : Members) (name : String) (schema : Schema)
    (h : name ∈ ms.names) : (ms.insert name schema).names = ms.names := by
  induction ms with
  | nil => simp [names] at h
  | cons m rest ih =>
    obtain ⟨n, s⟩ := m
    rw [insert_cons]
    by_cases hn : n = name
    · simp [hn, names]
    · simp only [names, List.map_cons, List.mem_cons] at h
      have hrest : name ∈ names rest := h.resolve_left fun he => hn he.symm
      rw [if_neg hn]
      exact congrArg (List.cons n) (ih hrest)

/-- Insertion replaces a member in its place or appends one, so no name occurs twice. -/
theorem nodup_names_insert (ms : Members) (name : String) (schema : Schema)
    (h : ms.names.Nodup) : (ms.insert name schema).names.Nodup := by
  by_cases hmem : name ∈ ms.names
  · rwa [names_insert_of_mem ms name schema hmem]
  · rw [insert_of_notMem ms name schema hmem]
    simp only [names, List.map_append, List.map_cons, List.map_nil]
    refine List.nodup_append.mpr ⟨h, List.pairwise_singleton _ _, ?_⟩
    intro a ha b hb heq
    rw [heq, List.mem_singleton.mp hb] at ha
    exact hmem ha

/-- Pairs with distinct names are the members of the record built from them. -/
theorem ofList_eq_self (pairs : List (String × Schema)) (h : (names pairs).Nodup) :
    ofList pairs = pairs := by
  have aux : ∀ ms : Members, (names (ms ++ pairs)).Nodup → pairs.foldl
      (fun (ms : Members) (pair : String × Schema) => ms.insert pair.1 pair.2) ms =
        ms ++ pairs := by
    clear h
    induction pairs with
    | nil => simp
    | cons pair rest ih =>
      intro ms hms
      have hnew : pair.1 ∉ ms.names := by
        simp only [names, List.map_append, List.map_cons, List.nodup_append] at hms
        exact fun hmem => hms.2.2 _ hmem _ (List.mem_cons_self ..) rfl
      rw [List.foldl_cons, insert_of_notMem ms pair.1 pair.2 hnew,
        ih _ (by simpa using hms), List.append_assoc, List.singleton_append]
  exact aux [] h

theorem mem_of_get?_eq_some (ms : Members) (name : String) (s : Schema)
    (h : ms.get? name = some s) : (name, s) ∈ ms := by
  induction ms with
  | nil => simp [get?] at h
  | cons m rest ih =>
    obtain ⟨n, t⟩ := m
    by_cases hn : n = name
    · subst hn
      simp only [get?, if_true, Option.some.injEq] at h
      simp [h]
    · simp only [get?, hn, if_false] at h
      exact List.mem_cons_of_mem _ (ih h)

theorem get?_of_mem (ms : Members) (hms : ms.names.Nodup) (name : String) (s : Schema)
    (h : (name, s) ∈ ms) : ms.get? name = some s := by
  induction ms with
  | nil => simp at h
  | cons m rest ih =>
    obtain ⟨n, t⟩ := m
    obtain ⟨hnew, hrest⟩ := List.nodup_cons.mp hms
    rcases List.mem_cons.mp h with heq | hmem
    · obtain ⟨rfl, rfl⟩ := Prod.mk.inj heq
      simp [get?]
    · have hne : ¬ n = name := by
        rintro rfl
        exact hnew (List.mem_map.mpr ⟨(n, s), hmem, rfl⟩)
      simpa [get?, hne] using ih hrest hmem

theorem exists_get?_iff (ms : Members) (name : String) :
    (∃ s, ms.get? name = some s) ↔ name ∈ ms.names := by
  constructor
  · rintro ⟨s, hs⟩
    exact List.mem_map_of_mem (f := Prod.fst) (mem_of_get?_eq_some ms name s hs)
  · intro h
    induction ms with
    | nil => simp [names] at h
    | cons m rest ih =>
      obtain ⟨n, t⟩ := m
      by_cases hn : n = name
      · exact ⟨t, by simp [get?, hn]⟩
      · simp only [names, List.map_cons, List.mem_cons] at h
        obtain ⟨s, hs⟩ := ih (h.resolve_left fun he => hn he.symm)
        exact ⟨s, by simpa [get?, hn] using hs⟩

theorem mem_insert (ms : Members) (name : String) (schema : Schema) (m : String × Schema)
    (h : m ∈ ms.insert name schema) : m.2 = schema ∨ m ∈ ms := by
  induction ms with
  | nil =>
    have heq : m = (name, schema) := by simpa [insert, exchange] using h
    exact Or.inl (by rw [heq])
  | cons m₀ rest ih =>
    obtain ⟨n, s⟩ := m₀
    rw [insert_cons] at h
    split at h
    · rcases List.mem_cons.mp h with rfl | hmem
      · exact Or.inl rfl
      · exact Or.inr (List.mem_cons_of_mem _ hmem)
    · rcases List.mem_cons.mp h with rfl | hmem
      · exact Or.inr (List.mem_cons_self ..)
      · exact (ih hmem).imp id (List.mem_cons_of_mem _)

end Members

/-- The members of every record in a schema have pairwise distinct names. Whatever is built by
inserting members satisfies this. -/
inductive Schema.Distinct : Schema → Prop
  | atomic (a : AtomicSchema) : Distinct (.atomic a)
  | unknown : Distinct .unknown
  | record (ms : Members) (hnames : ms.names.Nodup) (hms : ∀ m ∈ ms, Distinct m.2) :
      Distinct (.record ms)
  | optional (s : Schema) (hs : Distinct s) : Distinct (.optional s)

namespace Schema

mutual

def isDistinct : Schema → Bool
  | .atomic _ => true
  | .unknown => true
  | .record ms => decide (Members.names ms).Nodup && areDistinct ms
  | .optional s => s.isDistinct

def areDistinct : List (String × Schema) → Bool
  | [] => true
  | (_, s) :: rest => s.isDistinct && areDistinct rest

end

theorem areDistinct_iff (ms : Members) :
    areDistinct ms = true ↔ ∀ m ∈ ms, m.2.isDistinct = true := by
  induction ms with
  | nil => simp [areDistinct]
  | cons m rest ih => simp [areDistinct, ih]

theorem isDistinct_iff (s : Schema) : s.isDistinct = true ↔ s.Distinct := by
  induction s with
  | atomic a => simp [isDistinct, Distinct.atomic]
  | unknown => simp [isDistinct, Distinct.unknown]
  | record ms ih =>
    rw [isDistinct, Bool.and_eq_true, decide_eq_true_iff, areDistinct_iff]
    constructor
    · rintro ⟨hnames, hms⟩
      exact .record ms hnames fun m hm => (ih m hm).mp (hms m hm)
    · rintro (_ | _ | ⟨_, hnames, hms⟩)
      exact ⟨hnames, fun m hm => (ih m hm).mpr (hms m hm)⟩
  | optional s ih =>
    rw [isDistinct, ih]
    constructor
    · exact .optional s
    · rintro (_ | _ | _ | ⟨_, hs⟩)
      exact hs

instance (s : Schema) : Decidable s.Distinct := decidable_of_iff _ (isDistinct_iff s)

theorem Distinct.orAbsent (s : Schema) (h : s.Distinct) : s.orAbsent.Distinct := by
  cases h with
  | atomic a => exact .optional _ (.atomic a)
  | unknown => exact .optional _ .unknown
  | record ms hnames hms => exact .optional _ (.record ms hnames hms)
  | optional s hs => exact .optional s hs

theorem Distinct.constrain (suits : Kind → Bool) (c : Constraint) (s : Schema) (h : s.Distinct) :
    (s.constrain suits c).Distinct := by
  induction h with
  | atomic a =>
    unfold Schema.constrain
    split <;> exact .atomic _
  | unknown => exact .unknown
  | record ms hnames hms => exact .record ms hnames hms
  | optional s hs ih => exact .optional _ ih

end Schema

def Members.Distinct (ms : Members) : Prop := (Schema.record ms).Distinct

instance (ms : Members) : Decidable ms.Distinct :=
  inferInstanceAs (Decidable (Schema.record ms).Distinct)

namespace Members

theorem distinct_iff (ms : Members) :
    ms.Distinct ↔ ms.names.Nodup ∧ ∀ m ∈ ms, m.2.Distinct := by
  constructor
  · rintro (_ | _ | ⟨_, hnames, hms⟩)
    exact ⟨hnames, hms⟩
  · rintro ⟨hnames, hms⟩
    exact .record ms hnames hms

theorem distinct_nil : Distinct [] := .record [] List.nodup_nil (by simp)

theorem Distinct.insert (ms : Members) (h : ms.Distinct) (name : String) (s : Schema)
    (hs : s.Distinct) : (ms.insert name s).Distinct := by
  obtain ⟨hnames, hms⟩ := (distinct_iff ms).mp h
  refine (distinct_iff _).mpr ⟨nodup_names_insert ms name s hnames, ?_⟩
  intro m hm
  rcases mem_insert ms name s m hm with rfl | hmem
  · exact hs
  · exact hms m hmem

/-- A record of schemas with distinct names has distinct names at every depth, whatever names were
given for it. -/
theorem distinct_ofList (pairs : List (String × Schema)) (h : ∀ p ∈ pairs, p.2.Distinct) :
    (ofList pairs).Distinct := by
  have aux : ∀ ms : Members, ms.Distinct → Members.Distinct (pairs.foldl
      (fun (ms : Members) (pair : String × Schema) => ms.insert pair.1 pair.2) ms) := by
    induction pairs with
    | nil => exact fun ms hms => hms
    | cons pair rest ih =>
      intro ms hms
      refine ih (fun p hp => h p (List.mem_cons_of_mem _ hp)) _ ?_
      exact Distinct.insert ms hms pair.1 pair.2 (h pair (List.mem_cons_self ..))
  exact aux [] distinct_nil

end Members

end ModelForm
