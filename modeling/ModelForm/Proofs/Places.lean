import ModelForm.Proofs.Records
import ModelForm.Proofs.Verdicts
import Mathlib.Data.List.Nodup

/-!
Places in a schema. A path of names leads through records to a node of the schema, looking
through what is optional, and through objects to a value or to none. Decoding visits a
node only where each record on the way holds an object and the node is not excused; there
the verdict is that of the node on its value. With distinct names no two nodes have one
path, and the list of all paths holds each of them once.
-/

namespace ModelForm

def Json.follow (v : Option Json) (path : List String) : Option Json :=
  path.foldl (fun v name => v.bind (·.member? name)) v

theorem Json.follow_none (path : List String) : Json.follow none path = none := by
  induction path with
  | nil => rfl
  | cons name rest ih => exact ih

/-- A path with a value at its end leads through objects. -/
theorem Json.exists_object_of_follow_cons (v : Option Json) (name : String)
    (rest : List String) (w : Json) (h : Json.follow v (name :: rest) = some w) :
    ∃ o, v = some (.object o) := by
  have hmember : v.bind (·.member? name) ≠ none := by
    intro hnone
    have hstep : Json.follow v (name :: rest) = Json.follow (v.bind (·.member? name)) rest := rfl
    rw [hstep, hnone, Json.follow_none] at h
    simp at h
  cases v with
  | none => exact absurd rfl hmember
  | some v =>
    cases v with
    | object o => exact ⟨o, rfl⟩
    | _ => exact absurd rfl hmember

namespace Schema

def core : Schema → Schema
  | .optional s => s.core
  | s => s

/-- Whether a value may be absent, and is absent or null. -/
def excuses : Schema → Option Json → Bool
  | .optional _, none => true
  | .optional _, some .null => true
  | _, _ => false

def follow (s : Schema) : List String → Option Schema
  | [] => some s.core
  | name :: rest =>
    match s.core with
    | .record ms => (Members.get? ms name).bind fun m => m.follow rest
    | _ => none

def member? (s : Schema) (v : Option Json) (name : String) : Option (Schema × Option Json) :=
  match s.core, v with
  | .record ms, some (.object o) => (Members.get? ms name).map fun m => (m, Object.get? o name)
  | _, _ => none

/-- The node at the end of a path with the value there, if decoding comes to it. -/
def place? (s : Schema) (v : Option Json) : List String → Option (Schema × Option Json)
  | [] => if s.excuses v then none else some (s.core, v)
  | name :: rest => (s.member? v name).bind fun p => p.1.place? p.2 rest

mutual

/-- The paths to all nodes, each record in front of its members, these in declared order. -/
def paths : Schema → List (List String)
  | .atomic _ => [[]]
  | .unknown => [[]]
  | .record ms => [] :: memberPaths ms
  | .optional s => s.paths

def memberPaths : List (String × Schema) → List (List String)
  | [] => []
  | (name, s) :: rest => s.paths.map (List.cons name) ++ memberPaths rest

end

theorem memberPaths_eq (ms : Members) :
    memberPaths ms = ms.flatMap fun m => m.2.paths.map (List.cons m.1) := by
  induction ms with
  | nil => rfl
  | cons m rest ih =>
    obtain ⟨name, s⟩ := m
    rw [memberPaths, ih, List.flatMap_cons]

/-- What is found on the paths through a record, member by member. -/
theorem filterMap_memberPaths {α : Type} (ms : Members) (f : List String → Option α) :
    (memberPaths ms).filterMap f =
      ms.flatMap fun m => m.2.paths.filterMap fun rest => f (m.1 :: rest) := by
  rw [memberPaths_eq, List.filterMap_flatMap]
  refine List.flatMap_congr ?_
  intro m _
  rw [List.filterMap_map]
  rfl

theorem follow_optional (s : Schema) (path : List String) :
    (Schema.optional s).follow path = s.follow path := by
  cases path <;> rfl

theorem follow_record_cons (ms : Members) (name : String) (rest : List String) :
    (Schema.record ms).follow (name :: rest) = (ms.get? name).bind fun m => m.follow rest := rfl

/-- The listed paths are those that lead to a node. -/
theorem mem_paths_iff (s : Schema) (hs : s.Distinct) (path : List String) :
    path ∈ s.paths ↔ (s.follow path).isSome = true := by
  induction hs generalizing path with
  | atomic a => cases path <;> simp [paths, follow, core]
  | unknown => cases path <;> simp [paths, follow, core]
  | record ms hnames hms ih =>
    cases path with
    | nil => simp [paths, follow]
    | cons name rest =>
      simp only [paths, List.mem_cons, reduceCtorEq, false_or, memberPaths_eq, List.mem_flatMap,
        List.mem_map, List.cons.injEq, follow_record_cons, Option.isSome_bind, Option.any_eq_true]
      constructor
      · rintro ⟨m, hm, _, hrest, rfl, rfl⟩
        exact ⟨m.2, Members.get?_of_mem ms hnames m.1 m.2 hm, (ih m hm _).mp hrest⟩
      · rintro ⟨s, hs, hrest⟩
        have hm := Members.mem_of_get?_eq_some ms name s hs
        exact ⟨(name, s), hm, rest, (ih _ hm rest).mpr hrest, rfl, rfl⟩
  | optional s hs ih => rw [follow_optional, ← ih path, paths]

/-- With distinct names no two nodes have one path. -/
theorem nodup_paths (s : Schema) (hs : s.Distinct) : s.paths.Nodup := by
  induction hs with
  | atomic a => exact List.nodup_singleton _
  | unknown => exact List.nodup_singleton _
  | record ms hnames hms ih =>
    rw [paths, memberPaths_eq]
    refine List.nodup_cons.mpr ⟨by simp, List.nodup_flatMap.mpr ⟨?_, ?_⟩⟩
    · intro m hm
      exact (ih m hm).map (List.cons_injective)
    · refine (List.pairwise_map.mp hnames).imp ?_
      rintro m n hne path hm hn
      obtain ⟨p, _, rfl⟩ := List.mem_map.mp hm
      obtain ⟨q, _, heq⟩ := List.mem_map.mp hn
      exact hne (List.cons.inj heq).1.symm
  | optional s hs ih => exact ih

theorem excuses_iff (s : Schema) (v : Option Json) :
    s.excuses v = true ↔ s.isOptional = true ∧ (v = none ∨ v = some .null) := by
  cases s with
  | optional s =>
    rcases v with _ | v
    · simp [excuses, isOptional]
    · cases v <;> simp [excuses, isOptional]
  | _ => simp [excuses, isOptional]

/-- What is not excused is judged by the node. -/
theorem judge_eq_core (s : Schema) (v : Option Json) (h : s.excuses v = false) :
    s.judge v = s.core.judge v := by
  induction s with
  | optional s ih =>
    have hpresent : ¬ (v = none ∨ v = some .null) := by
      intro habsent
      have hexcuses := (excuses_iff (.optional s) v).mpr ⟨rfl, habsent⟩
      simp [hexcuses] at h
    have hinner : s.excuses v = false := by
      refine Bool.eq_false_iff.mpr fun hs => hpresent ((excuses_iff s v).mp hs).2
    obtain ⟨hnone, hnull⟩ := not_or.mp hpresent
    rw [judge_optional_present s v hnone hnull, ih hinner]
    rfl
  | _ => rfl

theorem member?_eq_some_iff (s : Schema) (v : Option Json) (name : String)
    (p : Schema × Option Json) : s.member? v name = some p ↔ ∃ ms o, s.core = .record ms ∧
      v = some (.object o) ∧ Members.get? ms name = some p.1 ∧ Object.get? o name = p.2 := by
  unfold member?
  split
  · rename_i ms o hcore
    simp [hcore, Option.map_eq_some_iff, Prod.ext_iff]
  · rename_i hother
    refine ⟨fun h => by simp at h, ?_⟩
    rintro ⟨ms, o, hcore, rfl, _⟩
    exact absurd rfl (hother ms o hcore)

theorem place?_nil_eq_some_iff (s : Schema) (v : Option Json) (p : Schema × Option Json) :
    s.place? v [] = some p ↔ s.excuses v = false ∧ (s.core, v) = p := by
  cases h : s.excuses v <;> simp [place?, h]

/-- Decoding starts at the root, unless that may be absent. -/
theorem place?_nil (s : Schema) (v : Option Json) (h : s.isOptional = false) :
    s.place? v [] = some (s, v) := by
  have hexcuses : s.excuses v = false := Bool.eq_false_iff.mpr (by simp [excuses_iff, h])
  have hcore : s.core = s := by cases s <;> simp_all [core, isOptional]
  exact (place?_nil_eq_some_iff s v _).mpr ⟨hexcuses, by rw [hcore]⟩

theorem place?_cons_eq_some_iff (s : Schema) (v : Option Json) (name : String)
    (rest : List String) (p : Schema × Option Json) : s.place? v (name :: rest) = some p ↔
      ∃ m w, s.member? v name = some (m, w) ∧ m.place? w rest = some p := by
  simp [place?, Option.bind_eq_some_iff]

/-- The places inside of a member are places of the record. -/
theorem place?_record_cons (ms : Members) (hnames : ms.names.Nodup) (o : Object)
    (m : String × Schema) (hm : m ∈ ms) (rest : List String) :
    (Schema.record ms).place? (some (.object o)) (m.1 :: rest) =
      m.2.place? (o.get? m.1) rest := by
  have hmember : (Schema.record ms).member? (some (.object o)) m.1 = some (m.2, o.get? m.1) :=
    (member?_eq_some_iff _ _ _ _).mpr
      ⟨ms, o, rfl, rfl, Members.get?_of_mem ms hnames m.1 m.2 hm, rfl⟩
  rw [place?, hmember, Option.bind_some]

/-- Where decoding comes to is where the path leads, in the schema and in the value. -/
theorem follow_of_place? (s : Schema) (v : Option Json) (path : List String) (node : Schema)
    (w : Option Json) (h : s.place? v path = some (node, w)) :
    s.follow path = some node ∧ Json.follow v path = w := by
  induction path generalizing s v with
  | nil =>
    obtain ⟨_, heq⟩ := (place?_nil_eq_some_iff s v _).mp h
    obtain ⟨rfl, rfl⟩ := Prod.mk.inj heq
    exact ⟨rfl, rfl⟩
  | cons name rest ih =>
    obtain ⟨m, u, hmember, hrest⟩ := (place?_cons_eq_some_iff s v name rest _).mp h
    obtain ⟨ms, o, hcore, rfl, hm, rfl⟩ := (member?_eq_some_iff s v name _).mp hmember
    obtain ⟨hnode, hvalue⟩ := ih m _ hrest
    exact ⟨by simp [follow, hcore, hm, hnode], hvalue⟩

/-- Where a path leads to a node, and to a value that is not null, decoding comes to it. -/
theorem place?_of_follow (s : Schema) (v : Option Json) (path : List String) (node : Schema)
    (w : Json) (hnode : s.follow path = some node) (hvalue : Json.follow v path = some w)
    (hnull : w ≠ .null) : s.place? v path = some (node, some w) := by
  induction path generalizing s v with
  | nil =>
    obtain rfl : v = some w := hvalue
    have hexcuses : s.excuses (some w) = false :=
      Bool.eq_false_iff.mpr (by simp [excuses_iff, hnull])
    rw [place?_nil_eq_some_iff, Option.some.inj hnode]
    exact ⟨hexcuses, rfl⟩
  | cons name rest ih =>
    rw [follow] at hnode
    cases hcore : s.core with
    | record ms =>
      rw [hcore] at hnode
      obtain ⟨m, hm, hrest⟩ := Option.bind_eq_some_iff.mp hnode
      obtain ⟨o, rfl⟩ := Json.exists_object_of_follow_cons v name rest w hvalue
      refine (place?_cons_eq_some_iff s _ name rest _).mpr ⟨m, Object.get? o name, ?_, ?_⟩
      · exact (member?_eq_some_iff s _ name _).mpr ⟨ms, o, hcore, rfl, hm, rfl⟩
      · exact ih m (Object.get? o name) hrest hvalue
    | _ => simp [hcore] at hnode

theorem abort?_record_object (ms : Members) (o : Object) :
    ((Schema.record ms).judge (some (.object o))).abort? =
      (memberVerdicts ms o).findSome? fun v => v.2.abort? := by
  rw [judge, Verdict.abort?_map, judgeMembers_eq, Verdict.abort?_collect]

/-- If decoding is not cut short, it is not cut short at any place. -/
theorem abort?_of_place? (s : Schema) (v : Option Json) (path : List String) (node : Schema)
    (w : Option Json) (hs : (s.judge v).abort? = none) (h : s.place? v path = some (node, w)) :
    (node.judge w).abort? = none := by
  induction path generalizing s v with
  | nil =>
    obtain ⟨hexcuses, heq⟩ := (place?_nil_eq_some_iff s v _).mp h
    obtain ⟨rfl, rfl⟩ := Prod.mk.inj heq
    rwa [← judge_eq_core s _ hexcuses]
  | cons name rest ih =>
    obtain ⟨m, u, hmember, hrest⟩ := (place?_cons_eq_some_iff s v name rest _).mp h
    obtain ⟨ms, o, hcore, rfl, hm, rfl⟩ := (member?_eq_some_iff s v name _).mp hmember
    have hexcuses : s.excuses (some (.object o)) = false := by
      refine Bool.eq_false_iff.mpr ?_
      simp [excuses_iff]
    rw [judge_eq_core s _ hexcuses, hcore, abort?_record_object] at hs
    refine ih m _ ?_ hrest
    exact List.findSome?_eq_none_iff.mp hs (name, m.judge (Object.get? o name))
      (List.mem_map.mpr ⟨(name, m), Members.mem_of_get?_eq_some ms name m hm, rfl⟩)

end Schema

end ModelForm
