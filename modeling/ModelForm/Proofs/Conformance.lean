import ModelForm.Proofs.Stability

/-!
What decoding accepts and what it gives. Whether a value conforms to a schema and what the
schema keeps of it are stated apart, without errors and without order; decoding accepts
exactly the conforming values and gives exactly what is kept of them. Members that a record
does not declare play no part in this: values that differ in such members only, at whatever
depth, are judged alike, and none of them is left in a decoded value.
-/

namespace ModelForm

namespace Schema

inductive Conforms : Schema → Option Json → Prop
  | atomic (a : AtomicSchema) (v : Json) (hkind : a.kind.accepts v = true)
      (hconstraints : ∀ c ∈ a.constraints, c.requirement.holds v = .ok true) :
      Conforms (.atomic a) (some v)
  | unknown (v : Option Json) : Conforms .unknown v
  | absent (s : Schema) : Conforms (.optional s) none
  | null (s : Schema) : Conforms (.optional s) (some .null)
  | present (s : Schema) (v : Option Json) (h : Conforms s v) : Conforms (.optional s) v
  | record (ms : Members) (o : Object) (hms : ∀ m ∈ ms, Conforms m.2 (o.get? m.1)) :
      Conforms (.record ms) (some (.object o))

mutual

/-- What a schema keeps of a value that conforms to it: of a record the declared members. -/
def project : Schema → Option Json → Option Json
  | .atomic _, v => v
  | .unknown, v => v
  | .record ms, v =>
    match v with
    | some (.object o) => some (.object (Object.ofList (projectMembers ms o)))
    | _ => none
  | .optional s, v =>
    match v with
    | none => none
    | some .null => none
    | some v => s.project (some v)

def projectMembers : List (String × Schema) → Object → List (String × Json)
  | [], _ => []
  | (name, s) :: rest, o =>
    ((s.project (o.get? name)).map (Prod.mk name)).toList ++ projectMembers rest o

end

/-- Values that differ in undeclared members only. -/
inductive Alike : Schema → Option Json → Option Json → Prop
  | same (s : Schema) (v : Option Json) : Alike s v v
  | optional (s : Schema) (v w : Option Json) (h : Alike s v w) : Alike (.optional s) v w
  | record (ms : Members) (o p : Object) (hms : ∀ m ∈ ms, Alike m.2 (o.get? m.1) (p.get? m.1)) :
      Alike (.record ms) (some (.object o)) (some (.object p))

inductive Declares : Schema → Json → Prop
  | atomic (a : AtomicSchema) (v : Json) : Declares (.atomic a) v
  | unknown (v : Json) : Declares .unknown v
  | null (s : Schema) : Declares (.optional s) .null
  | optional (s : Schema) (v : Json) (h : Declares s v) : Declares (.optional s) v
  | record (ms : Members) (o : Object) (hkeys : ∀ key ∈ o.keys, key ∈ ms.names)
      (hms : ∀ m ∈ ms, ∀ v, o.get? m.1 = some v → Declares m.2 v) :
      Declares (.record ms) (.object o)

theorem projectMembers_eq (ms : Members) (o : Object) :
    projectMembers ms o =
      ms.filterMap fun m => (m.2.project (o.get? m.1)).map (Prod.mk m.1) := by
  induction ms with
  | nil => rfl
  | cons m rest ih =>
    obtain ⟨name, s⟩ := m
    rw [projectMembers, ih, List.filterMap_cons]
    cases s.project (o.get? name) <;> rfl

theorem project_optional_absent (s : Schema) (v : Option Json) (h : v = none ∨ v = some .null) :
    (Schema.optional s).project v = none := by
  rcases h with rfl | rfl <;> simp [project]

theorem project_optional_present (s : Schema) (v : Option Json) (hnone : v ≠ none)
    (hnull : v ≠ some .null) : (Schema.optional s).project v = s.project v := by
  cases v with
  | none => exact absurd rfl hnone
  | some v => cases v <;> simp_all [project]

theorem conforms_optional_absent (s : Schema) (v : Option Json) (h : v = none ∨ v = some .null) :
    (Schema.optional s).Conforms v := by
  rcases h with rfl | rfl
  · exact .absent s
  · exact .null s

theorem conforms_optional_present (s : Schema) (v : Option Json) (hnone : v ≠ none)
    (hnull : v ≠ some .null) : (Schema.optional s).Conforms v ↔ s.Conforms v := by
  constructor
  · rintro (_ | _ | _ | _ | ⟨_, _, h⟩)
    · exact absurd rfl hnone
    · exact absurd rfl hnull
    · exact h
  · exact .present s v

theorem conforms_atomic_iff (a : AtomicSchema) (v : Json) :
    (Schema.atomic a).Conforms (some v) ↔ a.kind.accepts v = true ∧
      ∀ c ∈ a.constraints, c.requirement.holds v = .ok true := by
  constructor
  · rintro ⟨_, _, hkind, hconstraints⟩
    exact ⟨hkind, hconstraints⟩
  · rintro ⟨hkind, hconstraints⟩
    exact .atomic a v hkind hconstraints

theorem conforms_record_iff (ms : Members) (v : Option Json) :
    (Schema.record ms).Conforms v ↔
      ∃ o, v = some (.object o) ∧ ∀ m ∈ ms, m.2.Conforms (Object.get? o m.1) := by
  constructor
  · rintro (_ | _ | _ | _ | _ | ⟨_, o, hms⟩)
    exact ⟨o, rfl, hms⟩
  · rintro ⟨o, rfl, hms⟩
    exact .record ms o hms

end Schema

theorem AtomicSchema.firstViolation_eq_ok_none_iff (v : Json) (cs : List Constraint) :
    firstViolation v cs = .ok none ↔ ∀ c ∈ cs, c.requirement.holds v = .ok true := by
  induction cs with
  | nil => simp [firstViolation]
  | cons c rest ih =>
    rw [List.forall_mem_cons, ← ih, firstViolation_cons]
    cases c.requirement.holds v with
    | error p => simp
    | ok ok => cases ok <;> simp

/-- Nothing is found wrong with the values of the domain on which every constraint holds. -/
theorem AtomicSchema.violation_eq_ok_none_iff (a : AtomicSchema) (v : Json) :
    a.violation v = .ok none ↔
      a.kind.accepts v = true ∧ ∀ c ∈ a.constraints, c.requirement.holds v = .ok true := by
  rw [← firstViolation_eq_ok_none_iff]
  unfold violation
  cases a.kind.accepts v <;> simp

theorem AtomicSchema.judge_eq_accepted_iff (a : AtomicSchema) (v : Json) (w : Option Json) :
    a.judge v = .accepted w ↔ (a.kind.accepts v = true ∧
      ∀ c ∈ a.constraints, c.requirement.holds v = .ok true) ∧ w = some v := by
  rw [← violation_eq_ok_none_iff]
  unfold judge
  cases a.violation v with
  | error p => simp
  | ok report => cases report <;> simp [eq_comm]

namespace Schema

/-- A record that accepts its members gives what they keep. -/
theorem judge_record_of_members (ms : Members) (hnames : ms.names.Nodup) (o : Object)
    (h : ∀ m ∈ ms, m.2.judge (o.get? m.1) = .accepted (m.2.project (o.get? m.1))) :
    (Schema.record ms).judge (some (.object o)) =
      .accepted ((Schema.record ms).project (some (.object o))) := by
  have hall : ∀ v ∈ memberVerdicts ms o, v.2.accepts = true := by
    intro v hv
    obtain ⟨m, hm, rfl⟩ := List.mem_map.mp hv
    rw [h m hm]
    rfl
  have hgathered : Verdict.gathered (memberVerdicts ms o) =
      Object.ofList (projectMembers ms o) := by
    rw [Verdict.gathered_eq_ofList _ (map_fst_memberVerdicts ms o ▸ hnames), projectMembers_eq,
      memberVerdicts, List.filterMap_map]
    refine congrArg Object.ofList (List.filterMap_congr ?_)
    intro m hm
    rw [Function.comp_apply, h m hm]
    rfl
  rw [judge, judgeMembers_eq, (Verdict.collect_eq_accepted_iff _ _).mpr ⟨hall, rfl⟩, hgathered]
  rfl

/-- Decoding accepts what conforms, and gives what the schema keeps of it. -/
theorem judge_eq_accepted_iff (s : Schema) (hs : s.Distinct) (v w : Option Json) :
    s.judge v = .accepted w ↔ s.Conforms v ∧ w = s.project v := by
  induction hs generalizing v w with
  | atomic a =>
    cases v with
    | none =>
      refine ⟨fun h => by simp [judge] at h, ?_⟩
      rintro ⟨h, _⟩
      cases h
    | some v => rw [judge, AtomicSchema.judge_eq_accepted_iff, conforms_atomic_iff, project]
  | unknown => simp [judge, project, Conforms.unknown, eq_comm]
  | record ms hnames hms ih =>
    constructor
    · intro h
      obtain ⟨o, out, rfl, rfl, hout⟩ := exists_of_judge_record ms v w h
      rw [judgeMembers_eq, Verdict.collect_eq_accepted_iff] at hout
      -- what the induction knows of a member is what its own verdict says
      have hmembers : ∀ m ∈ ms, m.2.Conforms (Object.get? o m.1) ∧
          m.2.judge (Object.get? o m.1) = .accepted (m.2.project (Object.get? o m.1)) := by
        intro m hm
        obtain ⟨u, hu⟩ := (Verdict.accepts_iff _).mp (hout.1 _ (List.mem_map_of_mem hm))
        obtain ⟨hconforms, rfl⟩ := (ih m hm _ u).mp hu
        exact ⟨hconforms, hu⟩
      have hrecord := judge_record_of_members ms hnames o fun m hm => (hmembers m hm).2
      exact ⟨.record ms o fun m hm => (hmembers m hm).1,
        Verdict.accepted.inj (h.symm.trans hrecord)⟩
    · rintro ⟨hconforms, rfl⟩
      obtain ⟨o, rfl, hmembers⟩ := (conforms_record_iff ms v).mp hconforms
      refine judge_record_of_members ms hnames o ?_
      intro m hm
      exact (ih m hm _ _).mpr ⟨hmembers m hm, rfl⟩
  | optional s hs ih =>
    rcases judge_optional_cases s v with ⟨habsent, heq⟩ | ⟨hnone, hnull, heq⟩
    · rw [heq, project_optional_absent s v habsent]
      simp [conforms_optional_absent s v habsent, eq_comm]
    · rw [heq, ih v w, conforms_optional_present s v hnone hnull,
        project_optional_present s v hnone hnull]

/-- Values that are alike are the same value, or both are objects. -/
theorem eq_or_objects_of_alike (s : Schema) (v w : Option Json) (h : s.Alike v w) :
    v = w ∨ ∃ o p, v = some (.object o) ∧ w = some (.object p) := by
  induction h with
  | same s v => exact Or.inl rfl
  | optional s v w h ih => exact ih
  | record ms o p hms ih => exact Or.inr ⟨o, p, rfl, rfl⟩

/-- Undeclared members do not matter for the verdict. -/
theorem judge_eq_of_alike (s : Schema) (v w : Option Json) (h : s.Alike v w) :
    s.judge v = s.judge w := by
  induction h with
  | same s v => rfl
  | optional s v w h ih =>
    rcases eq_or_objects_of_alike s v w h with rfl | ⟨o, p, rfl, rfl⟩
    · rfl
    · rwa [judge_optional_present s _ (by simp) (by simp),
        judge_optional_present s _ (by simp) (by simp)]
  | record ms o p hms ih =>
    have hverdicts : memberVerdicts ms o = memberVerdicts ms p := by
      refine List.map_congr_left ?_
      intro m hm
      rw [ih m hm]
    rw [judge, judge, judgeMembers_eq, judgeMembers_eq, hverdicts]

/-- What a record keeps has declared members only, each of them kept by its schema. -/
theorem mem_projectMembers_iff (ms : Members) (o : Object) (key : String) (w : Json) :
    (key, w) ∈ projectMembers ms o ↔ ∃ m ∈ ms, m.1 = key ∧ m.2.project (o.get? m.1) = some w := by
  rw [projectMembers_eq, List.mem_filterMap]
  refine exists_congr fun m => and_congr_right fun _ => ?_
  constructor
  · intro h
    obtain ⟨u, hu, heq⟩ := Option.map_eq_some_iff.mp h
    obtain ⟨rfl, rfl⟩ := Prod.mk.inj heq
    exact ⟨rfl, hu⟩
  · rintro ⟨rfl, hw⟩
    rw [hw]
    rfl

theorem nodup_projectMembers (ms : Members) (hnames : ms.names.Nodup) (o : Object) :
    ((projectMembers ms o).map Prod.fst).Nodup := by
  rw [projectMembers_eq]
  refine List.pairwise_map.mpr ((List.pairwise_map.mp hnames).filterMap _ ?_)
  rintro m n hne a ha b hb heq
  obtain ⟨_, _, rfl⟩ := Option.map_eq_some_iff.mp ha
  obtain ⟨_, _, rfl⟩ := Option.map_eq_some_iff.mp hb
  exact hne heq

/-- Nothing undeclared is kept. -/
theorem declares_of_project (s : Schema) (hs : s.Distinct) (v : Option Json) (w : Json)
    (h : s.project v = some w) : s.Declares w := by
  induction hs generalizing v w with
  | atomic a => exact .atomic a w
  | unknown => exact .unknown w
  | record ms hnames hms ih =>
    have hobject : ∃ o, v = some (.object o) ∧
        w = .object (Object.ofList (projectMembers ms o)) := by
      rcases v with _ | v
      · simp [project] at h
      · cases v <;> simp_all [project]
    obtain ⟨o, rfl, rfl⟩ := hobject
    have hkept := Object.get?_ofList_eq_some_iff _ (nodup_projectMembers ms hnames o)
    refine .record ms _ ?_ ?_
    · intro key hkey
      obtain ⟨⟨_, u⟩, hmem, rfl⟩ := List.mem_map.mp hkey
      rw [← Object.get?_eq_some_iff _ (Object.ascending_ofList _), hkept,
        mem_projectMembers_iff] at hmem
      obtain ⟨m, hm, rfl, _⟩ := hmem
      exact List.mem_map_of_mem hm
    · intro m hm u hu
      rw [hkept, mem_projectMembers_iff] at hu
      obtain ⟨n, hn, hname, hproject⟩ := hu
      -- the value was kept by the one member with this name
      have heq : n.2 = m.2 := by
        have hget := Members.get?_of_mem ms hnames n.1 n.2 hn
        rw [hname, Members.get?_of_mem ms hnames m.1 m.2 hm] at hget
        exact (Option.some.inj hget).symm
      rw [← heq]
      exact ih n hn _ u hproject
  | optional s hs ih =>
    rcases judge_optional_cases s v with ⟨habsent, _⟩ | ⟨hnone, hnull, _⟩
    · simp [project_optional_absent s v habsent] at h
    · rw [project_optional_present s v hnone hnull] at h
      exact .optional s w (ih v w h)

/-- Only what is optional can keep nothing of a conforming value. -/
theorem declares_null_of_project (s : Schema) (v : Json) (hconforms : s.Conforms (some v))
    (h : s.project (some v) = none) : s.Declares .null := by
  cases s with
  | atomic a => simp [project] at h
  | unknown => simp [project] at h
  | record ms =>
    obtain ⟨o, hv, _⟩ := (conforms_record_iff ms _).mp hconforms
    simp [hv, project] at h
  | optional s => exact .null s

/-- Decoding accepts exactly the values that conform and gives exactly what is kept of them, null if
nothing is. Undeclared members neither matter for the outcome nor occur in it. -/
theorem decode_eq_ok_iff_conforms (s : Schema) (hs : s.Distinct) (v w : Json) :
    (s.decode v = .ok w ↔ s.Conforms (some v) ∧ w = (s.project (some v)).getD .null) ∧
      (∀ u, s.Alike (some v) (some u) → s.decode u = s.decode v) ∧
      (s.decode v = .ok w → s.Declares w) := by
  have hiff : s.decode v = .ok w ↔ s.Conforms (some v) ∧ w = (s.project (some v)).getD .null := by
    simp only [decode_eq_ok_iff, judge_eq_accepted_iff s hs]
    constructor
    · rintro ⟨_, ⟨hconforms, rfl⟩, rfl⟩
      exact ⟨hconforms, rfl⟩
    · rintro ⟨hconforms, rfl⟩
      exact ⟨_, ⟨hconforms, rfl⟩, rfl⟩
  refine ⟨hiff, ?_, ?_⟩
  · intro u halike
    rw [decode, decode, judge_eq_of_alike s _ _ halike]
  · intro h
    obtain ⟨hconforms, rfl⟩ := hiff.mp h
    cases hproject : s.project (some v) with
    | none => exact declares_null_of_project s v hconforms hproject
    | some u => exact declares_of_project s hs _ u hproject

/-- A person with a note and a home with a floor, neither of them declared. -/
theorem decode_eq_ok_iff_conforms_person :
    let s : Schema := .record [("name", .string none),
      ("home", .optional (.record [("city", .string none)]))]
    let v : Json := .object [("home", .object [("city", .string "Bern"), ("floor", .bool true)]),
      ("name", .string "Ann"), ("note", .null)]
    let u : Json := .object [("home", .object [("city", .string "Bern")]), ("name", .string "Ann")]
    s.Distinct ∧ s.Alike (some v) (some u) ∧ s.Conforms (some v) ∧ s.decode u = .ok u ∧
      s.Declares u := by
  intro s v u
  have hdistinct : s.Distinct := by decide
  have halike : s.Alike (some v) (some u) := by
    refine .record _ _ _ ?_
    intro m hm
    simp only [List.mem_cons, List.not_mem_nil, or_false] at hm
    rcases hm with rfl | rfl
    · exact .same _ _
    · refine .optional _ _ _ (.record _ _ _ ?_)
      intro m hm
      rw [List.mem_singleton.mp hm]
      exact .same _ _
  obtain ⟨hiff, hsame, hdeclares⟩ := decode_eq_ok_iff_conforms s hdistinct v u
  have hdecode : s.decode v = .ok u := rfl
  exact ⟨hdistinct, halike, (hiff.mp hdecode).1, (hsame u halike).trans hdecode,
    hdeclares hdecode⟩

end Schema

end ModelForm
