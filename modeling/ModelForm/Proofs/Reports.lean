import ModelForm.Proofs.Patterns
import ModelForm.Proofs.Places

/-!
The errors of a document, place by place. A node fails on its own account: an atomic one
without a value, with one outside of its domain or with one that violates a constraint, a
record without an object. If decoding is not cut short, its errors are those of the failing
nodes among the places that it comes to, one for each, in the order of the paths. So no
member is passed over because another one failed, and no path is reported twice.
-/

namespace ModelForm

/-- Whether a value violates the constraint. A pattern that cannot be used is not violated. -/
def Constraint.isViolated (v : Json) (c : Constraint) : Bool :=
  match c.requirement.holds v with
  | .ok ok => !ok
  | .error _ => false

def AtomicSchema.complaint? (a : AtomicSchema) (v : Json) : Option String :=
  if a.kind.accepts v then (a.constraints.find? (Constraint.isViolated v)).map Constraint.report
  else some a.typeReport

namespace Schema

/-- What is wrong with the value of a node, its members apart. -/
def complaint? : Schema → Option Json → Option String
  | .atomic _, none => some requiredMessage
  | .atomic a, some v => a.complaint? v
  | .unknown, _ => none
  | .record _, none => some requiredMessage
  | .record _, some (.object _) => none
  | .record _, some _ => some objectMessage
  | .optional _, _ => none

def report? (s : Schema) (v : Option Json) (path : List String) : Option FieldError :=
  (s.place? v path).bind fun p => (p.1.complaint? p.2).map (FieldError.mk (path.map Segment.key))

end Schema

namespace AtomicSchema

theorem eq_of_firstViolation (v : Json) (cs : List Constraint) (report : Option String)
    (h : firstViolation v cs = .ok report) :
    report = (cs.find? (Constraint.isViolated v)).map Constraint.report := by
  induction cs with
  | nil => exact (Except.ok.inj h).symm
  | cons c rest ih =>
    rw [firstViolation_cons] at h
    cases hholds : c.requirement.holds v with
    | error p => simp [hholds] at h
    | ok ok =>
      have hviolated : Constraint.isViolated v c = !ok := by simp [Constraint.isViolated, hholds]
      rw [List.find?_cons, hviolated]
      cases ok with
      | true => exact ih (by simpa [hholds] using h)
      | false => simpa [hholds, eq_comm] using h

/-- A verdict that is not cut short is the complaint. -/
theorem judge_eq_of_abort? (a : AtomicSchema) (v : Json) (h : (a.judge v).abort? = none) :
    a.judge v = match a.complaint? v with
      | some report => .rejected [FieldError.whole report]
      | none => .accepted (some v) := by
  have hcomplaint : ∀ report, a.violation v = .ok report → report = a.complaint? v := by
    intro report hviolation
    unfold violation at hviolation
    unfold complaint?
    split at hviolation
    · rename_i haccepts
      rw [if_pos haccepts]
      exact eq_of_firstViolation v a.constraints report hviolation
    · rename_i haccepts
      rw [if_neg haccepts]
      exact (Except.ok.inj hviolation).symm
  unfold judge at h ⊢
  cases hviolation : a.violation v with
  | error p => simp [hviolation] at h
  | ok report =>
    rw [← hcomplaint report hviolation]
    cases report <;> rfl

end AtomicSchema

namespace Schema

/-- A node that fails is rejected for its complaint alone. -/
theorem judge_of_complaint? (node : Schema) (v : Option Json) (report : String)
    (habort : (node.judge v).abort? = none) (h : node.complaint? v = some report) :
    node.judge v = .rejected [FieldError.whole report] := by
  cases node with
  | atomic a =>
    cases v with
    | none => rw [judge, ← Option.some.inj h]
    | some v =>
      simp only [judge] at habort ⊢
      rw [AtomicSchema.judge_eq_of_abort? a v habort]
      simp only [complaint?] at h
      rw [h]
  | unknown => simp [complaint?] at h
  | record ms =>
    rcases v with _ | v
    · rw [judge, ← Option.some.inj h]
    · cases v <;> simp_all [judge, complaint?]
  | optional s => simp [complaint?] at h

section Places

/-- Without an object decoding comes to no member. -/
theorem place?_cons_of_not_object (s : Schema) (v : Option Json)
    (h : ∀ o, v ≠ some (.object o)) (name : String) (rest : List String) :
    s.place? v (name :: rest) = none := by
  refine Option.eq_none_iff_forall_ne_some.mpr ?_
  intro p hp
  obtain ⟨m, w, hmember, _⟩ := (place?_cons_eq_some_iff s v name rest p).mp hp
  obtain ⟨_, o, _, hv, _⟩ := (member?_eq_some_iff s v name _).mp hmember
  exact h o hv

theorem place?_of_mem_memberPaths (ms : Members) (v : Option Json)
    (h : ∀ o, v ≠ some (.object o)) (path : List String) (hpath : path ∈ memberPaths ms) :
    (Schema.record ms).place? v path = none := by
  rw [memberPaths_eq] at hpath
  obtain ⟨m, _, hrest⟩ := List.mem_flatMap.mp hpath
  obtain ⟨rest, _, rfl⟩ := List.mem_map.mp hrest
  exact place?_cons_of_not_object _ v h m.1 rest

theorem place?_of_excuses (s : Schema) (v : Option Json) (h : s.excuses v = true)
    (path : List String) : s.place? v path = none := by
  cases path with
  | nil => simp [place?, h]
  | cons name rest =>
    refine place?_cons_of_not_object s v ?_ name rest
    rintro o rfl
    simp [excuses_iff] at h

theorem place?_optional (s : Schema) (v : Option Json) (hnone : v ≠ none)
    (hnull : v ≠ some .null) (path : List String) :
    (Schema.optional s).place? v path = s.place? v path := by
  have hexcuses : ∀ t : Schema, t.excuses v = false := by
    intro t
    refine Bool.eq_false_iff.mpr ?_
    simp [excuses_iff, hnone, hnull]
  cases path with
  | nil => simp [place?, hexcuses, core]
  | cons name rest => rfl

theorem report?_nil (s : Schema) (v : Option Json) (h : s.isOptional = false) :
    s.report? v [] = (s.complaint? v).map FieldError.whole := by
  rw [report?, place?_nil s v h]
  rfl

/-- The errors of a member are errors of the record under its name. -/
theorem report?_record_cons (ms : Members) (hnames : ms.names.Nodup) (o : Object)
    (m : String × Schema) (hm : m ∈ ms) (rest : List String) :
    (Schema.record ms).report? (some (.object o)) (m.1 :: rest) =
      (m.2.report? (o.get? m.1) rest).map (FieldError.under m.1) := by
  rw [report?, place?_record_cons ms hnames o m hm rest, report?, Option.map_bind]
  refine Option.bind_congr fun p _ => ?_
  rw [Function.comp_apply, Option.map_map]
  rfl

theorem filterMap_report?_memberPaths (ms : Members) (hnames : ms.names.Nodup) (o : Object) :
    (memberPaths ms).filterMap ((Schema.record ms).report? (some (.object o))) =
      ms.flatMap fun m => (m.2.paths.filterMap (m.2.report? (o.get? m.1))).map
        (FieldError.under m.1) := by
  rw [filterMap_memberPaths]
  refine List.flatMap_congr fun m hm => ?_
  rw [List.map_filterMap]
  refine List.filterMap_congr fun rest _ => ?_
  exact report?_record_cons ms hnames o m hm rest

theorem filterMap_report?_of_not_object (ms : Members) (v : Option Json)
    (h : ∀ o, v ≠ some (.object o)) :
    (memberPaths ms).filterMap ((Schema.record ms).report? v) = [] := by
  refine List.filterMap_eq_nil_iff.mpr ?_
  intro path hpath
  rw [report?, place?_of_mem_memberPaths ms v h path hpath]
  rfl

theorem errors_judge_atomic (a : AtomicSchema) (v : Option Json)
    (h : ((Schema.atomic a).judge v).abort? = none) :
    ((Schema.atomic a).judge v).errors =
      (Schema.atomic a).paths.filterMap ((Schema.atomic a).report? v) := by
  rw [paths, List.filterMap_cons, report?_nil _ v rfl]
  cases hcomplaint : (Schema.atomic a).complaint? v with
  | some report => simp [judge_of_complaint? _ v report h hcomplaint, Verdict.errors]
  | none =>
    cases v with
    | none => simp [complaint?] at hcomplaint
    | some v =>
      simp only [judge, complaint?] at h hcomplaint ⊢
      rw [AtomicSchema.judge_eq_of_abort? a v h, hcomplaint]
      rfl

/-- The errors of a record that holds an object are those of its members. -/
theorem errors_judge_object (ms : Members) (hnames : ms.names.Nodup) (o : Object)
    (h : ((Schema.record ms).judge (some (.object o))).abort? = none)
    (hms : ∀ m ∈ ms, ∀ v, (m.2.judge v).abort? = none →
      (m.2.judge v).errors = m.2.paths.filterMap (m.2.report? v)) :
    ((Schema.record ms).judge (some (.object o))).errors =
      (Schema.record ms).paths.filterMap ((Schema.record ms).report? (some (.object o))) := by
  have hmembers := h
  rw [abort?_record_object, List.findSome?_eq_none_iff] at hmembers
  rw [judge, Verdict.abort?_map, judgeMembers_eq] at h
  rw [judge, Verdict.errors_map, judgeMembers_eq, Verdict.errors_collect _ h, memberVerdicts,
    List.flatMap_map, paths, List.filterMap_cons, report?_nil _ _ rfl, complaint?, Option.map_none,
    filterMap_report?_memberPaths ms hnames o]
  refine List.flatMap_congr ?_
  intro m hm
  rw [Verdict.errors_under, hms m hm _ (hmembers _ (List.mem_map_of_mem hm))]

theorem errors_judge_not_object (ms : Members) (v : Option Json)
    (hother : ∀ o, v ≠ some (.object o)) (h : ((Schema.record ms).judge v).abort? = none) :
    ((Schema.record ms).judge v).errors =
      (Schema.record ms).paths.filterMap ((Schema.record ms).report? v) := by
  have hcomplaint : ∃ report, (Schema.record ms).complaint? v = some report := by
    rcases v with _ | v
    · exact ⟨_, rfl⟩
    · cases v <;> simp_all [complaint?]
  obtain ⟨report, hreport⟩ := hcomplaint
  rw [judge_of_complaint? _ v report h hreport, paths, List.filterMap_cons, report?_nil _ v rfl,
    hreport, filterMap_report?_of_not_object ms v hother]
  rfl

end Places

/-- The errors of a decoding that is not cut short are those of the failing nodes, in order. -/
theorem errors_judge (s : Schema) (hs : s.Distinct) (v : Option Json)
    (h : (s.judge v).abort? = none) : (s.judge v).errors = s.paths.filterMap (s.report? v) := by
  induction hs generalizing v with
  | atomic a => exact errors_judge_atomic a v h
  | unknown =>
    rw [judge, paths, List.filterMap_cons, report?_nil .unknown v rfl]
    rfl
  | record ms hnames hms ih =>
    by_cases hobject : ∃ o, v = some (.object o)
    · obtain ⟨o, rfl⟩ := hobject
      exact errors_judge_object ms hnames o h ih
    · exact errors_judge_not_object ms v (not_exists.mp hobject) h
  | optional s hs ih =>
    rcases judge_optional_cases s v with ⟨habsent, heq⟩ | ⟨hnone, hnull, heq⟩
    · have hexcuses : (Schema.optional s).excuses v = true := (excuses_iff _ v).mpr ⟨rfl, habsent⟩
      rw [heq]
      symm
      refine List.filterMap_eq_nil_iff.mpr ?_
      intro path _
      simp [report?, place?_of_excuses _ v hexcuses path]
    · rw [heq] at h ⊢
      rw [ih v h, paths]
      refine List.filterMap_congr ?_
      intro path _
      rw [report?, report?, place?_optional s v hnone hnull path]

section Decode

variable (s : Schema) (v : Json)

theorem inputErrors_decode : inputErrors (s.decode v) = (s.judge (some v)).errors := by
  unfold decode
  cases s.judge (some v) <;> rfl

theorem abort?_of_decode (h : ∀ p, s.decode v ≠ .error (.invalidPattern p)) :
    (s.judge (some v)).abort? = none := by
  unfold decode at h
  cases hjudge : s.judge (some v) with
  | aborted p => exact absurd (by rw [hjudge]; rfl) (h p.source)
  | _ => rfl

theorem judge_of_decode_rejected (es : List FieldError)
    (h : s.decode v = .error (.rejected es)) : s.judge (some v) = .rejected es := by
  unfold decode at h
  cases hjudge : s.judge (some v) <;> simp_all [Verdict.toExcept, Except.map]

end Decode

/-- A reported error stands at the end of its path, and decoding the node there alone gives it. -/
theorem exists_of_report? (s : Schema) (v : Option Json) (path : List String) (e : FieldError)
    (habort : (s.judge v).abort? = none) (h : s.report? v path = some e) :
    ∃ node, s.follow path = some node ∧
      node.judge (Json.follow v path) = .rejected [FieldError.whole e.message] := by
  obtain ⟨⟨node, w⟩, hplace, hmap⟩ := Option.bind_eq_some_iff.mp h
  obtain ⟨message, hcomplaint, rfl⟩ := Option.map_eq_some_iff.mp hmap
  obtain ⟨hnode, rfl⟩ := follow_of_place? s v path node w hplace
  have hnodeAbort := abort?_of_place? s v path node _ habort hplace
  exact ⟨node, hnode, judge_of_complaint? node _ message hnodeAbort hcomplaint⟩

theorem mem_filterMap_report?_iff (s : Schema) (hs : s.Distinct) (v : Option Json)
    (e : FieldError) :
    e ∈ s.paths.filterMap (s.report? v) ↔ ∃ path, s.report? v path = some e := by
  rw [List.mem_filterMap]
  refine exists_congr fun path => and_iff_right_of_imp fun h => ?_
  obtain ⟨⟨node, w⟩, hplace, _⟩ := Option.bind_eq_some_iff.mp h
  rw [mem_paths_iff s hs, (follow_of_place? s v path node w hplace).1]
  rfl

theorem path_of_report? (s : Schema) (v : Option Json) (path : List String) (e : FieldError)
    (h : s.report? v path = some e) : e.path = path.map .key := by
  obtain ⟨p, _, hmap⟩ := Option.bind_eq_some_iff.mp h
  obtain ⟨message, _, rfl⟩ := Option.map_eq_some_iff.mp hmap
  rfl

/-- No two errors have one path. -/
theorem nodup_path_filterMap_report? (s : Schema) (hs : s.Distinct) (v : Option Json) :
    ((s.paths.filterMap (s.report? v)).map FieldError.path).Nodup := by
  refine List.pairwise_map.mpr (List.Pairwise.filterMap _ ?_ (nodup_paths s hs))
  intro p q hne e he f hf heq
  rw [path_of_report? s v p e he, path_of_report? s v q f hf] at heq
  exact hne (List.map_injective_iff.mpr (fun _ _ => Segment.key.inj) heq)

/-- The errors that decoding finds are those of the failing nodes that it comes to, one for each, in
the order of the paths. Each path leads to a node that decoded alone fails with the message. -/
theorem inputErrors_decode_eq (s : Schema) (hs : s.Distinct) (v : Json)
    (hpattern : ∀ p, s.decode v ≠ .error (.invalidPattern p)) :
    inputErrors (s.decode v) = s.paths.filterMap (s.report? (some v)) ∧
      (∀ e, e ∈ inputErrors (s.decode v) ↔ ∃ path, s.report? (some v) path = some e) ∧
      (∀ e ∈ inputErrors (s.decode v), ∃ path node, e.path = path.map .key ∧
        s.follow path = some node ∧
          node.judge (Json.follow (some v) path) = .rejected [FieldError.whole e.message]) ∧
      ((inputErrors (s.decode v)).map FieldError.path).Nodup ∧
      ∀ es, s.decode v = .error (.rejected es) → es ≠ [] := by
  have habort := abort?_of_decode s v hpattern
  have heq : inputErrors (s.decode v) = s.paths.filterMap (s.report? (some v)) :=
    (inputErrors_decode s v).trans (errors_judge s hs (some v) habort)
  have hmem := mem_filterMap_report?_iff s hs (some v)
  rw [heq]
  refine ⟨rfl, hmem, ?_, nodup_path_filterMap_report? s hs (some v), ?_⟩
  · intro e he
    obtain ⟨path, hpath⟩ := (hmem e).mp he
    obtain ⟨node, hnode, hjudge⟩ := exists_of_report? s (some v) path e habort hpath
    exact ⟨path, node, path_of_report? s (some v) path e hpath, hnode, hjudge⟩
  · intro es hes
    exact ne_nil_of_judge s (some v) es (judge_of_decode_rejected s v es hes)

/-- A contact without a name, with a city that is no text in its address and without a place in its
optional origin. -/
theorem inputErrors_decode_contact :
    let address : Members := [("city", .string none), ("zip", .optional (.string none))]
    let s : Schema := .record [("name", .string none), ("address", .record address),
      ("home", .optional (.record address)), ("origin", .optional (.record address))]
    let v : Json := .object [("address", .object [("city", .bool true), ("zip", .null)]),
      ("origin", .object [])]
    s.Distinct ∧ (∀ p, s.decode v ≠ .error (.invalidPattern p)) ∧
      s.paths.filterMap (s.report? (some v)) = [⟨[.key "name"], requiredMessage⟩,
        ⟨[.key "address", .key "city"], "Expected a string"⟩,
        ⟨[.key "origin", .key "city"], requiredMessage⟩] := by
  intro address s v
  have hs : s.Distinct := by decide
  have hdecode : s.decode v = .error (.rejected [⟨[.key "name"], requiredMessage⟩,
    ⟨[.key "address", .key "city"], "Expected a string"⟩,
    ⟨[.key "origin", .key "city"], requiredMessage⟩]) := rfl
  have hpattern : ∀ p, s.decode v ≠ .error (.invalidPattern p) := by
    intro p hp
    simpa using hdecode.symm.trans hp
  refine ⟨hs, hpattern, ?_⟩
  rw [← (inputErrors_decode_eq s hs v hpattern).1, hdecode]
  rfl

end Schema

end ModelForm
