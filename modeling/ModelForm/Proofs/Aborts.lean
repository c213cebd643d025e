import ModelForm.Proofs.Reports

/-!
When a pattern that cannot be used ends a decoding, and which one. A pattern is only met
by a value of the domain that satisfies every constraint in front of it, so it does no harm
behind an absent value, a null that is excused, a value of another type, a constraint that
fails or a parent that is no object. Of the nodes where one is met the first in the order
of the paths decides, whatever errors other members have.
-/

namespace ModelForm

/-- Every constraint is meant for the kind that it is attached to. Refinements attach no others. -/
inductive Schema.Fitted : Schema → Prop
  | atomic (a : AtomicSchema)
      (h : ∀ c ∈ a.constraints, Schema.suited c.requirement a.kind = true) : Fitted (.atomic a)
  | unknown : Fitted .unknown
  | record (ms : Members) (hms : ∀ m ∈ ms, Fitted m.2) : Fitted (.record ms)
  | optional (s : Schema) (hs : Fitted s) : Fitted (.optional s)

/-- The value meets an invalid pattern: it is of the domain, and every constraint in front of the
pattern holds. -/
def AtomicSchema.Meets (a : AtomicSchema) (v : Json) (p : Pattern) : Prop :=
  a.kind.accepts v = true ∧ ∃ front c back, a.constraints = front ++ c :: back ∧
    c.requirement = .pattern p ∧ p.isValid = false ∧
      ∀ d ∈ front, d.requirement.holds v = .ok true

namespace Schema

def MeetsAt (s : Schema) (v : Option Json) (path : List String) (p : Pattern) : Prop :=
  ∃ a w, s.place? v path = some (.atomic a, some w) ∧ a.Meets w p

def stop? : Schema → Option Json → Option InvalidPattern
  | .atomic a, some v => (a.judge v).abort?
  | _, _ => none

def stopAt? (s : Schema) (v : Option Json) (path : List String) : Option InvalidPattern :=
  (s.place? v path).bind fun p => p.1.stop? p.2

/-- Refining attaches a constraint only where it is meant to be. -/
theorem Fitted.require (r : Requirement) (message : Option String) (s : Schema)
    (h : s.Fitted) : (s.require r message).Fitted := by
  induction h with
  | atomic a ha =>
    rw [Schema.require, Schema.constrain]
    split
    · rename_i hsuits
      refine .atomic _ ?_
      intro c hc
      rcases List.mem_append.mp hc with hold | hnew
      · exact ha c hold
      · rw [List.mem_singleton.mp hnew]
        exact hsuits
    · exact .atomic a ha
  | unknown => exact .unknown
  | record ms hms => exact .record ms hms
  | optional s hs ih => exact .optional _ ih

theorem Fitted.orAbsent (s : Schema) (h : s.Fitted) : s.orAbsent.Fitted := by
  cases h with
  | atomic a ha => exact .optional _ (.atomic a ha)
  | unknown => exact .optional _ .unknown
  | record ms hms => exact .optional _ (.record ms hms)
  | optional s hs => exact .optional s hs

theorem Fitted.core (s : Schema) (h : s.Fitted) : s.core.Fitted := by
  induction h with
  | atomic a ha => exact .atomic a ha
  | unknown => exact .unknown
  | record ms hms => exact .record ms hms
  | optional s hs ih => exact ih

theorem Fitted.of_follow (s : Schema) (hs : s.Fitted) (path : List String) (node : Schema)
    (h : s.follow path = some node) : node.Fitted := by
  induction path generalizing s with
  | nil =>
    rw [← Option.some.inj h]
    exact Fitted.core s hs
  | cons name rest ih =>
    have hcore := Fitted.core s hs
    rw [Schema.follow] at h
    cases hnode : s.core with
    | record ms =>
      rw [hnode] at h hcore
      obtain ⟨m, hm, hrest⟩ := Option.bind_eq_some_iff.mp h
      cases hcore with
      | record _ hms => exact ih m (hms (name, m) (Members.mem_of_get?_eq_some ms name m hm)) hrest
    | _ => simp [hnode] at h

end Schema

/-- Only a text is held against a pattern, and only an invalid pattern cannot be used. -/
theorem Requirement.holds_eq_error_iff (r : Requirement) (v : Json) (e : InvalidPattern) :
    r.holds v = .error e ↔ ∃ p text, r = .pattern p ∧ v = .string text ∧ p.isValid = false ∧
      e = ⟨p.source⟩ := by
  cases r with
  | pattern p =>
    cases v with
    | string text =>
      cases hoccurs : p.occurs? text with
      | none =>
        have hheld : (Requirement.pattern p).holds (.string text) = .error ⟨p.source⟩ := by
          simp [holds, matchesPattern, hoccurs]
        have hinvalid : p.isValid = false := by
          simpa [Pattern.occurs?, Pattern.isValid] using hoccurs
        rw [hheld]
        constructor
        · intro h
          exact ⟨p, text, rfl, rfl, hinvalid, (Except.error.inj h).symm⟩
        · rintro ⟨q, t, hq, -, -, rfl⟩
          rw [Requirement.pattern.inj hq]
      | some found =>
        have hheld : (Requirement.pattern p).holds (.string text) = .ok found := by
          simp [holds, matchesPattern, hoccurs]
        have hnone : p.occurs? text ≠ none := by simp [hoccurs]
        have hvalid : p.isValid ≠ false := by
          simpa [Pattern.occurs?, Pattern.isValid] using hnone
        rw [hheld]
        constructor
        · intro h
          simp at h
        · rintro ⟨q, t, hq, -, hinvalid, -⟩
          rw [← Requirement.pattern.inj hq] at hinvalid
          exact absurd hinvalid hvalid
    | _ => simp [holds, matchesPattern]
  | _ => simp [holds]

namespace AtomicSchema

/-- Checking the constraints ends in the first one that ends it, if those in front of it hold. -/
theorem firstViolation_eq_error_iff (v : Json) (cs : List Constraint) (e : InvalidPattern) :
    firstViolation v cs = .error e ↔ ∃ front c back, cs = front ++ c :: back ∧
      c.requirement.holds v = .error e ∧ ∀ d ∈ front, d.requirement.holds v = .ok true := by
  induction cs with
  | nil => simp [firstViolation]
  | cons c rest ih =>
    rw [firstViolation_cons]
    constructor
    · intro h
      cases hholds : c.requirement.holds v with
      | error p =>
        refine ⟨[], c, rest, rfl, ?_, by simp⟩
        rw [hholds] at h
        rw [← Except.error.inj h]
        exact hholds
      | ok ok =>
        cases ok with
        | false => simp [hholds] at h
        | true =>
          rw [hholds] at h
          obtain ⟨front, d, back, rfl, hd, hfront⟩ := ih.mp h
          exact ⟨c :: front, d, back, rfl, hd, List.forall_mem_cons.mpr ⟨hholds, hfront⟩⟩
    · rintro ⟨front, d, back, hsplit, hd, hfront⟩
      rcases List.cons_eq_append_iff.mp hsplit with ⟨rfl, hcons⟩ | ⟨front', rfl, rfl⟩
      · obtain ⟨rfl, rfl⟩ := List.cons.inj hcons
        rw [hd]
      · obtain ⟨hc, hfront'⟩ := List.forall_mem_cons.mp hfront
        rw [hc]
        exact ih.mpr ⟨front', d, back, rfl, hd, hfront'⟩

theorem abort?_judge_eq_some_iff (a : AtomicSchema) (v : Json) (e : InvalidPattern) :
    (a.judge v).abort? = some e ↔
      a.kind.accepts v = true ∧ firstViolation v a.constraints = .error e := by
  unfold judge violation
  cases a.kind.accepts v with
  | false => simp
  | true =>
    simp only [if_true, true_and]
    cases firstViolation v a.constraints with
    | error p => simp
    | ok report => cases report <;> simp

/-- A kind that a pattern is meant for accepts texts only. -/
theorem exists_string_of_suited (k : Kind) (p : Pattern) (v : Json)
    (hsuited : Schema.suited (.pattern p) k = true) (haccepts : k.accepts v = true) :
    ∃ text, v = .string text := by
  cases k <;> simp [Schema.suited, Kind.isString] at hsuited
  cases v <;> simp [Kind.accepts] at haccepts
  exact ⟨_, rfl⟩

/-- Judging a value ends in an invalid pattern exactly if the value meets it. -/
theorem abort?_judge_eq_some_iff_meets (a : AtomicSchema)
    (ha : ∀ c ∈ a.constraints, Schema.suited c.requirement a.kind = true) (v : Json)
    (e : InvalidPattern) :
    (a.judge v).abort? = some e ↔ ∃ p, a.Meets v p ∧ e = ⟨p.source⟩ := by
  rw [abort?_judge_eq_some_iff, firstViolation_eq_error_iff]
  constructor
  · rintro ⟨haccepts, front, c, back, hsplit, hc, hfront⟩
    obtain ⟨p, text, hpattern, -, hvalid, he⟩ := (Requirement.holds_eq_error_iff _ v e).mp hc
    exact ⟨p, ⟨haccepts, front, c, back, hsplit, hpattern, hvalid, hfront⟩, he⟩
  · rintro ⟨p, ⟨haccepts, front, c, back, hsplit, hpattern, hvalid, hfront⟩, he⟩
    have hsuited : Schema.suited (.pattern p) a.kind = true := by
      rw [← hpattern]
      exact ha c (by simp [hsplit])
    obtain ⟨text, htext⟩ := exists_string_of_suited a.kind p v hsuited haccepts
    refine ⟨haccepts, front, c, back, hsplit, ?_, hfront⟩
    exact (Requirement.holds_eq_error_iff _ v e).mpr ⟨p, text, hpattern, htext, hvalid, he⟩

end AtomicSchema

namespace Schema

theorem stop?_record (ms : Members) (v : Option Json) : (Schema.record ms).stop? v = none := rfl

theorem stopAt?_nil (s : Schema) (v : Option Json) (h : s.isOptional = false) :
    s.stopAt? v [] = s.stop? v := by
  rw [stopAt?, place?_nil s v h, Option.bind_some]

/-- Members of an object end its decoding where they end their own. -/
theorem findSome?_stopAt?_object (ms : Members) (hnames : ms.names.Nodup) (o : Object) :
    (Schema.record ms).paths.findSome? ((Schema.record ms).stopAt? (some (.object o))) =
      ms.findSome? fun m => m.2.paths.findSome? (m.2.stopAt? (o.get? m.1)) := by
  have hmembers : (memberPaths ms).filterMap ((Schema.record ms).stopAt? (some (.object o))) =
      ms.flatMap fun m => m.2.paths.filterMap (m.2.stopAt? (o.get? m.1)) := by
    rw [filterMap_memberPaths]
    refine List.flatMap_congr ?_
    intro m hm
    refine List.filterMap_congr ?_
    intro rest _
    rw [stopAt?, place?_record_cons ms hnames o m hm rest]
    rfl
  rw [paths, List.findSome?_cons, stopAt?_nil _ _ rfl, stop?_record, ← List.head?_filterMap,
    hmembers, List.head?_flatMap]
  simp only [List.head?_filterMap]

theorem findSome?_stopAt?_not_object (ms : Members) (v : Option Json)
    (h : ∀ o, v ≠ some (.object o)) :
    (Schema.record ms).paths.findSome? ((Schema.record ms).stopAt? v) = none := by
  rw [paths, List.findSome?_cons, stopAt?_nil _ _ rfl, stop?_record, List.findSome?_eq_none_iff]
  intro path hpath
  rw [stopAt?, place?_of_mem_memberPaths ms v h path hpath]
  rfl

/-- A decoding is ended at the first place, in the order of the paths, that ends it. -/
theorem abort?_judge_eq (s : Schema) (hs : s.Distinct) (v : Option Json) :
    (s.judge v).abort? = s.paths.findSome? (s.stopAt? v) := by
  induction hs generalizing v with
  | atomic a =>
    rw [paths, List.findSome?_singleton, stopAt?_nil _ v rfl]
    cases v with
    | none => simp [judge, stop?]
    | some v => simp [judge, stop?]
  | unknown =>
    rw [paths, List.findSome?_singleton, stopAt?_nil _ v rfl, judge]
    rfl
  | record ms hnames hms ih =>
    by_cases hobject : ∃ o, v = some (.object o)
    · obtain ⟨o, rfl⟩ := hobject
      rw [abort?_record_object, findSome?_stopAt?_object ms hnames o, memberVerdicts,
        List.findSome?_map, ← List.head?_filterMap, ← List.head?_filterMap]
      refine congrArg List.head? (List.filterMap_congr ?_)
      intro m hm
      exact ih m hm _
    · have hother := not_exists.mp hobject
      rw [findSome?_stopAt?_not_object ms v hother]
      rcases judge_record_cases ms v with ⟨o, hv, -⟩ | ⟨message, heq⟩
      · exact absurd hv (hother o)
      · rw [heq, Verdict.abort?_rejected]
  | optional s hs ih =>
    rcases judge_optional_cases s v with ⟨habsent, heq⟩ | ⟨hnone, hnull, heq⟩
    · have hexcuses : (Schema.optional s).excuses v = true := (excuses_iff _ v).mpr ⟨rfl, habsent⟩
      rw [heq, Verdict.abort?_accepted, eq_comm, List.findSome?_eq_none_iff]
      intro path _
      rw [stopAt?, place?_of_excuses _ v hexcuses path]
      rfl
    · have hsame : (Schema.optional s).stopAt? v = s.stopAt? v := by
        funext path
        rw [stopAt?, stopAt?, place?_optional s v hnone hnull path]
      rw [heq, ih v, paths, hsame]

/-- A value that meets an invalid pattern is a value of the domain, so it is not null. -/
theorem ne_null_of_meets (a : AtomicSchema) (w : Json) (p : Pattern) (h : a.Meets w p) :
    w ≠ .null := by
  rintro rfl
  have haccepts := h.1
  cases hkind : a.kind <;> simp [hkind, Kind.accepts] at haccepts

/-- An invalid pattern is met where the paths in the schema and in the value lead to it. -/
theorem meetsAt_iff (s : Schema) (v : Option Json) (path : List String) (p : Pattern) :
    s.MeetsAt v path p ↔ ∃ a w, s.follow path = some (.atomic a) ∧
      Json.follow v path = some w ∧ a.Meets w p := by
  constructor
  · rintro ⟨a, w, hplace, hmeets⟩
    obtain ⟨hnode, hvalue⟩ := follow_of_place? s v path _ _ hplace
    exact ⟨a, w, hnode, hvalue, hmeets⟩
  · rintro ⟨a, w, hnode, hvalue, hmeets⟩
    have hnull := ne_null_of_meets a w p hmeets
    exact ⟨a, w, place?_of_follow s v path _ w hnode hvalue hnull, hmeets⟩

theorem mem_paths_of_meetsAt (s : Schema) (hs : s.Distinct) (v : Option Json)
    (path : List String) (p : Pattern) (h : s.MeetsAt v path p) : path ∈ s.paths := by
  obtain ⟨a, w, hplace, -⟩ := h
  rw [mem_paths_iff s hs, (follow_of_place? s v path _ _ hplace).1]
  rfl

/-- No place inside of what is no object is reached. -/
theorem exists_object_of_meetsAt (s : Schema) (v : Option Json) (front : List String)
    (name : String) (back : List String) (p : Pattern)
    (h : s.MeetsAt v (front ++ name :: back) p) : ∃ o, Json.follow v front = some (.object o) := by
  obtain ⟨a, w, -, hvalue, -⟩ := (meetsAt_iff s v _ p).mp h
  rw [Json.follow, List.foldl_append] at hvalue
  exact Json.exists_object_of_follow_cons _ name back w hvalue

theorem decode_eq_invalidPattern_iff_abort? (s : Schema) (v : Json) (source : String) :
    s.decode v = .error (.invalidPattern source) ↔ (s.judge (some v)).abort? = some ⟨source⟩ := by
  rw [← Verdict.toExcept_eq_invalidPattern_iff, decode]
  cases (s.judge (some v)).toExcept <;> simp [Except.map]

section Fitted

variable (s : Schema) (hfitted : s.Fitted)
include hfitted

/-- A place ends the decoding exactly if an invalid pattern is met there. -/
theorem stopAt?_eq_some_iff (v : Option Json) (path : List String) (e : InvalidPattern) :
    s.stopAt? v path = some e ↔ ∃ p, s.MeetsAt v path p ∧ e = ⟨p.source⟩ := by
  have hnode : ∀ a w, s.place? v path = some (.atomic a, some w) →
      ((a.judge w).abort? = some e ↔ ∃ p, a.Meets w p ∧ e = ⟨p.source⟩) := by
    intro a w hplace
    have hfollow := (follow_of_place? s v path _ _ hplace).1
    cases Fitted.of_follow s hfitted path _ hfollow with
    | atomic _ ha => exact AtomicSchema.abort?_judge_eq_some_iff_meets a ha w e
  constructor
  · intro h
    obtain ⟨⟨node, w⟩, hplace, hstop⟩ := Option.bind_eq_some_iff.mp h
    cases node with
    | atomic a =>
      cases w with
      | none => simp [stop?] at hstop
      | some w =>
        obtain ⟨p, hmeets, he⟩ := (hnode a w hplace).mp hstop
        exact ⟨p, ⟨a, w, hplace, hmeets⟩, he⟩
    | _ => simp [stop?] at hstop
  · rintro ⟨p, ⟨a, w, hplace, hmeets⟩, he⟩
    rw [stopAt?, hplace]
    exact (hnode a w hplace).mpr ⟨p, hmeets, he⟩

theorem stopAt?_eq_none_iff (v : Option Json) (path : List String) :
    s.stopAt? v path = none ↔ ∀ p, ¬ s.MeetsAt v path p := by
  rw [Option.eq_none_iff_forall_ne_some]
  constructor
  · intro h p hmeets
    exact h ⟨p.source⟩ ((stopAt?_eq_some_iff s hfitted v path _).mpr ⟨p, hmeets, rfl⟩)
  · intro h e he
    obtain ⟨p, hmeets, -⟩ := (stopAt?_eq_some_iff s hfitted v path e).mp he
    exact h p hmeets

variable (hs : s.Distinct) (v : Json)
include hs

/-- The pattern that ends a decoding is that of the first place where one is met. -/
theorem decode_eq_invalidPattern_iff_first (source : String) :
    s.decode v = .error (.invalidPattern source) ↔
      ∃ front path back p, s.paths = front ++ path :: back ∧ s.MeetsAt (some v) path p ∧
        p.source = source ∧ ∀ q ∈ front, ∀ r, ¬ s.MeetsAt (some v) q r := by
  rw [decode_eq_invalidPattern_iff_abort?, abort?_judge_eq s hs, List.findSome?_eq_some_iff]
  constructor
  · rintro ⟨front, path, back, hsplit, hpath, hfront⟩
    obtain ⟨p, hmeets, hsource⟩ := (stopAt?_eq_some_iff s hfitted (some v) path _).mp hpath
    refine ⟨front, path, back, p, hsplit, hmeets, (InvalidPattern.mk.inj hsource).symm, ?_⟩
    intro q hq
    exact (stopAt?_eq_none_iff s hfitted (some v) q).mp (hfront q hq)
  · rintro ⟨front, path, back, p, hsplit, hmeets, rfl, hfront⟩
    have hpath := (stopAt?_eq_some_iff s hfitted (some v) path _).mpr ⟨p, hmeets, rfl⟩
    refine ⟨front, path, back, hsplit, hpath, ?_⟩
    intro q hq
    exact (stopAt?_eq_none_iff s hfitted (some v) q).mpr (hfront q hq)

/-- A decoding ends in a pattern as soon as one is met anywhere. -/
theorem exists_decode_eq_invalidPattern_iff :
    (∃ source, s.decode v = .error (.invalidPattern source)) ↔
      ∃ path p, s.MeetsAt (some v) path p := by
  simp only [decode_eq_invalidPattern_iff_abort?, abort?_judge_eq s hs]
  constructor
  · rintro ⟨source, h⟩
    obtain ⟨path, -, hpath⟩ := List.exists_of_findSome?_eq_some h
    obtain ⟨p, hmeets, -⟩ := (stopAt?_eq_some_iff s hfitted (some v) path _).mp hpath
    exact ⟨path, p, hmeets⟩
  · rintro ⟨path, p, hmeets⟩
    have hpath := (stopAt?_eq_some_iff s hfitted (some v) path _).mpr ⟨p, hmeets, rfl⟩
    have hfound : (s.paths.findSome? (s.stopAt? (some v))).isSome = true := by
      rw [List.findSome?_isSome_iff]
      exact ⟨path, mem_paths_of_meetsAt s hs (some v) path p hmeets, by rw [hpath]; rfl⟩
    obtain ⟨e, he⟩ := Option.isSome_iff_exists.mp hfound
    exact ⟨e.source, he⟩

end Fitted

/-- Decoding ends in an invalid pattern exactly if a value that it comes to meets one, and then in
that of the first such place in the order of the paths, whatever else is wrong. The places where
one is met are those to which the path leads in the schema and in the value: there is a value that
is not null, and every record on the way holds an object. -/
theorem decode_eq_invalidPattern_iff (s : Schema) (hs : s.Distinct) (hfitted : s.Fitted)
    (v : Json) :
    (∀ source, s.decode v = .error (.invalidPattern source) ↔
      ∃ front path back p, s.paths = front ++ path :: back ∧ s.MeetsAt (some v) path p ∧
        p.source = source ∧ ∀ q ∈ front, ∀ r, ¬ s.MeetsAt (some v) q r) ∧
    ((∃ source, s.decode v = .error (.invalidPattern source)) ↔
      ∃ path p, s.MeetsAt (some v) path p) ∧
    (∀ path p, s.MeetsAt (some v) path p ↔ ∃ a w, s.follow path = some (.atomic a) ∧
      Json.follow (some v) path = some w ∧ a.Meets w p) ∧
    ∀ path p, s.MeetsAt (some v) path p →
      (∃ w, Json.follow (some v) path = some w ∧ w ≠ .null) ∧
        ∀ front name back, path = front ++ name :: back →
          ∃ o, Json.follow (some v) front = some (.object o) := by
  refine ⟨decode_eq_invalidPattern_iff_first s hfitted hs v,
    exists_decode_eq_invalidPattern_iff s hfitted hs v, meetsAt_iff s (some v), ?_⟩
  intro path p hmeets
  obtain ⟨a, w, -, hvalue, hmeetsValue⟩ := (meetsAt_iff s (some v) path p).mp hmeets
  refine ⟨⟨w, hvalue, ne_null_of_meets a w p hmeetsValue⟩, ?_⟩
  rintro front name back rfl
  exact exists_object_of_meetsAt s (some v) front name back p hmeets

/-- A parcel with four invalid patterns and a label that is no text: the first pattern stands behind
null, the second behind a text that is too short, and the third one ends the decoding. -/
theorem decode_eq_invalidPattern_iff_parcel :
    let text (source : String) : Schema :=
      (Schema.string none).require (.pattern (Pattern.ofText source)) none
    let code : Schema := ((Schema.string none).require (.minLength 2) none).require
      (.pattern (Pattern.ofText "(")) none
    let s : Schema := .record [("label", .string none), ("note", (text "[").orAbsent),
      ("code", code), ("to", .record [("zip", text "*")]), ("from", text "+")]
    let v : Json := .object [("code", .string "x"), ("from", .string "y"),
      ("label", .bool true), ("note", .null), ("to", .object [("zip", .string "z")])]
    s.Distinct ∧ s.Fitted ∧ s.decode v = .error (.invalidPattern "*") ∧
      s.MeetsAt (some v) ["to", "zip"] (Pattern.ofText "*") ∧
      s.MeetsAt (some v) ["from"] (Pattern.ofText "+") ∧
      ∀ p, ¬ s.MeetsAt (some v) ["code"] p := by
  intro text code s v
  have hs : s.Distinct := by decide
  have hplain : (Schema.string none).Fitted := .atomic _ (by simp)
  have htext : ∀ source, (text source).Fitted := fun source => Fitted.require _ none _ hplain
  have hcode : code.Fitted := Fitted.require _ none _ (Fitted.require _ none _ hplain)
  have hfitted : s.Fitted := by
    refine .record _ ?_
    intro m hm
    simp only [List.mem_cons, List.not_mem_nil, or_false] at hm
    rcases hm with rfl | rfl | rfl | rfl | rfl
    · exact hplain
    · exact Fitted.orAbsent _ (htext "[")
    · exact hcode
    · refine .record _ ?_
      intro m hm
      rw [List.mem_singleton.mp hm]
      exact htext "*"
    · exact htext "+"
  obtain ⟨hfirst, -, hplaces, -⟩ := decode_eq_invalidPattern_iff s hs hfitted v
  have hzip : s.MeetsAt (some v) ["to", "zip"] (Pattern.ofText "*") :=
    (hplaces _ _).mpr ⟨_, .string "z", rfl, rfl, rfl, [], _, [], rfl, rfl, by decide, by simp⟩
  have hfrom : s.MeetsAt (some v) ["from"] (Pattern.ofText "+") :=
    (hplaces _ _).mpr ⟨_, .string "y", rfl, rfl, rfl, [], _, [], rfl, rfl, by decide, by simp⟩
  have hfront : ∀ q ∈ [[], ["label"], ["note"], ["code"], ["to"]], ∀ p,
      ¬ s.MeetsAt (some v) q p := by
    intro q hq
    refine (stopAt?_eq_none_iff s hfitted (some v) q).mp ?_
    simp only [List.mem_cons, List.not_mem_nil, or_false] at hq
    rcases hq with rfl | rfl | rfl | rfl | rfl <;> rfl
  have hdecode : s.decode v = .error (.invalidPattern "*") :=
    (hfirst "*").mpr ⟨_, ["to", "zip"], [["from"]], _, rfl, hzip, rfl, hfront⟩
  exact ⟨hs, hfitted, hdecode, hzip, hfrom, hfront ["code"] (by simp)⟩

end Schema

end ModelForm
