import ModelForm.Proofs.FormErrors
import ModelForm.Proofs.Reports

/-!
Where the errors of a form point to. Each error has a path of its own and, with one
exception, a field that it is about: the exception is the generic error of a validation
of the whole form that could not be finished, which then comes first. Errors enter a form
as those of a whole document, which decoding never reports twice, or as those of one
field, and then only after the earlier errors of that field have left.
-/

namespace ModelForm

/-- No two errors share a path, and all of them are about fields, except that the first one may be
the generic error. -/
structure FieldError.Addressed (generic : String) (es : List FieldError) : Prop where
  nodup : (es.map FieldError.path).Nodup
  fields : (∀ e ∈ es, ∃ name, e.field? = some name) ∨
    ∃ rest, es = FieldError.whole generic :: rest ∧ ∀ e ∈ rest, ∃ name, e.field? = some name

namespace FieldError

theorem field?_eq_some_iff (e : FieldError) (name : String) :
    e.field? = some name ↔ ∃ rest, e.path = .key name :: rest := by
  rcases hpath : e.path with _ | ⟨step, rest⟩
  · simp [field?, hpath]
  · cases step <;> simp [field?, hpath, Segment.key?]

theorem nodup_path_under (name : String) (es : List FieldError)
    (h : (es.map FieldError.path).Nodup) :
    ((es.map (FieldError.under name)).map FieldError.path).Nodup := by
  have hpaths : (es.map (FieldError.under name)).map FieldError.path =
      (es.map FieldError.path).map (List.cons (.key name)) := by
    simp only [List.map_map]
    rfl
  rw [hpaths]
  exact h.map List.cons_injective

theorem addressed_nil (generic : String) : Addressed generic [] :=
  ⟨List.nodup_nil, Or.inl (by simp)⟩

theorem addressed_whole (generic : String) : Addressed generic [whole generic] :=
  ⟨List.nodup_singleton _, Or.inr ⟨[], rfl, by simp⟩⟩

/-- Taking out errors of fields leaves the rest where they point. -/
theorem Addressed.filter (generic : String) (es : List FieldError) (h : Addressed generic es)
    (keeps : FieldError → Bool) (hwhole : keeps (whole generic) = true) :
    Addressed generic (es.filter keeps) := by
  refine ⟨h.nodup.sublist (List.filter_sublist.map _), ?_⟩
  rcases h.fields with hall | ⟨rest, rfl, hrest⟩
  · exact Or.inl fun e he => hall e (List.mem_filter.mp he).1
  · refine Or.inr ⟨rest.filter keeps, List.filter_cons_of_pos hwhole, ?_⟩
    exact fun e he => hrest e (List.mem_filter.mp he).1

/-- New errors of a field may follow errors that are not about it. -/
theorem Addressed.append (generic : String) (es : List FieldError) (h : Addressed generic es)
    (name : String) (hes : ∀ e ∈ es, e.field? ≠ some name) (fs : List FieldError)
    (hfs : ∀ e ∈ fs, e.field? = some name) (hnodup : (fs.map FieldError.path).Nodup) :
    Addressed generic (es ++ fs) := by
  refine ⟨?_, ?_⟩
  · rw [List.map_append]
    refine List.nodup_append.mpr ⟨h.nodup, hnodup, ?_⟩
    intro p hp q hq heq
    obtain ⟨e, he, rfl⟩ := List.mem_map.mp hp
    obtain ⟨f, hf, rfl⟩ := List.mem_map.mp hq
    have hfield : e.field? = f.field? := by rw [field?, field?, heq]
    exact hes e he (hfield.trans (hfs f hf))
  · have hnew : ∀ e ∈ fs, ∃ n, e.field? = some n := fun e he => ⟨name, hfs e he⟩
    rcases h.fields with hall | ⟨rest, rfl, hrest⟩
    · refine Or.inl fun e he => ?_
      exact (List.mem_append.mp he).elim (hall e) (hnew e)
    · refine Or.inr ⟨rest ++ fs, List.cons_append, fun e he => ?_⟩
      exact (List.mem_append.mp he).elim (hrest e) (hnew e)

end FieldError

/-- What is rejected is never rejected twice for one place. -/
theorem Schema.nodup_path_of_judge (s : Schema) (hs : s.Distinct) (v : Option Json)
    (es : List FieldError) (h : s.judge v = .rejected es) :
    (es.map FieldError.path).Nodup := by
  have habort : (s.judge v).abort? = none := by rw [h, Verdict.abort?_rejected]
  have herrors := errors_judge s hs v habort
  rw [h] at herrors
  rw [show es = s.paths.filterMap (s.report? v) from herrors]
  exact nodup_path_filterMap_report? s hs v

namespace Members

variable (ms : Members)

/-- What is rejected of a whole document is reported about its fields. -/
theorem exists_field?_of_collect (o : Object) (es : List FieldError)
    (h : Verdict.collect (Schema.memberVerdicts ms o) = .rejected es) :
    ∀ e ∈ es, ∃ name, e.field? = some name := by
  have herrors := Verdict.errors_collect _ (by rw [h, Verdict.abort?_rejected])
  intro e he
  have hmem : e ∈ (Verdict.collect (Schema.memberVerdicts ms o)).errors := by
    rw [h]
    exact he
  rw [herrors] at hmem
  obtain ⟨v, _, hv⟩ := List.mem_flatMap.mp hmem
  exact ⟨v.1, Verdict.isFor_of_mem_errors_under v.1 v.2 e hv⟩

variable (hms : ms.Distinct)
include hms

theorem nodup_path_fieldErrors (name : String) (v : Option Json) (generic : String)
    (failure : Failure) (h : ms.validateField name v = .error failure) :
    ((failure.fieldErrors name generic).map FieldError.path).Nodup := by
  rcases fieldErrors_of_validateField ms name v generic failure h with
    ⟨s, es, hs, hes, heq⟩ | ⟨message, heq⟩
  · have hdistinct : s.Distinct :=
      ((distinct_iff ms).mp hms).2 _ (mem_of_get?_eq_some ms name s hs)
    rw [heq]
    exact FieldError.nodup_path_under name es (Schema.nodup_path_of_judge s hdistinct v es hes)
  · rw [heq]
    exact List.nodup_singleton _

/-- The errors of a whole document are about its fields, unless there is only the generic one. -/
theorem addressed_errors_of_validate (o : Object) (generic : String) (failure : Failure)
    (h : ms.validate (.object o) = .error failure) :
    FieldError.Addressed generic (failure.errors generic) := by
  rw [validate_object, Verdict.toExcept_eq_error_iff] at h
  rcases h with ⟨es, hes, rfl⟩ | ⟨p, _, rfl⟩
  · have hjudge : (Schema.record ms).judge (some (.object o)) = .rejected es := by
      rw [Schema.judge, Verdict.map_eq_rejected_iff, Schema.judgeMembers_eq, hes]
    exact ⟨Schema.nodup_path_of_judge _ hms _ es hjudge,
      Or.inl (exists_field?_of_collect ms o es hes)⟩
  · exact FieldError.addressed_whole generic

end Members

namespace Session

def Addressed (s : Session) : Prop := FieldError.Addressed s.generic s.errors

theorem addressed_start (ms : Members) (initial : Object) (generic : String) :
    ({ start ms initial with generic } : Session).Addressed := FieldError.addressed_nil generic

theorem field?_ne_of_mem_otherErrors (s : Session) (name : String) (e : FieldError)
    (he : e ∈ s.otherErrors name) : e.field? ≠ some name := by
  have hnot := (List.mem_filter.mp he).2
  simpa [FieldError.isFor] using hnot

/-- Taking out the errors of one field keeps the generic error. -/
theorem addressed_otherErrors (s : Session) (name : String) (hs : s.Addressed) :
    FieldError.Addressed s.generic (s.otherErrors name) :=
  FieldError.Addressed.filter s.generic s.errors hs _ rfl

theorem addressed_validate (s : Session) (hms : s.members.Distinct) :
    s.validate.2.Addressed := by
  cases h : s.members.validate (.object s.data) with
  | ok out =>
    rw [validate_of_ok s out h]
    exact FieldError.addressed_nil s.generic
  | error failure =>
    rw [validate_of_error s failure h]
    exact Members.addressed_errors_of_validate s.members hms s.data s.generic failure h

theorem addressed_validateField (s : Session) (hms : s.members.Distinct) (name : String)
    (hs : s.Addressed) : (s.validateField name).2.Addressed := by
  have hothers := addressed_otherErrors s name hs
  cases h : s.members.validateField name (s.data.get? name) with
  | ok w =>
    rw [validateField_of_ok s name w h]
    exact hothers
  | error failure =>
    have hnodup := Members.nodup_path_fieldErrors s.members hms name _ s.generic failure h
    have hfor := failure.isFor_of_mem_fieldErrors name s.generic
    rw [validateField_of_error s name failure h]
    exact FieldError.Addressed.append s.generic _ hothers name
      (field?_ne_of_mem_otherErrors s name) _ hfor hnodup

/-- What one action keeps. -/
theorem addressed_act (s : Session) (hms : s.members.Distinct) (a : Action) (hs : s.Addressed) :
    (s.act a).2.Addressed := by
  cases a with
  | setField name v => exact hs
  | removeField name => exact hs
  | update edit => exact hs
  | validate => exact addressed_validate s hms
  | validateField name => exact addressed_validateField s hms name hs
  | reset => exact FieldError.addressed_nil s.generic
  | resetField name => exact addressed_otherErrors s name hs

theorem addressed_runAll (s : Session) (hms : s.members.Distinct) (actions : List Action)
    (hs : s.Addressed) : (s.runAll actions).Addressed := by
  induction actions generalizing s with
  | nil => exact hs
  | cons a rest ih => exact ih (s.act a).2 (by simpa using hms) (addressed_act s hms a hs)

/-- In every state of a form the paths of the errors are pairwise distinct, a path that is not
empty starts with the name of a field, and an error without a path is the first one, the only one
of its kind, and has the generic message. -/
theorem errors_addressed (ms : Members) (hms : ms.Distinct) (initial : Object) (generic : String)
    (actions : List Action) :
    let s := ({ start ms initial with generic } : Session).runAll actions
    (s.errors.map FieldError.path).Nodup ∧
      (∀ e ∈ s.errors, e.path ≠ [] → ∃ name rest, e.path = .key name :: rest) ∧
      ∀ e ∈ s.errors, e.path = [] → e.message = generic ∧
        ∃ rest, s.errors = e :: rest ∧ ∀ f ∈ rest, f.path ≠ [] := by
  intro s
  have hgeneric : s.generic = generic := runAll_generic _ actions
  obtain ⟨hnodup, hfields⟩ : FieldError.Addressed s.generic s.errors :=
    addressed_runAll _ hms actions (addressed_start ms initial generic)
  have hkey : ∀ e : FieldError, (∃ name, e.field? = some name) →
      ∃ name rest, e.path = .key name :: rest := by
    rintro e ⟨name, hname⟩
    exact ⟨name, (FieldError.field?_eq_some_iff e name).mp hname⟩
  have hne : ∀ e : FieldError, (∃ name, e.field? = some name) → e.path ≠ [] := by
    intro e he
    obtain ⟨name, rest, hpath⟩ := hkey e he
    simp [hpath]
  refine ⟨hnodup, ?_, ?_⟩
  · intro e he hpath
    rcases hfields with hall | ⟨rest, heq, hrest⟩
    · exact hkey e (hall e he)
    · rcases List.mem_cons.mp (heq ▸ he) with rfl | hmem
      · exact absurd rfl hpath
      · exact hkey e (hrest e hmem)
  · intro e he hpath
    rcases hfields with hall | ⟨rest, heq, hrest⟩
    · exact absurd hpath (hne e (hall e he))
    · rcases List.mem_cons.mp (heq ▸ he) with rfl | hmem
      · exact ⟨hgeneric, rest, heq, fun f hf => hne f (hrest f hf)⟩
      · exact absurd hpath (hne e (hrest e hmem))

/-- A form whose code has a pattern that cannot be used: validating the form leaves the generic
error, to which validating two fields, one of them not declared, adds theirs. -/
theorem errors_addressed_parcel :
    let code : Schema := (Schema.string none).require (.pattern (Pattern.ofText "[")) none
    let ms : Members := [("code", code),
      ("size", .record [("height", .number none), ("width", .number none)])]
    let actions : List Action := [.setField "size" (.object []), .validate, .validateField "size",
      .validateField "colour", .validateField "size"]
    let s := (start ms [("code", .string "x")]).runAll actions
    ms.Distinct ∧ s.errors.map FieldError.path = [[], [.key "colour"],
        [.key "size", .key "height"], [.key "size", .key "width"]] ∧
      (s.errors.map FieldError.path).Nodup ∧
      s.errors.head? = some (FieldError.whole genericMessage) := by
  intro code ms actions s
  have hms : ms.Distinct := by decide
  have hpaths : s.errors.map FieldError.path = [[], [.key "colour"],
      [.key "size", .key "height"], [.key "size", .key "width"]] := rfl
  obtain ⟨hnodup, -, -⟩ := errors_addressed ms hms [("code", .string "x")] genericMessage actions
  exact ⟨hms, hpaths, hnodup, rfl⟩

end Session

end ModelForm
