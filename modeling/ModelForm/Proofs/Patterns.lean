import ModelForm.Proofs.SingleField

/-!
Patterns and how decoding ends. Where every pattern of a schema can be used no decoding
is cut short, so a document is either accepted or rejected, and what is rejected is
rejected for at least one error.
-/

namespace ModelForm

def Requirement.Usable : Requirement → Prop
  | .pattern p => p.isValid = true
  | _ => True

inductive Schema.Usable : Schema → Prop
  | atomic (a : AtomicSchema) (h : ∀ c ∈ a.constraints, c.requirement.Usable) :
      Usable (.atomic a)
  | unknown : Usable .unknown
  | record (ms : Members) (hms : ∀ m ∈ ms, Usable m.2) : Usable (.record ms)
  | optional (s : Schema) (hs : Usable s) : Usable (.optional s)

def Members.Usable (ms : Members) : Prop := (Schema.record ms).Usable

theorem Pattern.exists_occurs? (p : Pattern) (hp : p.isValid = true) (text : String) :
    ∃ found, p.occurs? text = some found := by
  obtain ⟨r, hr⟩ := Option.isSome_iff_exists.mp hp
  exact ⟨r.occurs text.toList, by simp [Pattern.occurs?, hr]⟩

theorem Requirement.exists_holds (r : Requirement) (hr : r.Usable) (v : Json) :
    ∃ ok, r.holds v = .ok ok := by
  cases r with
  | pattern p =>
    cases v with
    | string s =>
      obtain ⟨found, hfound⟩ := Pattern.exists_occurs? p hr s
      exact ⟨found, by simp [holds, matchesPattern, hfound]⟩
    | _ => exact ⟨true, rfl⟩
  | _ => exact ⟨_, rfl⟩

namespace AtomicSchema

theorem exists_firstViolation (v : Json) (cs : List Constraint)
    (hcs : ∀ c ∈ cs, c.requirement.Usable) : ∃ report, firstViolation v cs = .ok report := by
  induction cs with
  | nil => exact ⟨none, rfl⟩
  | cons c rest ih =>
    obtain ⟨ok, hok⟩ := Requirement.exists_holds c.requirement (hcs c (List.mem_cons_self ..)) v
    rw [firstViolation_cons, hok]
    cases ok with
    | true => exact ih fun d hd => hcs d (List.mem_cons_of_mem _ hd)
    | false => exact ⟨some c.report, rfl⟩

theorem abort?_judge (a : AtomicSchema) (ha : ∀ c ∈ a.constraints, c.requirement.Usable)
    (v : Json) : (a.judge v).abort? = none := by
  have hviolation : ∃ report, a.violation v = .ok report := by
    unfold violation
    split
    · exact exists_firstViolation v a.constraints ha
    · exact ⟨_, rfl⟩
  obtain ⟨report, hreport⟩ := hviolation
  cases report <;> simp [judge, hreport]

theorem ne_nil_of_judge (a : AtomicSchema) (v : Json) (es : List FieldError)
    (h : a.judge v = .rejected es) : es ≠ [] := by
  unfold judge at h
  split at h
  · simp at h
  · simp [← Verdict.rejected.inj h]
  · simp at h

end AtomicSchema

namespace Schema

/-- Decoding by a schema whose patterns are valid is never cut short. -/
theorem abort?_judge (s : Schema) (hs : s.Usable) (v : Option Json) :
    (s.judge v).abort? = none := by
  induction hs generalizing v with
  | atomic a ha =>
    cases v with
    | none => simp [judge]
    | some v => simpa [judge] using AtomicSchema.abort?_judge a ha v
  | unknown => simp [judge]
  | record ms hms ih =>
    rcases judge_record_cases ms v with ⟨o, rfl, heq⟩ | ⟨message, heq⟩
    · have hverdicts : ∀ u ∈ memberVerdicts ms o, u.2.abort? = none := by
        intro u hu
        obtain ⟨m, hm, rfl⟩ := List.mem_map.mp hu
        exact ih m hm _
      rw [heq, Verdict.abort?_map, judgeMembers_eq, Verdict.abort?_collect]
      exact List.findSome?_eq_none_iff.mpr hverdicts
    · simp [heq]
  | optional s hs ih =>
    rcases judge_optional_cases s v with ⟨_, heq⟩ | ⟨_, _, heq⟩
    · simp [heq]
    · rw [heq, ih v]

/-- What is rejected is rejected for something. -/
theorem ne_nil_of_judge (s : Schema) (v : Option Json) (es : List FieldError)
    (h : s.judge v = .rejected es) : es ≠ [] := by
  induction s generalizing v es with
  | atomic a =>
    cases v with
    | none =>
      simp only [judge, Verdict.rejected.injEq] at h
      simp [← h]
    | some v =>
      simp only [judge] at h
      exact AtomicSchema.ne_nil_of_judge a v es h
  | unknown => simp [judge] at h
  | record ms ih =>
    rcases judge_record_cases ms v with ⟨o, rfl, heq⟩ | ⟨message, heq⟩
    · have hmembers := (Verdict.map_eq_rejected_iff _ _ _).mp (heq.symm.trans h)
      rw [judgeMembers_eq] at hmembers
      refine Verdict.ne_nil_of_collect _ ?_ es hmembers
      intro u hu fs hfs
      obtain ⟨m, hm, rfl⟩ := List.mem_map.mp hu
      exact ih m hm _ fs hfs
    · simp [← Verdict.rejected.inj (heq.symm.trans h)]
  | optional s ih =>
    rcases judge_optional_cases s v with ⟨_, heq⟩ | ⟨_, _, heq⟩
    · simp [heq] at h
    · exact ih v es (heq.symm.trans h)

end Schema

/-- A failure of decoding is a report of errors, or comes from a pattern. -/
inductive Failure.Decoding : Failure → Prop
  | rejected (es : List FieldError) (h : es ≠ []) : Decoding (.rejected es)
  | invalidPattern (source : String) : Decoding (.invalidPattern source)

theorem Failure.Decoding.errors_ne_nil (failure : Failure) (h : failure.Decoding)
    (generic : String) : failure.errors generic ≠ [] := by
  cases h with
  | rejected es hes => exact hes
  | invalidPattern source => simp [errors]

/-- How decoding can fail. -/
theorem Schema.decoding_of_decode (s : Schema) (v : Json) (failure : Failure)
    (h : s.decode v = .error failure) : failure.Decoding := by
  have hjudge : (s.judge (some v)).toExcept = .error failure := by
    unfold decode at h
    cases hverdict : (s.judge (some v)).toExcept with
    | error e =>
      rw [hverdict] at h
      exact congrArg Except.error (Except.error.inj h)
    | ok w =>
      rw [hverdict] at h
      cases h
  rcases (Verdict.toExcept_eq_error_iff _ _).mp hjudge with ⟨es, hes, rfl⟩ | ⟨p, _, rfl⟩
  · exact .rejected es (ne_nil_of_judge s (some v) es hes)
  · exact .invalidPattern p.source

namespace Members

/-- Decoding an object by a record is validating it. -/
theorem decode_object (ms : Members) (o : Object) :
    (Schema.record ms).decode (.object o) = (ms.validate (.object o)).map Json.object := by
  simp only [Schema.decode, Schema.judge, validate]
  cases Schema.judgeMembers ms o <;> rfl

theorem decode_of_validate_error (ms : Members) (o : Object) (failure : Failure)
    (h : ms.validate (.object o) = .error failure) :
    (Schema.record ms).decode (.object o) = .error failure := by
  rw [decode_object, h]
  rfl

/-- A document that is not accepted has errors to report. -/
theorem errors_ne_nil_of_validate (ms : Members) (o : Object) (generic : String)
    (failure : Failure) (h : ms.validate (.object o) = .error failure) :
    failure.errors generic ≠ [] := by
  have hdecode := decode_of_validate_error ms o failure h
  exact (Schema.decoding_of_decode _ _ _ hdecode).errors_ne_nil failure generic

section Usable

variable (ms : Members) (hms : ms.Usable)
include hms

theorem Usable.of_mem (m : String × Schema) (hm : m ∈ ms) : m.2.Usable := by
  cases hms with
  | record _ h => exact h m hm

/-- A declared field is accepted, or rejected for errors of its own. -/
theorem validateField_cases (name : String) (hname : name ∈ ms.names) (v : Option Json) :
    (∃ w, ms.validateField name v = .ok w) ∨
      ∃ es, ms.validateField name v = .error (.rejected es) ∧ es ≠ [] := by
  obtain ⟨s, hs⟩ := (exists_get?_iff ms name).mpr hname
  have husable : s.Usable := Usable.of_mem ms hms (name, s) (mem_of_get?_eq_some ms name s hs)
  rw [validateField_eq ms name s hs]
  cases hjudge : s.judge v with
  | accepted w => exact Or.inl ⟨w, rfl⟩
  | rejected es =>
    refine Or.inr ⟨es.map (FieldError.under name), rfl, ?_⟩
    simpa using Schema.ne_nil_of_judge s v es hjudge
  | aborted p =>
    have habort := Schema.abort?_judge s husable v
    simp [hjudge] at habort

/-- No field of the record ends in a pattern. -/
theorem validateField_ne_invalidPattern (name : String) (hname : name ∈ ms.names)
    (v : Option Json) (p : String) : ms.validateField name v ≠ .error (.invalidPattern p) := by
  rcases validateField_cases ms hms name hname v with ⟨w, hw⟩ | ⟨es, hes, _⟩
  · simp [hw]
  · simp [hes]

/-- Errors are found in a declared field exactly if it is not accepted. -/
theorem inputErrors_eq_nil_iff (name : String) (hname : name ∈ ms.names) (v : Option Json) :
    inputErrors (ms.validateField name v) = [] ↔ ∃ w, ms.validateField name v = .ok w := by
  rcases validateField_cases ms hms name hname v with ⟨w, hw⟩ | ⟨es, hes, hne⟩
  · simp [hw, inputErrors]
  · simp [hes, inputErrors, hne]

end Usable

def signup : Members :=
  [("name", (Schema.string none).require (.pattern (Pattern.ofText "^[A-Z]")) none),
    ("age", Schema.number none)]

theorem distinct_signup : signup.Distinct := by decide

theorem usable_signup : signup.Usable := by
  have hvalid : (Pattern.ofText "^[A-Z]").isValid = true := by decide
  refine .record _ ?_
  intro m hm
  rcases List.mem_pair.mp hm with rfl | rfl
  · refine .atomic _ ?_
    intro c hc
    rw [List.mem_singleton.mp hc]
    exact hvalid
  · exact .atomic _ (by simp)

end Members

end ModelForm
