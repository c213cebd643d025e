import ModelForm.Proofs.FormErrors

/-!
What it means that a form is valid. A form turns valid when no errors remain, and that
is all it says: fields that nobody validated may hold anything. With the fields that
were judged after they were last touched it follows how much of a valid form is known
to be valid data.
-/

namespace ModelForm.Session

/-- What one action keeps: a form that is valid holds no errors. -/
theorem errors_act_of_isValid (s : Session) (a : Action) (hs : s.isValid = true → s.errors = [])
    (h : (s.act a).2.isValid = true) : (s.act a).2.errors = [] := by
  have hother : ∀ name, s.errors = [] → s.otherErrors name = [] := by
    intro name hnil
    simp [otherErrors, hnil]
  cases a with
  | setField name v => simp [act, setField, write, isValid] at h
  | removeField name => simp [act, removeField, write, isValid] at h
  | update edit => simp [act, update, write, isValid] at h
  | validate =>
    cases hdata : s.members.validate (.object s.data) with
    | ok out => simp [act, validate_of_ok s out hdata]
    | error failure => simp [act, validate_of_error s failure hdata, isValid] at h
  | validateField name =>
    cases hfield : s.members.validateField name (s.data.get? name) with
    | ok w =>
      simp only [act, validateField_of_ok s name w hfield] at h ⊢
      by_cases hempty : (s.otherErrors name).isEmpty = true
      · exact List.isEmpty_iff.mp hempty
      · simp only [hempty] at h
        exact hother name (hs h)
    | error failure => simp [act, validateField_of_error s name failure hfield, isValid] at h
  | reset => simp [act, reset, isValid] at h
  | resetField name => exact hother name (hs h)

theorem errors_runAll_of_isValid (s : Session) (actions : List Action)
    (hs : s.isValid = true → s.errors = []) (h : (s.runAll actions).isValid = true) :
    (s.runAll actions).errors = [] := by
  induction actions generalizing s with
  | nil => exact hs h
  | cons a rest ih => exact ih (s.act a).2 (errors_act_of_isValid s a hs) h

/-- A form may be valid while its data is not: a field that nobody validated may be missing, and a
field may go back to an initial value that was never validated. -/
theorem isValid_of_invalid_data :
    let ms := Members.signup
    let judgedOne := (start ms [("name", .string "Ann")]).runAll [.validateField "name"]
    let restored := (start ms [("name", .string "Ann")]).runAll
      [.setField "age" (.number (.integer 3)), .validate, .resetField "age"]
    ms.Distinct ∧ ms.Usable ∧
      judgedOne.isValid = true ∧ (∀ out, ms.validate (.object judgedOne.data) ≠ .ok out) ∧
      restored.isValid = true ∧ ∀ out, ms.validate (.object restored.data) ≠ .ok out := by
  intro ms judgedOne restored
  have hmissing : ms.validate (.object [("name", .string "Ann")]) =
      .error (.rejected [⟨[.key "age"], requiredMessage⟩]) := rfl
  have hinvalid : ∀ out, ms.validate (.object [("name", .string "Ann")]) ≠ .ok out := by
    intro out h
    simpa using hmissing.symm.trans h
  exact ⟨Members.distinct_signup, Members.usable_signup, rfl, hinvalid, rfl, hinvalid⟩

/-- A valid form holds no errors, every declared field that was judged after it was last touched is
valid, and so the data is valid exactly if every other declared field is. -/
theorem validate_ok_iff_of_isValid (ms : Members) (hms : ms.Distinct) (husable : ms.Usable)
    (initial : Object) (generic : String) (actions : List Action)
    (hvalid : (({ start ms initial with generic } : Session).runAll actions).isValid = true) :
    let s := ({ start ms initial with generic } : Session).runAll actions
    s.errors = [] ∧
      (∀ n ∈ ms.names, Action.judged actions n = true →
        ∃ w, ms.validateField n (s.data.get? n) = .ok w) ∧
      ((∃ out, ms.validate (.object s.data) = .ok out) ↔
        ∀ n ∈ ms.names, Action.judged actions n = false →
          ∃ w, ms.validateField n (s.data.get? n) = .ok w) := by
  intro s
  have hnil : s.errors = [] := by
    refine errors_runAll_of_isValid _ actions ?_ hvalid
    intro hstart
    simp [start, isValid] at hstart
  have hjudged : ∀ n ∈ ms.names, Action.judged actions n = true →
      ∃ w, ms.validateField n (s.data.get? n) = .ok w := by
    intro n hn hj
    have hcurrent : s.Current n := current_runAll _ hms husable n hn actions false (by simp) hj
    unfold Current at hcurrent
    rw [runAll_members] at hcurrent
    exact hcurrent.2.mp (by simp [errorsFor, hnil])
  refine ⟨hnil, hjudged, ?_⟩
  rw [Members.validate_ok_iff ms ((Members.distinct_iff ms).mp hms).1 s.data]
  constructor
  · intro h n hn _
    exact h n hn
  · intro h n hn
    cases hj : Action.judged actions n with
    | true => exact hjudged n hn hj
    | false => exact h n hn hj

/-- A form of which only the name was judged is valid; its data is not, for want of an age. -/
theorem validate_ok_iff_signup :
    let actions : List Action := [.setField "name" (.string "Ann"), .validateField "name"]
    let s := (start Members.signup []).runAll actions
    Members.signup.Distinct ∧ Members.signup.Usable ∧ s.isValid = true ∧ s.errors = [] ∧
      ((∃ out, Members.signup.validate (.object s.data) = .ok out) ↔
        ∃ w, Members.signup.validateField "age" (s.data.get? "age") = .ok w) := by
  intro actions s
  have hvalid : s.isValid = true := rfl
  obtain ⟨herrors, _, hiff⟩ := validate_ok_iff_of_isValid Members.signup Members.distinct_signup
    Members.usable_signup [] genericMessage actions hvalid
  refine ⟨Members.distinct_signup, Members.usable_signup, hvalid, herrors, hiff.trans ?_⟩
  constructor
  · intro h
    exact h "age" (by decide) (by decide)
  · intro h n hn hj
    rcases List.mem_pair.mp hn with rfl | rfl
    · simp [actions, Action.judged, Action.judges, Action.covers] at hj
    · exact h

end ModelForm.Session
