import ModelForm.Proofs.FormCoherence

/-!
A form that nobody wrote to. Its data need not be the initial data: a validation may have
dropped what is not declared or not there, and resetting a field may have put some of it
back. But each declared field is still judged as it was in the initial data, because
decoding a decoded value gives the same verdict, and so the whole form is.
-/

namespace ModelForm

namespace Session

/-- Each declared field is judged as it is in the initial data. -/
def JudgedAsInitial (s : Session) : Prop :=
  ∀ m ∈ s.members, m.2.judge (s.data.get? m.1) = m.2.judge (s.initial.get? m.1)

theorem judgedAsInitial_validate (s : Session) (hms : s.members.Distinct)
    (h : s.JudgedAsInitial) : s.validate.2.JudgedAsInitial := by
  have hinitial : s.validate.2.initial = s.initial := act_initial s .validate
  unfold JudgedAsInitial
  rw [validate_members, hinitial]
  intro m hm
  exact (judge_validate s hms m hm).trans (h m hm)

theorem judgedAsInitial_validateField (s : Session) (name : String) (h : s.JudgedAsInitial) :
    (s.validateField name).2.JudgedAsInitial := by
  have hinitial : (s.validateField name).2.initial = s.initial :=
    act_initial s (.validateField name)
  unfold JudgedAsInitial
  rwa [validateField_members, validateField_data, hinitial]

theorem judgedAsInitial_resetField (s : Session) (name : String) (h : s.JudgedAsInitial) :
    (s.resetField name).JudgedAsInitial := by
  intro m hm
  by_cases hname : m.1 = name
  · subst hname
    exact congrArg m.2.judge (get?_resetField_self s m.1)
  · exact (congrArg m.2.judge (get?_resetField_of_ne s hname)).trans (h m hm)

/-- What one action keeps, as long as nothing is written. -/
theorem judgedAsInitial_act (s : Session) (hms : s.members.Distinct) (a : Action)
    (hs : s.isDirty = false → s.JudgedAsInitial) (h : (s.act a).2.isDirty = false) :
    (s.act a).2.JudgedAsInitial := by
  have hflag := isDirty_act s a
  rw [h, eq_comm, Bool.or_eq_false_iff] at hflag
  obtain ⟨hwrites, hkept⟩ := hflag
  -- all but a reset keep the flag, so that the form was not dirty before
  have hbefore : a.resets = false → s.JudgedAsInitial := by
    intro hresets
    exact hs (by simpa [hresets] using hkept)
  cases a with
  | setField name v => simp [Action.writes] at hwrites
  | removeField name => simp [Action.writes] at hwrites
  | update edit => simp [Action.writes] at hwrites
  | reset => exact fun m _ => rfl
  | validate => exact judgedAsInitial_validate s hms (hbefore rfl)
  | validateField name => exact judgedAsInitial_validateField s name (hbefore rfl)
  | resetField name => exact judgedAsInitial_resetField s name (hbefore rfl)

theorem judgedAsInitial_runAll (s : Session) (hms : s.members.Distinct)
    (actions : List Action) (hs : s.isDirty = false → s.JudgedAsInitial)
    (h : (s.runAll actions).isDirty = false) : (s.runAll actions).JudgedAsInitial := by
  induction actions generalizing s with
  | nil => exact hs h
  | cons a rest ih =>
    exact ih (s.act a).2 (by simpa using hms) (judgedAsInitial_act s hms a hs) h

/-- As long as a form is not dirty its data comes to the same as the initial data: the same decoded
document, the same errors or the same pattern. -/
theorem validate_data_of_not_isDirty (ms : Members) (hms : ms.Distinct) (initial : Object)
    (generic : String) (actions : List Action)
    (hclean : (({ start ms initial with generic } : Session).runAll actions).isDirty = false) :
    let s := ({ start ms initial with generic } : Session).runAll actions
    ms.validate (.object s.data) = ms.validate (.object initial) := by
  intro s
  have hjudged : s.JudgedAsInitial :=
    judgedAsInitial_runAll _ hms actions (fun _ m _ => rfl) hclean
  have hmembers : s.members = ms := runAll_members _ actions
  have hinitial : s.initial = initial := runAll_initial _ actions
  unfold JudgedAsInitial at hjudged
  rw [hmembers, hinitial] at hjudged
  rw [Members.validate_object, Members.validate_object,
    (Schema.memberVerdicts_eq_iff ms s.data initial).mpr hjudged]

/-- A form between its raw and its decoded data: the validation dropped an undeclared member and a
note that is null, and the reset of the note brought that one back. -/
theorem validate_data_of_not_isDirty_note :
    let ms : Members := [("name", .string none), ("note", .optional (.string none))]
    let initial : Object := [("name", .string "Ann"), ("note", .null), ("stray", .bool true)]
    let s := (start ms initial).runAll [.validate, .resetField "note"]
    ms.Distinct ∧ s.isDirty = false ∧
      s.validate.2.data = [("name", .string "Ann")] ∧
      s.data = [("name", .string "Ann"), ("note", .null)] ∧
      ms.validate (.object s.data) = ms.validate (.object initial) := by
  intro ms initial s
  have hms : ms.Distinct := by decide
  have hclean : s.isDirty = false := rfl
  refine ⟨hms, hclean, rfl, rfl, ?_⟩
  exact validate_data_of_not_isDirty ms hms initial genericMessage
    [.validate, .resetField "note"] hclean

end Session

end ModelForm
