import ModelForm.Proofs.FormValidity

/-!
How the parts of a form agree. The status says what to expect of the data, the errors and
the dirty flag, and every action keeps it true, whatever a decoding comes to. Validating a
field may put the earlier status back, but only while errors of other fields remain, so
what it puts back is never clean. The flag itself remembers the writes since the form was
last reset. Only resetting a field can leave an invalid form without errors.
-/

namespace ModelForm

/-- Nothing is left half validated, a clean form is as it was given, and a dirty one was written. -/
structure Session.Coherent (s : Session) : Prop where
  settled : s.status ≠ .validating
  clean : s.status = .clean → s.data = s.initial ∧ s.errors = [] ∧ s.isDirty = false
  dirty : s.status = .dirty → s.isDirty = true

namespace Action

/-- Whether the action writes data that nobody has judged. -/
def writes : Action → Bool
  | .setField _ _ => true
  | .removeField _ => true
  | .update _ => true
  | _ => false

def resets : Action → Bool
  | .reset => true
  | _ => false

def resetsField : Action → Bool
  | .resetField _ => true
  | _ => false

end Action

/-- A field that is not accepted has errors to report under its name, also one that is not declared
or that ends in an unusable pattern. -/
theorem Members.fieldErrors_ne_nil_of_validateField (ms : Members) (name : String)
    (v : Option Json) (generic : String) (failure : Failure)
    (h : ms.validateField name v = .error failure) : failure.fieldErrors name generic ≠ [] := by
  rcases fieldErrors_of_validateField ms name v generic failure h with
    ⟨s, es, _, hes, heq⟩ | ⟨message, heq⟩
  · rw [heq]
    simpa using Schema.ne_nil_of_judge s v es hes
  · simp [heq]

namespace Session

/-- No action changes what the form starts from. -/
@[simp] theorem act_initial (s : Session) (a : Action) : (s.act a).2.initial = s.initial := by
  cases a with
  | validate =>
    simp only [act, validate]
    split <;> rfl
  | validateField name =>
    simp only [act, validateField]
    split <;> rfl
  | _ => rfl

theorem runAll_initial (s : Session) (actions : List Action) :
    (s.runAll actions).initial = s.initial := by
  induction actions generalizing s with
  | nil => rfl
  | cons a rest ih =>
    show ((s.act a).2.runAll rest).initial = s.initial
    rw [ih, act_initial]

theorem coherent_start (ms : Members) (initial : Object) (generic : String) :
    ({ start ms initial with generic } : Session).Coherent :=
  ⟨by simp [start], by simp [start], by simp [start]⟩

theorem coherent_write (s : Session) (data : Object) : (s.write data).Coherent :=
  ⟨by simp [write], by simp [write], by simp [write]⟩

theorem coherent_reset (s : Session) : s.reset.Coherent :=
  ⟨by simp [reset], by simp [reset], by simp [reset]⟩

theorem coherent_validate (s : Session) : s.validate.2.Coherent := by
  cases h : s.members.validate (.object s.data) with
  | ok out =>
    rw [validate_of_ok s out h]
    exact ⟨by simp, by simp, by simp⟩
  | error failure =>
    rw [validate_of_error s failure h]
    exact ⟨by simp, by simp, by simp⟩

theorem coherent_validateField (s : Session) (name : String) (hs : s.Coherent) :
    (s.validateField name).2.Coherent := by
  cases h : s.members.validateField name (s.data.get? name) with
  | ok w =>
    rw [validateField_of_ok s name w h]
    by_cases hempty : s.otherErrors name = []
    · exact ⟨by simp [hempty], by simp [hempty], by simp [hempty]⟩
    · -- the earlier status is put back, and it went with errors
      have herrors : s.errors ≠ [] := by
        intro hnil
        simp [otherErrors, hnil] at hempty
      refine ⟨by simpa [hempty] using hs.settled, ?_, by simpa [hempty] using hs.dirty⟩
      intro hclean
      have hbefore : s.status = .clean := by simpa [hempty] using hclean
      exact absurd (hs.clean hbefore).2.1 herrors
  | error failure =>
    rw [validateField_of_error s name failure h]
    exact ⟨by simp, by simp, by simp⟩

/-- Resetting a field of data that is as given changes nothing. -/
theorem resetField_data_of_eq_initial (s : Session) (hinitial : s.initial.Ascending)
    (name : String) (h : s.data = s.initial) : (s.resetField name).data = s.initial := by
  unfold resetField
  rw [h]
  cases hvalue : s.initial.get? name with
  | some v => exact Object.insert_of_get?_eq_some s.initial hinitial name v hvalue
  | none => exact Object.erase_of_get?_eq_none s.initial name hvalue

theorem coherent_resetField (s : Session) (hinitial : s.initial.Ascending) (name : String)
    (hs : s.Coherent) : (s.resetField name).Coherent := by
  refine ⟨hs.settled, ?_, hs.dirty⟩
  intro hclean
  obtain ⟨hdata, herrors, hdirty⟩ := hs.clean hclean
  refine ⟨resetField_data_of_eq_initial s hinitial name hdata, ?_, hdirty⟩
  simp [resetField, otherErrors, herrors]

/-- What one action keeps. -/
theorem coherent_act (s : Session) (hinitial : s.initial.Ascending) (a : Action)
    (hs : s.Coherent) : (s.act a).2.Coherent := by
  cases a with
  | setField name v => exact coherent_write s _
  | removeField name => exact coherent_write s _
  | update edit => exact coherent_write s _
  | validate => exact coherent_validate s
  | validateField name => exact coherent_validateField s name hs
  | reset => exact coherent_reset s
  | resetField name => exact coherent_resetField s hinitial name hs

theorem coherent_runAll (s : Session) (hinitial : s.initial.Ascending) (actions : List Action)
    (hs : s.Coherent) : (s.runAll actions).Coherent := by
  induction actions generalizing s with
  | nil => exact hs
  | cons a rest ih =>
    exact ih (s.act a).2 (by simpa using hinitial) (coherent_act s hinitial a hs)

/-- Writes put the flag up, resetting the form puts it down, and nothing else moves it. -/
theorem isDirty_act (s : Session) (a : Action) :
    (s.act a).2.isDirty = (a.writes || (s.isDirty && !a.resets)) := by
  cases a with
  | validate =>
    simp only [act, validate, Action.writes, Action.resets]
    split <;> simp
  | validateField name =>
    simp only [act, validateField, Action.writes, Action.resets]
    split <;> simp
  | _ => simp [act, setField, removeField, update, write, reset, resetField, Action.writes,
      Action.resets]

theorem isDirty_runAll (s : Session) (actions : List Action) : (s.runAll actions).isDirty =
    actions.foldl (fun flag a => a.writes || (flag && !a.resets)) s.isDirty := by
  induction actions generalizing s with
  | nil => rfl
  | cons a rest ih =>
    rw [List.foldl_cons, ← isDirty_act]
    exact ih (s.act a).2

/-- Only resetting a field leaves an invalid form without errors. -/
theorem errors_act_of_invalid (s : Session) (a : Action) (ha : a.resetsField = false)
    (h : (s.act a).2.status = .invalid) : (s.act a).2.errors ≠ [] := by
  cases a with
  | setField name v => simp [act, setField, write] at h
  | removeField name => simp [act, removeField, write] at h
  | update edit => simp [act, update, write] at h
  | validate =>
    cases hdata : s.members.validate (.object s.data) with
    | ok out => simp [act, validate_of_ok s out hdata] at h
    | error failure =>
      simp only [act, validate_of_error s failure hdata]
      exact Members.errors_ne_nil_of_validate s.members s.data s.generic failure hdata
  | validateField name =>
    cases hfield : s.members.validateField name (s.data.get? name) with
    | ok w =>
      simp only [act, validateField_of_ok s name w hfield] at h ⊢
      intro hempty
      simp [hempty] at h
    | error failure =>
      have hne := Members.fieldErrors_ne_nil_of_validateField s.members name _ s.generic failure
        hfield
      simp [act, validateField_of_error s name failure hfield, hne]
  | reset => simp [act, reset] at h
  | resetField name => simp [Action.resetsField] at ha

theorem errors_runAll_of_invalid (s : Session) (actions : List Action)
    (hactions : ∀ a ∈ actions, a.resetsField = false) (hs : s.status ≠ .invalid)
    (h : (s.runAll actions).status = .invalid) : (s.runAll actions).errors ≠ [] := by
  rcases List.eq_nil_or_concat actions with rfl | ⟨front, a, rfl⟩
  · exact absurd h hs
  · have hlast : s.runAll (front ++ [a]) = ((s.runAll front).act a).2 := by simp [runAll]
    rw [List.concat_eq_append, hlast] at h ⊢
    exact errors_act_of_invalid _ a (hactions a (by simp)) h

/-- In every state of a form the status, the errors, the data and the dirty flag agree. -/
theorem coherent_of_start (ms : Members) (initial : Object) (hinitial : initial.Ascending)
    (generic : String) (actions : List Action) :
    let s := ({ start ms initial with generic } : Session).runAll actions
    s.status ≠ .validating ∧
      (s.status = .clean → s.data = initial ∧ s.errors = [] ∧ s.isDirty = false) ∧
      (s.status = .valid → s.errors = []) ∧
      (s.status = .dirty → s.isDirty = true) ∧
      (s.isDirty = true ↔ ∃ front a back, actions = front ++ a :: back ∧ a.writes = true ∧
        ∀ b ∈ back, b.resets = false) ∧
      ((∀ a ∈ actions, a.resetsField = false) → s.status = .invalid → s.errors ≠ []) := by
  intro s
  have hcoherent : s.Coherent :=
    coherent_runAll _ hinitial actions (coherent_start ms initial generic)
  have hkept : s.initial = initial := runAll_initial _ actions
  refine ⟨hcoherent.settled, ?_, ?_, hcoherent.dirty, ?_, ?_⟩
  · rw [← hkept]
    exact hcoherent.clean
  · intro hvalid
    refine errors_runAll_of_isValid _ actions ?_ (beq_iff_eq.mpr hvalid)
    simp [start, isValid]
  · rw [← Action.foldl_flag_iff Action.writes Action.resets actions]
    exact Bool.coe_iff_coe.mpr (isDirty_runAll _ actions)
  · intro hactions
    exact errors_runAll_of_invalid _ actions hactions (by simp [start])

/-- A form with a pattern that cannot be used: its field and one it does not declare are both
reported, and it is invalid. -/
theorem coherent_of_start_code :
    let ms : Members :=
      [("code", (Schema.string none).require (.pattern (Pattern.ofText "[")) none)]
    let actions : List Action :=
      [.setField "code" (.string "x"), .validateField "code", .validateField "cod"]
    let s := (start ms [("code", .null)]).runAll actions
    Object.Ascending [("code", .null)] ∧ s.status = .invalid ∧ s.errors ≠ [] ∧
      s.isDirty = true := by
  intro ms actions s
  have hinitial : Object.Ascending [("code", .null)] := List.pairwise_singleton _ _
  have hinvalid : s.status = .invalid := rfl
  have hactions : ∀ a ∈ actions, a.resetsField = false := by
    simp [actions, Action.resetsField]
  obtain ⟨_, _, _, _, hdirty, herrors⟩ :=
    coherent_of_start ms [("code", .null)] hinitial genericMessage actions
  refine ⟨hinitial, hinvalid, herrors hactions hinvalid, hdirty.mpr ?_⟩
  exact ⟨[], _, _, rfl, rfl, by simp [Action.resets]⟩

end Session

end ModelForm
