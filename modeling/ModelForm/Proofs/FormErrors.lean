import ModelForm.Session
import ModelForm.Proofs.Stability
import ModelForm.Proofs.Patterns

/-!
The errors of a form in use. A field is touched by whatever may write its value and
judged by a validation that covers it. Once a field is judged, its errors are those of
its current value until it is touched: other writes do not reach it, validating other
fields leaves its errors alone, and the decoded data that a successful validation puts
in place is judged like the data before.
-/

namespace ModelForm

/-- The errors that the form holds about a field are those of its current value. -/
def Session.Current (s : Session) (name : String) : Prop :=
  s.errorsFor name = inputErrors (s.members.validateField name (s.data.get? name)) ∧
    (s.errorsFor name = [] ↔ ∃ w, s.members.validateField name (s.data.get? name) = .ok w)

namespace Action

def touches (name : String) : Action → Bool
  | .setField n _ => n == name
  | .removeField n => n == name
  | .update _ => true
  | .reset => true
  | .resetField n => n == name
  | .validate => false
  | .validateField _ => false

/-- Whether the action judges the field, given that it is declared. -/
def covers (name : String) : Action → Bool
  | .validate => true
  | .validateField n => n == name
  | _ => false

def judges (name : String) (before : Bool) (a : Action) : Bool :=
  a.covers name || (before && !a.touches name)

/-- Whether a run of actions judged the field after it last touched it. -/
def judged (actions : List Action) (name : String) : Bool := actions.foldl (judges name) false

/-- A flag that some actions set and others clear is up after a run exactly if some action sets it
and no later one clears it. -/
theorem foldl_flag_iff (sets clears : Action → Bool) (actions : List Action) :
    actions.foldl (fun flag a => sets a || (flag && !clears a)) false = true ↔
      ∃ front a back, actions = front ++ a :: back ∧ sets a = true ∧
        ∀ b ∈ back, clears b = false := by
  induction actions using List.reverseRecOn with
  | nil => simp
  | append_singleton front a ih =>
    rw [List.foldl_append, List.foldl_cons, List.foldl_nil, Bool.or_eq_true, Bool.and_eq_true, ih]
    constructor
    · rintro (hsets | ⟨⟨front', a', back, rfl, hsets, hback⟩, hclears⟩)
      · exact ⟨front, a, [], rfl, hsets, by simp⟩
      · refine ⟨front', a', back ++ [a], by simp, hsets, ?_⟩
        intro b hb
        rcases List.mem_append.mp hb with hb | hb
        · exact hback b hb
        · rw [List.mem_singleton.mp hb]
          simpa using hclears
    · rintro ⟨front', a', back, heq, hsets, hback⟩
      rcases List.eq_nil_or_concat back with rfl | ⟨back', b, rfl⟩
      · obtain ⟨_, hlast⟩ := List.append_inj' heq rfl
        obtain rfl := List.singleton_inj.mp hlast
        exact Or.inl hsets
      · have hsplit : front ++ [a] = (front' ++ a' :: back') ++ [b] := by simpa using heq
        obtain ⟨rfl, hlast⟩ := List.append_inj' hsplit rfl
        obtain rfl := List.singleton_inj.mp hlast
        refine Or.inr ⟨⟨front', a', back', rfl, hsets, ?_⟩, ?_⟩
        · intro c hc
          exact hback c (by simp [hc])
        · simpa using hback a (by simp)

/-- A field is judged after a run exactly if some action covers it and no later one touches it. -/
theorem judged_iff (actions : List Action) (name : String) :
    judged actions name = true ↔ ∃ front a back, actions = front ++ a :: back ∧
      a.covers name = true ∧ ∀ b ∈ back, b.touches name = false :=
  foldl_flag_iff (covers name) (touches name) actions

end Action

/-- Errors that all concern the field are its errors. -/
theorem Failure.fieldErrors_rejected (name generic : String) (es : List FieldError)
    (h : ∀ e ∈ es, e.field? = some name) :
    (Failure.rejected es).fieldErrors name generic = es := by
  have hmap : es.map (fun e => if e.path.isEmpty then e.under name else e) = es := by
    refine (List.map_congr_left ?_).trans (List.map_id es)
    intro e he
    have hpath : e.path ≠ [] := by
      intro hnil
      have hfield := h e he
      simp [FieldError.field?, hnil] at hfield
    simp [hpath]
  simp only [fieldErrors, errors]
  rw [hmap, FieldError.filter_isFor_self name es h]

/-- What is reported about a field is reported under its name. -/
theorem Failure.isFor_of_mem_fieldErrors (failure : Failure) (name generic : String)
    (e : FieldError) (h : e ∈ failure.fieldErrors name generic) : e.field? = some name := by
  cases failure with
  | unknownField n suggestion =>
    simp only [fieldErrors, List.mem_singleton] at h
    simp [h, FieldError.field?, Segment.key?]
  | rejected errors => exact beq_iff_eq.mp (List.mem_filter.mp h).2
  | invalidPattern source => exact beq_iff_eq.mp (List.mem_filter.mp h).2
  | unreadable error => exact beq_iff_eq.mp (List.mem_filter.mp h).2

/-- A field that is not accepted reports the errors of its value under its name, or one error that
stands for a name nobody declared or for a pattern that cannot be used. -/
theorem Members.fieldErrors_of_validateField (ms : Members) (name : String) (v : Option Json)
    (generic : String) (failure : Failure) (h : ms.validateField name v = .error failure) :
    (∃ s es, ms.get? name = some s ∧ s.judge v = .rejected es ∧
      failure.fieldErrors name generic = es.map (FieldError.under name)) ∨
      ∃ message, failure.fieldErrors name generic = [⟨[.key name], message⟩] := by
  by_cases hname : name ∈ ms.names
  · obtain ⟨s, hs⟩ := (exists_get?_iff ms name).mpr hname
    rw [validateField_eq ms name s hs, Verdict.toExcept_eq_error_iff] at h
    rcases h with ⟨es, hes, rfl⟩ | ⟨p, _, rfl⟩
    · obtain ⟨fs, hfs, rfl⟩ := (Verdict.under_eq_rejected_iff name _ es).mp hes
      have hfor : ∀ e ∈ fs.map (FieldError.under name), e.field? = some name := by
        intro e he
        refine Verdict.isFor_of_mem_errors_under name (s.judge v) e ?_
        rwa [hes]
      exact Or.inl ⟨s, fs, hs, hfs, Failure.fieldErrors_rejected name generic _ hfor⟩
    · refine Or.inr ⟨generic, ?_⟩
      simp [Failure.fieldErrors, Failure.errors, FieldError.whole, FieldError.under,
        FieldError.after, FieldError.isFor, FieldError.field?, Segment.key?]
  · rw [validateField_unknown ms name hname] at h
    exact Or.inr ⟨_, by rw [← Except.error.inj h]; rfl⟩

namespace Session

theorem validate_of_ok (s : Session) (out : Object)
    (h : s.members.validate (.object s.data) = .ok out) :
    s.validate = (true, { s with data := out, errors := [], status := .valid }) := by
  simp [validate, h]

theorem validate_of_error (s : Session) (failure : Failure)
    (h : s.members.validate (.object s.data) = .error failure) :
    s.validate =
      (false, { s with errors := failure.errors s.generic, status := .invalid }) := by
  simp [validate, h]

theorem validateField_of_ok (s : Session) (name : String) (w : Option Json)
    (h : s.members.validateField name (s.data.get? name) = .ok w) :
    s.validateField name = (true, { s with
      errors := s.otherErrors name
      status := if (s.otherErrors name).isEmpty then .valid else s.status }) := by
  simp [validateField, h, otherErrors]

theorem validateField_of_error (s : Session) (name : String) (failure : Failure)
    (h : s.members.validateField name (s.data.get? name) = .error failure) :
    s.validateField name = (false, { s with
      errors := s.otherErrors name ++ failure.fieldErrors name s.generic
      status := .invalid }) := by
  simp [validateField, h, otherErrors]

@[simp] theorem validate_members (s : Session) : s.validate.2.members = s.members := by
  simp only [validate]
  split <;> rfl

@[simp] theorem validateField_members (s : Session) (name : String) :
    (s.validateField name).2.members = s.members := by
  simp only [validateField]
  split <;> rfl

@[simp] theorem validateField_data (s : Session) (name : String) :
    (s.validateField name).2.data = s.data := by
  simp only [validateField]
  split <;> rfl

theorem get?_resetField_self (s : Session) (name : String) :
    (s.resetField name).data.get? name = s.initial.get? name := by
  unfold resetField
  cases h : s.initial.get? name with
  | some v => exact Object.get?_insert_self _ _ _
  | none => exact Object.get?_erase_self _ _

theorem get?_resetField_of_ne (s : Session) {name other : String} (h : other ≠ name) :
    (s.resetField name).data.get? other = s.data.get? other := by
  unfold resetField
  cases s.initial.get? name with
  | some v => exact Object.get?_insert_of_ne _ _ h
  | none => exact Object.get?_erase_of_ne _ h

/-- No action changes what the form declares. -/
@[simp] theorem act_members (s : Session) (a : Action) : (s.act a).2.members = s.members := by
  cases a <;> simp [act, setField, removeField, update, write, reset, resetField]

/-- No action changes the message for failures that are not about the data. -/
@[simp] theorem act_generic (s : Session) (a : Action) : (s.act a).2.generic = s.generic := by
  cases a with
  | validate =>
    simp only [act, validate]
    split <;> rfl
  | validateField name =>
    simp only [act, validateField]
    split <;> rfl
  | _ => rfl

theorem runAll_members (s : Session) (actions : List Action) :
    (s.runAll actions).members = s.members := by
  induction actions generalizing s with
  | nil => rfl
  | cons a rest ih =>
    show ((s.act a).2.runAll rest).members = s.members
    rw [ih, act_members]

theorem runAll_generic (s : Session) (actions : List Action) :
    (s.runAll actions).generic = s.generic := by
  induction actions generalizing s with
  | nil => rfl
  | cons a rest ih =>
    show ((s.act a).2.runAll rest).generic = s.generic
    rw [ih, act_generic]

/-- Validating one field, like resetting it, leaves the errors of every other one alone. -/
theorem filter_isFor_otherErrors (s : Session) (n name : String) (hne : n ≠ name) :
    (s.otherErrors n).filter (·.isFor name) = s.errorsFor name := by
  simp only [otherErrors, errorsFor, List.filter_filter]
  refine List.filter_congr ?_
  intro e _
  by_cases h : e.field? = some name
  · simp [FieldError.isFor, h, Ne.symm hne]
  · simp [FieldError.isFor, h]

theorem filter_isFor_otherErrors_self (s : Session) (name : String) :
    (s.otherErrors name).filter (·.isFor name) = [] := by
  simp [otherErrors, List.filter_filter]

theorem errorsFor_validateField_of_ne (s : Session) (n name : String) (hne : n ≠ name) :
    (s.validateField n).2.errorsFor name = s.errorsFor name := by
  have hother := filter_isFor_otherErrors s n name hne
  cases h : s.members.validateField n (s.data.get? n) with
  | ok w =>
    rw [validateField_of_ok s n w h]
    exact hother
  | error failure =>
    have hnone := FieldError.filter_isFor_of_ne n name hne _
      (failure.isFor_of_mem_fieldErrors n s.generic)
    rw [validateField_of_error s n failure h]
    simp only [errorsFor, List.filter_append, hnone, List.append_nil]
    exact hother

/-- Only the members, the value of the field and its errors matter. -/
theorem Current.congr (s t : Session) (name : String) (hmembers : t.members = s.members)
    (hvalue : t.data.get? name = s.data.get? name)
    (herrors : t.errorsFor name = s.errorsFor name) (h : s.Current name) : t.Current name := by
  unfold Current
  rwa [hmembers, hvalue, herrors]

section Judged

variable (s : Session) (hms : s.members.Distinct) (husable : s.members.Usable)
  (name : String) (hname : name ∈ s.members.names)

include husable hname in
theorem current_of_errorsFor (h : s.errorsFor name =
    inputErrors (s.members.validateField name (s.data.get? name))) : s.Current name := by
  refine ⟨h, ?_⟩
  rw [h]
  exact Members.inputErrors_eq_nil_iff s.members husable name hname _

include hms in
/-- A validation of the whole form may drop some of the data, but each field of what is left is
judged as before. -/
theorem judge_validate (m : String × Schema) (hm : m ∈ s.members) :
    m.2.judge (s.validate.2.data.get? m.1) = m.2.judge (s.data.get? m.1) := by
  cases h : s.members.validate (.object s.data) with
  | ok out =>
    have hsame := Members.memberVerdicts_of_validate s.members hms s.data out h
    rw [validate_of_ok s out h]
    exact (Schema.memberVerdicts_eq_iff s.members out s.data).mp hsame m hm
  | error failure => rw [validate_of_error s failure h]

include husable in
/-- A validation of the whole form leaves the errors of all fields in declared order, none if it
succeeds. -/
theorem errors_validate (hnames : s.members.names.Nodup) :
    s.validate.2.errors = s.members.fieldReports s.data := by
  cases h : s.members.validate (.object s.data) with
  | ok out =>
    have hfields := (Members.validate_ok_iff s.members hnames s.data).mp ⟨out, h⟩
    have hnone : s.members.fieldReports s.data = [] := by
      refine List.flatMap_eq_nil_iff.mpr ?_
      intro n hn
      exact (Members.inputErrors_eq_nil_iff s.members husable n hn _).mpr (hfields n hn)
    rw [validate_of_ok s out h, hnone]
  | error failure =>
    have hfailure := Members.validate_error_of_fields s.members hnames s.data
      (fun n hn p => Members.validateField_ne_invalidPattern s.members husable n hn _ p) failure h
    rw [validate_of_error s failure h, hfailure]
    rfl

include hms husable hname in
/-- A validation of the whole form judges every declared field. -/
theorem current_validate : s.validate.2.Current name := by
  obtain ⟨hnames, -⟩ := (Members.distinct_iff _).mp hms
  obtain ⟨m, hm, rfl⟩ := List.mem_map.mp hname
  refine current_of_errorsFor _ (by simpa using husable) m.1 (by simpa using hname) ?_
  -- the form now holds the decoded data, in which the field is judged as before
  have hsame : s.members.validateField m.1 (s.validate.2.data.get? m.1) =
      s.members.validateField m.1 (s.data.get? m.1) := by
    rw [Members.validateField_of_mem s.members hnames _ m hm,
      Members.validateField_of_mem s.members hnames _ m hm, judge_validate s hms m hm]
  rw [errorsFor, errors_validate s husable hnames, validate_members, hsame]
  exact Members.filter_fieldReports s.members hnames s.data m.1 hname

include husable hname in
/-- A validation of one declared field puts its errors behind those of the other ones. -/
theorem errors_validateField : (s.validateField name).2.errors =
    s.otherErrors name ++ inputErrors (s.members.validateField name (s.data.get? name)) := by
  rcases Members.validateField_cases s.members husable name hname (s.data.get? name) with
    ⟨w, hw⟩ | ⟨es, hes, _⟩
  · rw [validateField_of_ok s name w hw, hw]
    simp [inputErrors]
  · have hfor : ∀ e ∈ es, e.field? = some name := by
      intro e he
      refine Members.isFor_of_mem_validateField s.members name (s.data.get? name) e ?_
      simpa [hes, inputErrors] using he
    rw [validateField_of_error s name _ hes, Failure.fieldErrors_rejected name s.generic es hfor,
      hes]
    rfl

include husable hname in
/-- A validation of one declared field judges it. -/
theorem current_validateField : (s.validateField name).2.Current name := by
  refine current_of_errorsFor _ (by simpa using husable) name (by simpa using hname) ?_
  have hself := FieldError.filter_isFor_self name _
    (Members.isFor_of_mem_validateField s.members name (s.data.get? name))
  rw [errorsFor, errors_validateField s husable name hname, List.filter_append,
    filter_isFor_otherErrors_self, hself, validateField_members, validateField_data]
  exact List.nil_append _

/-- Writing elsewhere does not reach a judged field. -/
theorem current_of_untouched (a : Action) (htouches : a.touches name = false)
    (hcovers : a.covers name = false) (h : s.Current name) : (s.act a).2.Current name := by
  cases a with
  | setField n v =>
    have hne : n ≠ name := by simpa [Action.touches] using htouches
    exact Current.congr s _ name rfl (Object.get?_insert_of_ne _ _ (Ne.symm hne)) rfl h
  | removeField n =>
    have hne : n ≠ name := by simpa [Action.touches] using htouches
    exact Current.congr s _ name rfl (Object.get?_erase_of_ne _ (Ne.symm hne)) rfl h
  | update edit => simp [Action.touches] at htouches
  | validate => simp [Action.covers] at hcovers
  | validateField n =>
    have hne : n ≠ name := by simpa [Action.covers] using hcovers
    refine Current.congr s _ name (validateField_members s n) ?_
      (errorsFor_validateField_of_ne s n name hne) h
    show (s.validateField n).2.data.get? name = s.data.get? name
    rw [validateField_data]
  | reset => simp [Action.touches] at htouches
  | resetField n =>
    have hne : n ≠ name := by simpa [Action.touches] using htouches
    exact Current.congr s _ name rfl (get?_resetField_of_ne s (Ne.symm hne))
      (filter_isFor_otherErrors s n name hne) h

include hms husable hname in
/-- What one action does: a judged field is one that the action covers, or one that was judged
before and that the action does not touch. -/
theorem current_act (a : Action)
    (h : a.covers name = true ∨ s.Current name ∧ a.touches name = false) :
    (s.act a).2.Current name := by
  by_cases hcovers : a.covers name = true
  · cases a with
    | validate => exact current_validate s hms husable name hname
    | validateField n =>
      have heq : n = name := by simpa [Action.covers] using hcovers
      subst heq
      exact current_validateField s husable n hname
    | _ => simp [Action.covers] at hcovers
  · obtain ⟨hcurrent, htouches⟩ := h.resolve_left hcovers
    exact current_of_untouched s name a htouches (by simpa using hcovers) hcurrent

end Judged

/-- What a run does: it keeps the ghost record of the judged fields true. -/
theorem current_runAll (s : Session) (hms : s.members.Distinct) (husable : s.members.Usable)
    (name : String) (hname : name ∈ s.members.names) (actions : List Action) (before : Bool)
    (hbefore : before = true → s.Current name)
    (h : actions.foldl (Action.judges name) before = true) :
    (s.runAll actions).Current name := by
  induction actions generalizing s before with
  | nil => exact hbefore h
  | cons a rest ih =>
    refine ih (s.act a).2 (by simpa using hms) (by simpa using husable) (by simpa using hname)
      (Action.judges name before a) ?_ h
    intro hnext
    refine current_act s hms husable name hname a ?_
    rcases Bool.or_eq_true_iff.mp hnext with hcovers | hkept
    · exact Or.inl hcovers
    · obtain ⟨hjudged, htouches⟩ := Bool.and_eq_true_iff.mp hkept
      exact Or.inr ⟨hbefore hjudged, by simpa using htouches⟩

/-- The errors of a declared field that was judged after it was last touched are those of its
current value, in every state of a form. -/
theorem errorsFor_runAll_of_judged (ms : Members) (hms : ms.Distinct) (husable : ms.Usable)
    (initial : Object) (generic : String) (actions : List Action) (name : String)
    (hname : name ∈ ms.names) (hjudged : Action.judged actions name = true) :
    let s := ({ start ms initial with generic } : Session).runAll actions
    s.errorsFor name = inputErrors (ms.validateField name (s.data.get? name)) ∧
      (s.errorsFor name = [] ↔ ∃ w, ms.validateField name (s.data.get? name) = .ok w) := by
  intro s
  have hcurrent : s.Current name :=
    current_runAll _ hms husable name hname actions false (by simp) hjudged
  unfold Current at hcurrent
  rwa [runAll_members] at hcurrent

/-- Writing the age of a form after its name was rejected keeps the errors of the name. -/
theorem errorsFor_runAll_signup :
    let actions : List Action :=
      [.setField "name" (.string "ann"), .validateField "name", .setField "age" .null]
    Members.signup.Distinct ∧ Members.signup.Usable ∧ "name" ∈ Members.signup.names ∧
      Action.judged actions "name" = true ∧
      ((start Members.signup []).runAll actions).errorsFor "name" =
        [⟨[.key "name"], "Must match the pattern ^[A-Z]"⟩] := by
  intro actions
  have hname : "name" ∈ Members.signup.names := by decide
  have hjudged : Action.judged actions "name" = true := by decide
  have h := errorsFor_runAll_of_judged Members.signup Members.distinct_signup
    Members.usable_signup [] genericMessage actions "name" hname hjudged
  exact ⟨Members.distinct_signup, Members.usable_signup, hname, hjudged, h.1⟩

end Session

end ModelForm
