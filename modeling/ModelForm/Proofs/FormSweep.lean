import ModelForm.Proofs.FormErrors

/-!
Validating a form one field at a time. A sweep validates each declared field once, in any
order. What it leaves behind is what a validation of the whole form leaves: after each step
the errors are those about the fields not yet swept, as they were before, and those of the
swept fields in the order of the sweep. The status may lag behind while old errors remain,
and comes out right with the last field.
-/

namespace ModelForm

def Members.fieldReport (ms : Members) (o : Object) (name : String) : List FieldError :=
  inputErrors (ms.validateField name (o.get? name))

namespace Session

def sweep (s : Session) (names : List String) : Session := s.runAll (names.map .validateField)

def errorsBeside (s : Session) (names : List String) : List FieldError :=
  s.errors.filter fun e => names.all fun n => !e.isFor n

theorem sweep_append_singleton (s : Session) (names : List String) (name : String) :
    s.sweep (names ++ [name]) = ((s.sweep names).validateField name).2 := by
  simp only [sweep, runAll, List.map_append, List.foldl_append]
  rfl

theorem sweep_members (s : Session) (names : List String) :
    (s.sweep names).members = s.members := runAll_members s _

/-- A sweep only looks at the data. -/
theorem sweep_data (s : Session) (names : List String) : (s.sweep names).data = s.data := by
  induction names using List.reverseRecOn with
  | nil => rfl
  | append_singleton front name ih => rw [sweep_append_singleton, validateField_data, ih]

/-- A form becomes invalid with a field that has errors, valid with one that has none if no other
errors remain, and otherwise stays what it was. -/
theorem status_validateField (s : Session) (husable : s.members.Usable) (name : String)
    (hname : name ∈ s.members.names) : (s.validateField name).2.status =
      if s.members.fieldReport s.data name = [] then
        if s.otherErrors name = [] then .valid else s.status
      else .invalid := by
  unfold Members.fieldReport
  rcases Members.validateField_cases s.members husable name hname (s.data.get? name) with
    ⟨w, hw⟩ | ⟨es, hes, hne⟩
  · rw [validateField_of_ok s name w hw, hw]
    simp [inputErrors]
  · rw [validateField_of_error s name _ hes, hes]
    simp [inputErrors, hne]

section Sweep

variable (s : Session) (husable : s.members.Usable) (names : List String)
  (hnames : names.Nodup) (hdeclared : ∀ n ∈ names, n ∈ s.members.names)

/-- Errors of fields that are not swept any more are not about the next field. -/
theorem filter_not_isFor_reports (name : String) (hname : name ∉ names) :
    (names.flatMap (s.members.fieldReport s.data)).filter (fun e => !e.isFor name) =
      names.flatMap (s.members.fieldReport s.data) := by
  refine List.filter_eq_self.mpr ?_
  intro e he
  obtain ⟨n, hn, hreport⟩ := List.mem_flatMap.mp he
  have hfield := Members.isFor_of_mem_validateField s.members n (s.data.get? n) e hreport
  have hne : n ≠ name := by
    rintro rfl
    exact hname hn
  simp [FieldError.isFor, hfield, hne]

include husable hnames hdeclared

/-- What a sweep leaves: the errors beside the swept fields, and then those of the swept fields. -/
theorem errors_sweep : (s.sweep names).errors =
    s.errorsBeside names ++ names.flatMap (s.members.fieldReport s.data) := by
  induction names using List.reverseRecOn with
  | nil => simp [sweep, runAll, errorsBeside]
  | append_singleton front name ih =>
    obtain ⟨hfront, -, hnew⟩ := List.nodup_append.mp hnames
    have hname : name ∉ front := fun hmem => hnew name hmem name (List.mem_singleton_self _) rfl
    have herrors := ih hfront fun n hn => hdeclared n (List.mem_append_left _ hn)
    have hstep := errors_validateField (s.sweep front) (by rwa [sweep_members]) name
      (by rw [sweep_members]; exact hdeclared name (by simp))
    have hbeside : (s.errorsBeside front).filter (fun e => !e.isFor name) =
        s.errorsBeside (front ++ [name]) := by
      simp only [errorsBeside, List.filter_filter, List.all_append, List.all_cons, List.all_nil,
        Bool.and_true]
      exact List.filter_congr fun e _ => Bool.and_comm _ _
    rw [sweep_append_singleton, hstep, sweep_members, sweep_data, otherErrors, herrors,
      List.filter_append, hbeside, filter_not_isFor_reports s front name hname,
      List.flatMap_append, List.flatMap_singleton, List.append_assoc]
    rfl

/-- A sweep over a field with errors leaves an invalid form: the errors stay, and with them the
status. -/
theorem status_sweep_of_report (name : String) (hname : name ∈ names)
    (hreport : s.members.fieldReport s.data name ≠ []) : (s.sweep names).status = .invalid := by
  induction names using List.reverseRecOn with
  | nil => simp at hname
  | append_singleton front last ih =>
    obtain ⟨hfront, -, hnew⟩ := List.nodup_append.mp hnames
    have hdeclaredFront : ∀ n ∈ front, n ∈ s.members.names :=
      fun n hn => hdeclared n (List.mem_append_left _ hn)
    have hstep := status_validateField (s.sweep front) (by rwa [sweep_members]) last
      (by rw [sweep_members]; exact hdeclared last (by simp))
    rw [sweep_members, sweep_data] at hstep
    rw [sweep_append_singleton, hstep]
    by_cases hlast : s.members.fieldReport s.data last = []
    · have hmem : name ∈ front := by
        refine (List.mem_append.mp hname).resolve_right ?_
        intro hsingle
        rw [List.mem_singleton.mp hsingle] at hreport
        exact hreport hlast
      have hother : (s.sweep front).otherErrors last ≠ [] := by
        have hne : name ≠ last := hnew name hmem last (List.mem_singleton_self _)
        obtain ⟨e, he⟩ := List.exists_mem_of_ne_nil _ hreport
        have hfield := Members.isFor_of_mem_validateField s.members name (s.data.get? name) e he
        refine List.ne_nil_of_mem (a := e) (List.mem_filter.mpr ⟨?_, ?_⟩)
        · rw [errors_sweep s husable front hfront hdeclaredFront]
          exact List.mem_append_right _ (List.mem_flatMap.mpr ⟨name, hmem, he⟩)
        · simp [FieldError.isFor, hfield, hne]
      rw [if_pos hlast, if_neg hother]
      exact ih hfront hdeclaredFront hmem
    · rw [if_neg hlast]

omit hnames in
/-- A sweep that leaves no errors leaves a valid form. -/
theorem status_sweep_of_errors_eq_nil (hne : names ≠ []) (h : (s.sweep names).errors = []) :
    (s.sweep names).status = .valid := by
  rcases List.eq_nil_or_concat names with rfl | ⟨front, last, rfl⟩
  · exact absurd rfl hne
  · rw [List.concat_eq_append, sweep_append_singleton] at h ⊢
    have husableFront : (s.sweep front).members.Usable := by rwa [sweep_members]
    have hlast : last ∈ (s.sweep front).members.names := by
      rw [sweep_members]
      exact hdeclared last (by simp)
    rw [errors_validateField _ husableFront last hlast, List.append_eq_nil_iff] at h
    rw [status_validateField _ husableFront last hlast, if_pos h.1]
    exact if_pos h.2

end Sweep

section Whole

variable (s : Session) (hnames : s.members.names.Nodup) (husable : s.members.Usable)

theorem status_validate : s.validate.2.status =
    if s.validate.2.errors = [] then .valid else .invalid := by
  cases h : s.members.validate (.object s.data) with
  | ok out => simp [validate_of_ok s out h]
  | error failure =>
    have hne := Members.errors_ne_nil_of_validate s.members s.data s.generic failure h
    simp [validate_of_error s failure h, hne]

variable (hne : s.members ≠ [])
  (herrors : ∀ e ∈ s.errors, ∃ n ∈ s.members.names, e.field? = some n)
  (order : List String) (horder : order.Perm s.members.names)

include hnames husable herrors horder in
/-- Nothing but the errors of the fields is left when all of them are swept. -/
theorem errors_sweep_all :
    (s.sweep order).errors = order.flatMap (s.members.fieldReport s.data) := by
  have hbeside : s.errorsBeside order = [] := by
    refine List.filter_eq_nil_iff.mpr ?_
    intro e he
    obtain ⟨n, hn, hfield⟩ := herrors e he
    have hfor : e.isFor n = true := by simp [FieldError.isFor, hfield]
    intro hall
    have hnot := List.all_eq_true.mp hall n (horder.mem_iff.mpr hn)
    simp [hfor] at hnot
  rw [errors_sweep s husable order (horder.nodup_iff.mpr hnames) fun n => horder.mem_iff.mp,
    hbeside, List.nil_append]

include hnames husable hne herrors horder in
theorem status_sweep_all : (s.sweep order).status =
    if (s.sweep order).errors = [] then .valid else .invalid := by
  have hnodup := horder.nodup_iff.mpr hnames
  have hdeclared : ∀ n ∈ order, n ∈ s.members.names := fun n => horder.mem_iff.mp
  split
  · rename_i hnil
    have hsome : order ≠ [] := by
      rintro rfl
      exact hne (List.map_eq_nil_iff.mp horder.nil_eq.symm)
    exact status_sweep_of_errors_eq_nil s husable order hdeclared hsome hnil
  · rename_i hsome
    rw [errors_sweep_all s hnames husable herrors order horder] at hsome
    obtain ⟨e, he⟩ := List.exists_mem_of_ne_nil _ hsome
    obtain ⟨n, hn, hreport⟩ := List.mem_flatMap.mp he
    exact status_sweep_of_report s husable order hnodup hdeclared n hn (List.ne_nil_of_mem hreport)

end Whole

/-- Validating all fields one at a time, in whatever order, ends as validating the whole form does:
valid or invalid alike, with the same errors up to their order, which is the same if the fields
are taken in declared order. The data stays as it was. -/
theorem sweep_agrees_validate (s : Session) (hnames : s.members.names.Nodup)
    (husable : s.members.Usable) (hne : s.members ≠ [])
    (herrors : ∀ e ∈ s.errors, ∃ n ∈ s.members.names, e.field? = some n)
    (order : List String) (horder : order.Perm s.members.names) :
    let swept := s.sweep order
    let whole := s.validate.2
    swept.status = whole.status ∧ (swept.status = .valid ∨ swept.status = .invalid) ∧
      swept.isValid = whole.isValid ∧ swept.errors.Perm whole.errors ∧
      (order = s.members.names → swept.errors = whole.errors) ∧ swept.data = s.data := by
  intro swept whole
  have hswept : swept.errors = order.flatMap (s.members.fieldReport s.data) :=
    errors_sweep_all s hnames husable herrors order horder
  have hwhole : whole.errors = s.members.names.flatMap (s.members.fieldReport s.data) :=
    errors_validate s husable hnames
  have hperm : swept.errors.Perm whole.errors := by
    rw [hswept, hwhole]
    exact horder.flatMap_right _
  have hsettled : swept.status = if swept.errors = [] then .valid else .invalid :=
    status_sweep_all s hnames husable hne herrors order horder
  have hstatus : swept.status = whole.status := by
    have hnil : swept.errors = [] ↔ whole.errors = [] :=
      ⟨fun h => (h ▸ hperm).nil_eq.symm, fun h => (h ▸ hperm).eq_nil⟩
    have hwholeStatus : whole.status = if whole.errors = [] then .valid else .invalid :=
      status_validate s
    rw [hsettled, hwholeStatus]
    simp only [hnil]
  refine ⟨hstatus, ?_, ?_, hperm, ?_, sweep_data s order⟩
  · rw [hsettled]
    split
    · exact Or.inl rfl
    · exact Or.inr rfl
  · rw [isValid, isValid, hstatus]
  · intro hdeclared
    rw [hswept, hwhole, hdeclared]

/-- A form that was valid and has an old error of its age: the age is validated before the name, so
that its new error comes first. -/
theorem sweep_agrees_validate_signup :
    let s : Session := { start Members.signup [("name", .string "ann")] with
      errors := [⟨[.key "age"], "Expected a number"⟩], status := .valid }
    let swept := s.sweep ["age", "name"]
    Members.signup.names.Nodup ∧ Members.signup.Usable ∧
      (∀ e ∈ s.errors, ∃ n ∈ Members.signup.names, e.field? = some n) ∧
      ["age", "name"].Perm Members.signup.names ∧ swept.status = .invalid ∧
      swept.errors = [⟨[.key "age"], requiredMessage⟩,
        ⟨[.key "name"], "Must match the pattern ^[A-Z]"⟩] ∧
      swept.errors.Perm s.validate.2.errors ∧ swept.errors ≠ s.validate.2.errors := by
  intro s swept
  have hnames : Members.signup.names.Nodup := by decide
  have herrors : ∀ e ∈ s.errors, ∃ n ∈ Members.signup.names, e.field? = some n := by
    intro e he
    rw [List.mem_singleton.mp he]
    exact ⟨"age", by decide, rfl⟩
  have horder : ["age", "name"].Perm Members.signup.names := List.Perm.swap _ _ _
  have hswept : swept.errors = [⟨[.key "age"], requiredMessage⟩,
    ⟨[.key "name"], "Must match the pattern ^[A-Z]"⟩] := rfl
  have hwhole : s.validate.2.errors = [⟨[.key "name"], "Must match the pattern ^[A-Z]"⟩,
    ⟨[.key "age"], requiredMessage⟩] := rfl
  obtain ⟨hstatus, -, -, hperm, -⟩ := sweep_agrees_validate s hnames Members.usable_signup
    (List.cons_ne_nil _ _) herrors ["age", "name"] horder
  refine ⟨hnames, Members.usable_signup, herrors, horder, hstatus, hswept, hperm, ?_⟩
  rw [hswept, hwhole]
  decide

end Session

end ModelForm
