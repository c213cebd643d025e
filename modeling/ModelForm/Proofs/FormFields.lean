import ModelForm.Proofs.FormCoherence
import ModelForm.Proofs.FormSweep

/-!
Validating single fields of a form. What is reported about a field depends on what the form
declares and on the data, which no validation of a field changes; the report takes the place
of the earlier errors of the field, behind all others. So nothing but these errors and the
status changes, a second validation changes nothing at all, and validations of fields can be
made in any order: what shows afterwards is only which errors came first.
-/

namespace ModelForm.Session

def reportFor (s : Session) (name : String) : List FieldError :=
  match s.members.validateField name (s.data.get? name) with
  | .ok _ => []
  | .error failure => failure.fieldErrors name s.generic

/-! The report on one field. -/

section Report

variable (s : Session) (name : String)

theorem field?_of_mem_reportFor (e : FieldError) (he : e ∈ s.reportFor name) :
    e.field? = some name := by
  unfold reportFor at he
  split at he
  · simp at he
  · rename_i failure _
    exact failure.isFor_of_mem_fieldErrors name s.generic e he

theorem filter_isFor_reportFor : (s.reportFor name).filter (·.isFor name) = s.reportFor name :=
  FieldError.filter_isFor_self name _ (field?_of_mem_reportFor s name)

theorem filter_not_isFor_reportFor : (s.reportFor name).filter (fun e => !e.isFor name) = [] := by
  refine List.filter_eq_nil_iff.mpr ?_
  intro e he
  simp [FieldError.isFor, field?_of_mem_reportFor s name e he]

theorem filter_not_isFor_reportFor_of_ne (other : String) (hne : name ≠ other) :
    (s.reportFor name).filter (fun e => !e.isFor other) = s.reportFor name := by
  refine List.filter_eq_self.mpr ?_
  intro e he
  simp [FieldError.isFor, field?_of_mem_reportFor s name e he, hne]

/-- A name that is not declared is reported itself. -/
theorem reportFor_of_notMem (h : name ∉ s.members.names) : s.reportFor name =
    [⟨[.key name], Failure.unknownFieldText name (s.members.suggest name)⟩] := by
  simp [reportFor, Members.validateField_unknown s.members name h, Members.unknownField,
    Failure.fieldErrors]

/-- A validation of one field as a whole: it succeeds if there is nothing to report, and the report
follows the errors of all other fields. -/
theorem validateField_eq : s.validateField name = ((s.reportFor name).isEmpty, { s with
    errors := s.otherErrors name ++ s.reportFor name
    status := if s.reportFor name = [] then
        if s.otherErrors name = [] then .valid else s.status
      else .invalid }) := by
  cases h : s.members.validateField name (s.data.get? name) with
  | ok w => simp [validateField_of_ok s name w h, reportFor, h]
  | error failure =>
    have hne := Members.fieldErrors_ne_nil_of_validateField s.members name _ s.generic failure h
    simp [validateField_of_error s name failure h, reportFor, h, hne]

/-- Validating a field, this one or another, does not change what is reported. -/
theorem reportFor_validateField (other : String) :
    (s.validateField other).2.reportFor name = s.reportFor name := by
  rw [validateField_eq]
  rfl

theorem otherErrors_validateField : (s.validateField name).2.otherErrors name =
    s.otherErrors name := by
  have hagain : (s.otherErrors name).filter (fun e => !e.isFor name) = s.otherErrors name := by
    simp [otherErrors, List.filter_filter]
  rw [validateField_eq, otherErrors, List.filter_append, filter_not_isFor_reportFor, hagain,
    List.append_nil]

theorem errorsFor_validateField : (s.validateField name).2.errorsFor name =
    s.reportFor name := by
  rw [validateField_eq, errorsFor, List.filter_append, filter_isFor_otherErrors_self,
    filter_isFor_reportFor, List.nil_append]

end Report

/-- Validating a field, declared or not, leaves all other errors as they are and in their order,
those without a path among them, and of the rest of the form changes at most the status. It answers
whether the field is free of errors now. If it is not, its errors stand together at the end and the
form is invalid; if it is, the form is valid as soon as there are no errors at all, and otherwise
what it was. A name that is not declared has one error, about the name. -/
theorem validateField_touches_only (s : Session) (name : String) :
    let ok := (s.validateField name).1
    let t := (s.validateField name).2
    t.otherErrors name = s.otherErrors name ∧
      t = { s with errors := t.errors, status := t.status } ∧
      (ok = true ↔ t.errorsFor name = []) ∧
      (ok = false → t.errors = s.otherErrors name ++ t.errorsFor name ∧
        t.errorsFor name ≠ [] ∧ t.status = .invalid) ∧
      (ok = true → t.status = if t.errors = [] then .valid else s.status) ∧
      (name ∉ s.members.names → ok = false ∧ t.errorsFor name =
        [⟨[.key name], Failure.unknownFieldText name (s.members.suggest name)⟩]) := by
  intro ok t
  have hok : ok = (s.reportFor name).isEmpty := congrArg Prod.fst (validateField_eq s name)
  have ht : t = { s with
      errors := s.otherErrors name ++ s.reportFor name
      status := if s.reportFor name = [] then
          if s.otherErrors name = [] then .valid else s.status
        else .invalid } := congrArg Prod.snd (validateField_eq s name)
  have hfor : t.errorsFor name = s.reportFor name := errorsFor_validateField s name
  refine ⟨otherErrors_validateField s name, by rw [ht], ?_, ?_, ?_, ?_⟩
  · rw [hok, hfor, List.isEmpty_iff]
  · intro hfails
    have hne : s.reportFor name ≠ [] := by simpa [hok] using hfails
    rw [hfor, ht]
    exact ⟨rfl, hne, if_neg hne⟩
  · intro hsucceeds
    have hnil : s.reportFor name = [] := by simpa [hok] using hsucceeds
    rw [ht]
    simp [hnil]
  · intro hname
    rw [hfor, hok, reportFor_of_notMem s name hname]
    exact ⟨rfl, rfl⟩

/-- A form with an unusable pattern that was validated as a whole, and then given another size. The
error without a path stays, the earlier error of the size goes, and the two new ones come last; a
field that the form does not declare is reported behind them. -/
theorem validateField_touches_only_parcel :
    let code : Schema := (Schema.string none).require (.pattern (Pattern.ofText "[")) none
    let ms : Members := [("code", code),
      ("size", .record [("height", .number none), ("width", .number none)])]
    let s := (start ms [("code", .string "x")]).runAll
      [.validateField "size", .validate, .validateField "size", .setField "size" (.object [])]
    let size := s.validateField "size"
    let colour := size.2.validateField "colour"
    s.errors = [FieldError.whole genericMessage, ⟨[.key "size"], requiredMessage⟩] ∧
      size.1 = false ∧ size.2.errors = [FieldError.whole genericMessage,
        ⟨[.key "size", .key "height"], requiredMessage⟩,
        ⟨[.key "size", .key "width"], requiredMessage⟩] ∧ size.2.status = .invalid ∧
      "colour" ∉ ms.names ∧ colour.1 = false ∧
      colour.2.errors = size.2.errors ++
        [⟨[.key "colour"], Failure.unknownFieldText "colour" (ms.suggest "colour")⟩] := by
  intro code ms s size colour
  have hbefore : s.errors = [FieldError.whole genericMessage, ⟨[.key "size"], requiredMessage⟩] :=
    rfl
  have hsize : size.1 = false := rfl
  have hafter : size.2.errors = [FieldError.whole genericMessage,
      ⟨[.key "size", .key "height"], requiredMessage⟩,
      ⟨[.key "size", .key "width"], requiredMessage⟩] := rfl
  have hothers : size.2.otherErrors "colour" = size.2.errors := by
    rw [otherErrors, hafter]
    rfl
  have hcolour : "colour" ∉ ms.names := by decide
  obtain ⟨-, -, -, hfails, -, -⟩ := validateField_touches_only s "size"
  obtain ⟨-, -, -, hlast, -, hunknown⟩ := validateField_touches_only size.2 "colour"
  have hinvalid : size.2.status = .invalid := (hfails hsize).2.2
  obtain ⟨hfalse, hone⟩ := hunknown hcolour
  refine ⟨hbefore, hsize, hafter, hinvalid, hcolour, hfalse, ?_⟩
  rw [(hlast hfalse).1, hone, hothers]
  rfl

/-! Several fields, in any order. -/

/-- The forms differ in nothing but the order of errors of different fields. -/
structure Alike (s t : Session) : Prop where
  rest : t = { s with errors := t.errors }
  perm : s.errors.Perm t.errors
  errorsFor : ∀ name, s.errorsFor name = t.errorsFor name

theorem Alike.refl (s : Session) : s.Alike s := ⟨rfl, .refl _, fun _ => rfl⟩

theorem Alike.trans {s t u : Session} (h : s.Alike t) (h' : t.Alike u) : s.Alike u := by
  refine ⟨?_, h.perm.trans h'.perm, fun name => (h.errorsFor name).trans (h'.errorsFor name)⟩
  rw [h'.rest, h.rest]

theorem Alike.reportFor {s t : Session} (h : s.Alike t) (name : String) :
    t.reportFor name = s.reportFor name := by
  rw [h.rest]
  rfl

theorem Alike.otherErrors_eq_nil_iff {s t : Session} (h : s.Alike t) (name : String) :
    t.otherErrors name = [] ↔ s.otherErrors name = [] := by
  have hperm : (s.otherErrors name).Perm (t.otherErrors name) := h.perm.filter _
  exact ⟨fun hnil => (hnil ▸ hperm).eq_nil, fun hnil => (hnil ▸ hperm).nil_eq.symm⟩

/-- What one validation does to forms that are alike. -/
theorem Alike.validateField {s t : Session} (h : s.Alike t) (name : String) :
    (t.validateField name).1 = (s.validateField name).1 ∧
      (s.validateField name).2.Alike (t.validateField name).2 := by
  have hstatus : t.status = s.status := by rw [h.rest]
  refine ⟨by rw [validateField_eq, validateField_eq, h.reportFor], ?_, ?_, ?_⟩
  · simp only [validateField_eq, h.reportFor, h.otherErrors_eq_nil_iff, hstatus]
    rw [h.rest]
  · simp only [validateField_eq, h.reportFor]
    exact (h.perm.filter _).append_right _
  · intro other
    by_cases hother : name = other
    · subst hother
      rw [errorsFor_validateField, errorsFor_validateField, h.reportFor]
    · rw [errorsFor_validateField_of_ne s name other hother,
        errorsFor_validateField_of_ne t name other hother, h.errorsFor]

/-- The errors that concern neither of two fields. -/
theorem otherErrors_comm (s : Session) (a b : String) :
    (s.otherErrors a).filter (fun e => !e.isFor b) =
      (s.otherErrors b).filter (fun e => !e.isFor a) := by
  simp only [otherErrors, List.filter_filter]
  exact List.filter_congr fun e _ => Bool.and_comm _ _

section TwoFields

variable (s : Session) {a b : String}

theorem otherErrors_validateField_of_ne (h : a ≠ b) : (s.validateField a).2.otherErrors b =
    (s.otherErrors a).filter (fun e => !e.isFor b) ++ s.reportFor a := by
  rw [validateField_eq, otherErrors, List.filter_append, filter_not_isFor_reportFor_of_ne s a b h]

/-- After two different fields their reports come last, the later one at the end, and if there is
nothing to report the earlier status is put back unless no errors are left. -/
theorem validateField_validateField_of_ne (h : a ≠ b) :
    ((s.validateField a).2.validateField b).2 = { s with
      errors := (s.otherErrors a).filter (fun e => !e.isFor b) ++ s.reportFor a ++ s.reportFor b
      status := if s.reportFor a = [] ∧ s.reportFor b = [] then
          if (s.otherErrors a).filter (fun e => !e.isFor b) = [] then .valid else s.status
        else .invalid } := by
  rw [validateField_eq, otherErrors_validateField_of_ne s h, reportFor_validateField,
    validateField_eq]
  simp only [Session.mk.injEq, true_and, and_true]
  -- an error that is left was there at the start, so the first of the two kept the status
  by_cases hb : s.reportFor b = []
  · by_cases ha : s.reportFor a = []
    · by_cases hleft : (s.otherErrors a).filter (fun e => !e.isFor b) = []
      · simp [ha, hb, hleft]
      · have hothers : s.otherErrors a ≠ [] := by
          intro hnil
          simp [hnil] at hleft
        simp [ha, hb, hleft, hothers]
    · simp [ha, hb]
  · simp [hb]

theorem errorsFor_validateField_validateField (h : a ≠ b) :
    ((s.validateField a).2.validateField b).2.errorsFor a = s.reportFor a ∧
      ((s.validateField a).2.validateField b).2.errorsFor b = s.reportFor b := by
  rw [errorsFor_validateField_of_ne _ b a (Ne.symm h), errorsFor_validateField,
    errorsFor_validateField, reportFor_validateField]
  exact ⟨rfl, rfl⟩

/-- Validations of two fields can change places. -/
theorem alike_validateField_validateField (a b : String) :
    ((s.validateField a).2.validateField b).2.Alike ((s.validateField b).2.validateField a).2 := by
  by_cases h : a = b
  · rw [h]
    exact Alike.refl _
  · have hab := validateField_validateField_of_ne s h
    have hba := validateField_validateField_of_ne s (Ne.symm h)
    simp only [otherErrors_comm s b a, and_comm (a := s.reportFor b = [])] at hba
    refine ⟨by rw [hab, hba], ?_, ?_⟩
    · rw [hab, hba]
      simp only [List.append_assoc]
      exact List.perm_append_comm.append_left _
    · obtain ⟨ha, hb⟩ := errorsFor_validateField_validateField s h
      obtain ⟨hb', ha'⟩ := errorsFor_validateField_validateField s (Ne.symm h)
      intro name
      by_cases hname : name = a ∨ name = b
      · rcases hname with rfl | rfl
        · rw [ha, ha']
        · rw [hb, hb']
      · obtain ⟨hna, hnb⟩ := not_or.mp hname
        rw [errorsFor_validateField_of_ne _ b name (Ne.symm hnb),
          errorsFor_validateField_of_ne _ a name (Ne.symm hna),
          errorsFor_validateField_of_ne _ a name (Ne.symm hna),
          errorsFor_validateField_of_ne _ b name (Ne.symm hnb)]

end TwoFields

/-- A validation of a field right after another one of it changes nothing. -/
theorem validateField_validateField_self (s : Session) (name : String) :
    (s.validateField name).2.validateField name = s.validateField name := by
  rw [validateField_eq (s.validateField name).2, reportFor_validateField,
    otherErrors_validateField, validateField_eq s]
  by_cases hreport : s.reportFor name = []
  · by_cases hothers : s.otherErrors name = []
    · simp [hreport, hothers]
    · simp [hreport, hothers]
  · simp [hreport]

theorem Alike.sweep {s t : Session} (h : s.Alike t) (names : List String) :
    (s.sweep names).Alike (t.sweep names) := by
  induction names generalizing s t with
  | nil => exact h
  | cons name rest ih => exact ih (h.validateField name).2

/-- Any number of validations, also of one field again and again, can be made in any order. -/
theorem alike_sweep_of_perm (s : Session) (names order : List String) (h : names.Perm order) :
    (s.sweep names).Alike (s.sweep order) := by
  induction h generalizing s with
  | nil => exact Alike.refl s
  | cons name _ ih => exact ih (s.validateField name).2
  | swap a b rest => exact (alike_validateField_validateField s b a).sweep rest
  | trans _ _ ih ih' => exact (ih s).trans (ih' s)

/-- Validating a field twice is validating it once. Validating two fields answers the same for each
of them in either order, and leaves the same form but for the order of its errors: data, dirty flag
and status are the same, and so are the errors altogether and the list of errors of each field. -/
theorem validateField_again_or_swapped (s : Session) (a b : String) :
    let ab := (s.validateField a).2.validateField b
    let ba := (s.validateField b).2.validateField a
    (s.validateField a).2.validateField a = s.validateField a ∧
      ba.1 = (s.validateField a).1 ∧ ab.1 = (s.validateField b).1 ∧
      ba.2 = { ab.2 with errors := ba.2.errors } ∧ ab.2.errors.Perm ba.2.errors ∧
      ∀ name, ab.2.errorsFor name = ba.2.errorsFor name := by
  intro ab ba
  have hanswer : ∀ c d : String,
      ((s.validateField c).2.validateField d).1 = (s.validateField d).1 := by
    intro c d
    rw [validateField_eq (s.validateField c).2, reportFor_validateField, validateField_eq s d]
  obtain ⟨hrest, hperm, hfor⟩ := alike_validateField_validateField s a b
  exact ⟨validateField_validateField_self s a, hanswer b a, hanswer a b, hrest, hperm, hfor⟩

/-- The order does show in the errors. -/
example :
    let s := start Members.signup []
    ((s.validateField "name").2.validateField "age").2.errors ≠
      ((s.validateField "age").2.validateField "name").2.errors := by decide

end ModelForm.Session
