import ModelForm.Proofs.FormReset

/-!
A successful validation settles a form. From then on its data decodes to itself, it holds no
errors and it is valid, and that is all that a validation could bring about: the whole form
is found valid as it is, and so is every declared field. Validating a settled form any
number of times, in whatever way, answers yes each time and changes nothing.
-/

namespace ModelForm

def Action.Validates (ms : Members) : Action → Prop
  | .validate => True
  | .validateField name => name ∈ ms.names
  | _ => False

namespace Session

/-- A form that a successful validation left behind. -/
structure Settled (s : Session) : Prop where
  fixed : s.members.validate (.object s.data) = .ok s.data
  errors : s.errors = []
  status : s.status = .valid

/-- A validation succeeds if the data decodes. -/
theorem exists_of_validate (s : Session) (h : s.validate.1 = true) :
    ∃ out, s.members.validate (.object s.data) = .ok out := by
  cases hout : s.members.validate (.object s.data) with
  | ok out => exact ⟨out, rfl⟩
  | error failure => simp [validate_of_error s failure hout] at h

/-- The decoded data takes the place of the data, and it decodes to itself. -/
theorem settled_validate (s : Session) (hms : s.members.Distinct) (h : s.validate.1 = true) :
    s.validate.2.Settled := by
  obtain ⟨out, hout⟩ := exists_of_validate s h
  rw [validate_of_ok s out hout]
  exact ⟨Members.validate_of_validate s.members hms s.data out hout, rfl, rfl⟩

namespace Settled

variable (s : Session) (h : s.Settled)
include h

theorem validate_eq : s.validate = (true, s) := by
  obtain ⟨hfixed, herrors, hstatus⟩ := h
  rw [validate_of_ok s s.data hfixed, ← herrors, ← hstatus]

/-- A declared field of a settled form is accepted alone, and there is no error to remove. -/
theorem validateField_eq (hnames : s.members.names.Nodup) (name : String)
    (hname : name ∈ s.members.names) : s.validateField name = (true, s) := by
  obtain ⟨hfixed, herrors, hstatus⟩ := h
  obtain ⟨w, hw⟩ :=
    (Members.validate_ok_iff s.members hnames s.data).mp ⟨s.data, hfixed⟩ name hname
  have hother : s.otherErrors name = s.errors := by simp [otherErrors, herrors]
  have hvalid : (if s.errors.isEmpty then Status.valid else s.status) = s.status := by
    rw [herrors, hstatus]
    rfl
  rw [validateField_of_ok s name w hw, hother, hvalid]

/-- One validation of a settled form answers yes and changes nothing. -/
theorem act_eq (hnames : s.members.names.Nodup) (a : Action) (ha : a.Validates s.members) :
    s.act a = (.verdict true, s) := by
  cases a with
  | validate => simp only [act, validate_eq s h]
  | validateField name => simp only [act, validateField_eq s h hnames name ha]
  | _ => exact ha.elim

/-- Each of a sequence of validations answers yes and leaves the form where it was. -/
theorem trace_eq (hnames : s.members.names.Nodup) (calls : List Action)
    (hcalls : ∀ a ∈ calls, a.Validates s.members) :
    s.trace (calls.map .act) =
      List.replicate calls.length (.answer (.verdict true), s) := by
  induction calls with
  | nil => rfl
  | cons a rest ih =>
    have hstep : s.perform (.act a) = (.answer (.verdict true), s) := by
      rw [perform, act_eq s h hnames a (hcalls a (List.mem_cons_self ..))]
    rw [List.map_cons, trace, hstep, ih fun b hb => hcalls b (List.mem_cons_of_mem _ hb)]
    rfl

end Settled

/-- Once the whole form was found valid, in whatever state it was, every sequence of validations of
the form and of declared fields answers yes at each step, and after each step the form is the same:
its data, its errors, its status, whether it is dirty, and what it started from. -/
theorem trace_after_validate (s : Session) (hms : s.members.Distinct) (h : s.validate.1 = true)
    (calls : List Action) (hcalls : ∀ a ∈ calls, a.Validates s.members) :
    let settled := s.validate.2
    settled.trace (calls.map .act) =
        List.replicate calls.length (.answer (.verdict true), settled) ∧
      s.members.validate (.object s.data) = .ok settled.data ∧ settled.errors = [] ∧
      settled.status = .valid := by
  intro settled
  have hsettled : settled.Settled := settled_validate s hms h
  have hmembers : settled.members = s.members := validate_members s
  have hnames : settled.members.names.Nodup := by
    rw [hmembers]
    exact ((Members.distinct_iff _).mp hms).1
  have hvalidates : ∀ a ∈ calls, a.Validates settled.members := by
    rw [hmembers]
    exact hcalls
  obtain ⟨out, hout⟩ := exists_of_validate s h
  have hdata : settled.data = out := by simp only [settled, validate_of_ok s out hout]
  refine ⟨hsettled.trace_eq settled hnames calls hvalidates, ?_, hsettled.errors, hsettled.status⟩
  rw [hout, hdata]

/-- A form whose age was missing when it was validated, and in which a nickname was written that
nobody declared: validating drops the nickname and the old error, and validating on, field by
field or as a whole, leaves it at that. -/
theorem trace_after_validate_signup :
    let s := (start Members.signup []).runAll [.validateField "age", .setField "nick" .null,
      .setField "name" (.string "Ann"), .setField "age" (.number (.integer 5))]
    let settled := s.validate.2
    let calls : List Action := [.validateField "age", .validate, .validateField "name"]
    Members.signup.Distinct ∧ s.validate.1 = true ∧
      (∀ a ∈ calls, a.Validates Members.signup) ∧
      s.errors = [⟨[.key "age"], requiredMessage⟩] ∧ settled.errors = [] ∧
      settled.data = [("age", .number (.integer 5)), ("name", .string "Ann")] ∧
      settled.isDirty = true ∧
      settled.trace (calls.map .act) = [(.answer (.verdict true), settled),
        (.answer (.verdict true), settled), (.answer (.verdict true), settled)] := by
  intro s settled calls
  have hvalid : s.validate.1 = true := rfl
  have hcalls : ∀ a ∈ calls, a.Validates Members.signup := by
    intro a ha
    simp only [calls, List.mem_cons, List.not_mem_nil, or_false] at ha
    rcases ha with rfl | rfl | rfl
    · show "age" ∈ Members.signup.names
      decide
    · trivial
    · show "name" ∈ Members.signup.names
      decide
  obtain ⟨htrace, -, herrors, -⟩ :=
    trace_after_validate s Members.distinct_signup hvalid calls hcalls
  exact ⟨Members.distinct_signup, hvalid, hcalls, rfl, herrors, rfl, rfl, htrace⟩

end Session

end ModelForm
