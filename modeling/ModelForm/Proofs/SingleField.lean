import ModelForm.Proofs.Records
import ModelForm.Proofs.Verdicts

/-!
Validating a whole document against validating its fields one at a time. Decoding one
field through a record of its own gives the verdict on the member with its errors under
the name. So a document is accepted exactly if each of its fields is, its errors are
those of its fields in declared order, and the first unusable pattern ends both.
-/

namespace ModelForm

/-- The errors that a decoding found in its input; other failures are not about the input. -/
def inputErrors {α : Type} : Except Failure α → List FieldError
  | .error (.rejected errors) => errors
  | _ => []

namespace FieldError

/-- Errors about one field are all found under its name. -/
theorem filter_isFor_self (name : String) (es : List FieldError)
    (h : ∀ e ∈ es, e.field? = some name) : es.filter (·.isFor name) = es := by
  refine List.filter_eq_self.mpr ?_
  intro e he
  simp [isFor, h e he]

/-- Errors about one field are not found under another name. -/
theorem filter_isFor_of_ne (n name : String) (hne : n ≠ name) (es : List FieldError)
    (h : ∀ e ∈ es, e.field? = some n) : es.filter (·.isFor name) = [] := by
  refine List.filter_eq_nil_iff.mpr ?_
  intro e he
  simp [isFor, h e he, hne]

end FieldError

namespace Verdict

variable {α : Type}

theorem toExcept_eq_ok_iff (v : Verdict α) (w : α) : v.toExcept = .ok w ↔ v = .accepted w := by
  cases v <;> simp [toExcept]

theorem toExcept_eq_invalidPattern_iff (v : Verdict α) (source : String) :
    v.toExcept = .error (.invalidPattern source) ↔ v.abort? = some ⟨source⟩ := by
  cases v with
  | aborted p =>
    obtain ⟨t⟩ := p
    simp [toExcept]
  | accepted w => simp [toExcept]
  | rejected errors => simp [toExcept]

/-- A verdict that gives no value either collects errors or ends in a pattern. -/
theorem toExcept_eq_error_iff (v : Verdict α) (failure : Failure) :
    v.toExcept = .error failure ↔ (∃ es, v = .rejected es ∧ failure = .rejected es) ∨
      ∃ p, v = .aborted p ∧ failure = .invalidPattern p.source := by
  cases v <;> simp [toExcept, eq_comm]

theorem inputErrors_toExcept (v : Verdict α) : inputErrors v.toExcept = v.errors := by
  cases v <;> rfl

theorem abort?_under (name : String) (v : Verdict α) : (v.under name).abort? = v.abort? := by
  cases v <;> rfl

theorem under_eq_accepted_iff (name : String) (v : Verdict α) (w : α) :
    v.under name = .accepted w ↔ v = .accepted w := by
  cases v <;> simp [under]

theorem under_eq_rejected_iff (name : String) (v : Verdict α) (es : List FieldError) :
    v.under name = .rejected es ↔ ∃ fs, v = .rejected fs ∧ es = fs.map (FieldError.under name) := by
  cases v <;> simp [under, eq_comm]

theorem isFor_of_mem_errors_under (name : String) (v : Verdict α) (e : FieldError)
    (h : e ∈ (v.under name).errors) : e.field? = some name := by
  cases v with
  | accepted w => simp at h
  | aborted p => simp at h
  | rejected errors =>
    obtain ⟨e', _, rfl⟩ := List.mem_map.mp h
    rfl

end Verdict

namespace Members

theorem get?_onlyMember (name : String) (v : Option Json) :
    (onlyMember name v).get? name = v := by
  cases v with
  | none => rfl
  | some v => exact Object.get?_insert_self [] name v

theorem validate_object (ms : Members) (o : Object) :
    ms.validate (.object o) = (Verdict.collect (Schema.memberVerdicts ms o)).toExcept := by
  rw [← Schema.judgeMembers_eq]
  rfl

/-- A document is accepted if all its members are, and decoded to what they contribute. -/
theorem validate_eq_ok_iff (ms : Members) (o out : Object) :
    ms.validate (.object o) = .ok out ↔
      (∀ v ∈ Schema.memberVerdicts ms o, v.2.accepts = true) ∧
        out = Verdict.gathered (Schema.memberVerdicts ms o) := by
  rw [validate_object, Verdict.toExcept_eq_ok_iff, Verdict.collect_eq_accepted_iff]

theorem ascending_of_validate_ok (ms : Members) (o out : Object)
    (h : ms.validate (.object o) = .ok out) : out.Ascending := by
  rw [((validate_eq_ok_iff ms o out).mp h).2]
  exact Verdict.ascending_gathered _

/-- Validating a declared field alone gives the verdict on its value. -/
theorem validateField_eq (ms : Members) (name : String) (s : Schema)
    (h : ms.get? name = some s) (v : Option Json) :
    ms.validateField name v = ((s.judge v).under name).toExcept := by
  have hpicked : validate [(name, s)] (.object (onlyMember name v)) =
      ((s.judge v).join (Object.contribute name) name (.accepted [])).toExcept := by
    simp only [validate, Schema.judgeMembers, get?_onlyMember]
  simp only [validateField, pick?, h, Option.map_some, hpicked]
  cases s.judge v with
  | accepted w =>
    have hget : (Object.contribute name w []).get? name = w := get?_onlyMember name w
    simp only [Verdict.join, Verdict.toExcept, Verdict.under]
    exact congrArg Except.ok hget
  | rejected errors => rfl
  | aborted p => rfl

theorem validateField_unknown (ms : Members) (name : String) (h : name ∉ ms.names)
    (v : Option Json) : ms.validateField name v = .error (ms.unknownField name) := by
  have hnone : ms.get? name = none := by
    cases hget : ms.get? name with
    | none => rfl
    | some s => exact absurd ((exists_get?_iff ms name).mp ⟨s, hget⟩) h
  simp only [validateField, pick?, hnone, Option.map_none]
  rfl

theorem isFor_of_mem_validateField (ms : Members) (name : String) (v : Option Json)
    (e : FieldError) (h : e ∈ inputErrors (ms.validateField name v)) : e.field? = some name := by
  by_cases hname : name ∈ ms.names
  · obtain ⟨s, hs⟩ := (exists_get?_iff ms name).mpr hname
    rw [validateField_eq ms name s hs, Verdict.inputErrors_toExcept] at h
    exact Verdict.isFor_of_mem_errors_under name _ e h
  · rw [validateField_unknown ms name hname] at h
    simp [unknownField, inputErrors] at h

/-- Errors that are grouped by distinct names are found again under each name. -/
theorem filter_isFor_flatMap (reports : String → List FieldError) (names : List String)
    (hreports : ∀ n ∈ names, ∀ e ∈ reports n, e.field? = some n)
    (hnames : names.Nodup) (name : String) (hname : name ∈ names) :
    (names.flatMap reports).filter (·.isFor name) = reports name := by
  have hself := FieldError.filter_isFor_self name (reports name) (hreports name hname)
  obtain ⟨before, after, rfl⟩ := List.append_of_mem hname
  have hne : ∀ n ∈ before ++ after, n ≠ name := by
    have hcons : (name :: (before ++ after)).Nodup := List.perm_middle.nodup_iff.mp hnames
    rintro n hn rfl
    exact (List.nodup_cons.mp hcons).1 hn
  have hother : ∀ n ∈ before ++ after, (reports n).filter (·.isFor name) = [] := by
    intro n hn
    refine FieldError.filter_isFor_of_ne n name (hne n hn) (reports n) (hreports n ?_)
    rcases List.mem_append.mp hn with hn | hn <;> simp [hn]
  have hbefore : before.flatMap (fun n => (reports n).filter (·.isFor name)) = [] :=
    List.flatMap_eq_nil_iff.mpr fun n hn => hother n (List.mem_append_left _ hn)
  have hafter : after.flatMap (fun n => (reports n).filter (·.isFor name)) = [] :=
    List.flatMap_eq_nil_iff.mpr fun n hn => hother n (List.mem_append_right _ hn)
  rw [List.filter_flatMap, List.flatMap_append, List.flatMap_cons, hbefore, hafter, hself,
    List.nil_append, List.append_nil]

def fieldReports (ms : Members) (o : Object) : List FieldError :=
  ms.names.flatMap fun n => inputErrors (ms.validateField n (o.get? n))

section Distinct

variable (ms : Members) (hms : ms.names.Nodup) (o : Object)
include hms

/-- With distinct names, validating the fields one at a time gives the verdicts on the members. -/
theorem validateField_of_mem (m : String × Schema) (hm : m ∈ ms) :
    ms.validateField m.1 (o.get? m.1) = ((m.2.judge (o.get? m.1)).under m.1).toExcept :=
  validateField_eq ms m.1 m.2 (get?_of_mem ms hms m.1 m.2 hm) (o.get? m.1)

theorem fieldReports_eq :
    ms.fieldReports o =
      (Schema.memberVerdicts ms o).flatMap fun v => (v.2.under v.1).errors := by
  simp only [fieldReports, names, Schema.memberVerdicts, List.flatMap_map]
  refine List.flatMap_congr ?_
  intro m hm
  rw [validateField_of_mem ms hms o m hm, Verdict.inputErrors_toExcept]

/-- The reports about one name are those of its field. -/
theorem filter_fieldReports (name : String) (hname : name ∈ ms.names) :
    (ms.fieldReports o).filter (·.isFor name) =
      inputErrors (ms.validateField name (o.get? name)) :=
  filter_isFor_flatMap _ ms.names
    (fun n _ e he => isFor_of_mem_validateField ms n (o.get? n) e he) hms name hname

/-- A field is accepted alone exactly if its verdict accepts. -/
theorem validateField_ok_iff (m : String × Schema) (hm : m ∈ ms) :
    (∃ w, ms.validateField m.1 (o.get? m.1) = .ok w) ↔
      (m.2.judge (o.get? m.1)).accepts = true := by
  rw [validateField_of_mem ms hms o m hm, Verdict.accepts_iff]
  simp only [Verdict.toExcept_eq_ok_iff, Verdict.under_eq_accepted_iff]

/-- A field ends in an unusable pattern exactly if its verdict does. -/
theorem validateField_eq_invalidPattern_iff (m : String × Schema) (hm : m ∈ ms) (p : String) :
    ms.validateField m.1 (o.get? m.1) = .error (.invalidPattern p) ↔
      (m.2.judge (o.get? m.1)).abort? = some ⟨p⟩ := by
  rw [validateField_of_mem ms hms o m hm, Verdict.toExcept_eq_invalidPattern_iff,
    Verdict.abort?_under]

theorem abort?_eq_none_of_validateField (m : String × Schema) (hm : m ∈ ms)
    (h : ∀ p, ms.validateField m.1 (o.get? m.1) ≠ .error (.invalidPattern p)) :
    (m.2.judge (o.get? m.1)).abort? = none := by
  refine Option.eq_none_iff_forall_ne_some.mpr ?_
  rintro ⟨p⟩ hp
  exact h p ((validateField_eq_invalidPattern_iff ms hms o m hm p).mpr hp)

theorem validate_ok_iff :
    (∃ out, ms.validate (.object o) = .ok out) ↔
      ∀ n ∈ ms.names, ∃ w, ms.validateField n (o.get? n) = .ok w := by
  simp only [validate_eq_ok_iff, exists_and_left, exists_eq, and_true, names,
    Schema.memberVerdicts, List.forall_mem_map]
  exact forall₂_congr fun m hm => (validateField_ok_iff ms hms o m hm).symm

/-- A validated object holds what its fields decode to. -/
theorem mem_of_validate_ok (out : Object) (h : ms.validate (.object o) = .ok out)
    (name : String) (v : Json) :
    (name, v) ∈ out ↔
      name ∈ ms.names ∧ ms.validateField name (o.get? name) = .ok (some v) := by
  obtain ⟨hall, rfl⟩ := (validate_eq_ok_iff ms o out).mp h
  rw [← Object.get?_eq_some_iff _ (Verdict.ascending_gathered _)]
  have hnames := Schema.map_fst_memberVerdicts ms o
  by_cases hname : name ∈ ms.names
  · obtain ⟨s, hs⟩ := (exists_get?_iff ms name).mpr hname
    have hmem : (name, s.judge (o.get? name)) ∈ Schema.memberVerdicts ms o :=
      List.mem_map.mpr ⟨(name, s), mem_of_get?_eq_some ms name s hs, rfl⟩
    obtain ⟨w, hw⟩ := (Verdict.accepts_iff _).mp (hall _ hmem)
    have hget := Verdict.get?_gathered _ (hnames.symm ▸ hms) _ hmem
    simp only at hget hw
    rw [hget, validateField_eq ms name s hs, hw]
    simp [hname, Verdict.contribution, Verdict.under, Verdict.toExcept]
  · have hget := Verdict.get?_gathered_of_notMem (Schema.memberVerdicts ms o) name
      (hnames.symm ▸ hname)
    simp [hget, hname]

/-- A rejected document reports the errors of its fields, if no field ends in a pattern. -/
theorem validate_error_of_fields
    (hpattern : ∀ n ∈ ms.names, ∀ p, ms.validateField n (o.get? n) ≠ .error (.invalidPattern p))
    (failure : Failure) (h : ms.validate (.object o) = .error failure) :
    failure = .rejected (ms.fieldReports o) := by
  have habort : ∀ v ∈ Schema.memberVerdicts ms o, v.2.abort? = none := by
    intro v hv
    obtain ⟨m, hm, rfl⟩ := List.mem_map.mp hv
    exact abort?_eq_none_of_validateField ms hms o m hm (hpattern m.1 (List.mem_map_of_mem hm))
  have hreject : ∃ v ∈ Schema.memberVerdicts ms o, v.2.accepts = false := by
    by_contra hnone
    have hall : ∀ v ∈ Schema.memberVerdicts ms o, v.2.accepts = true := by simpa using hnone
    rw [(validate_eq_ok_iff ms o _).mpr ⟨hall, rfl⟩] at h
    simp at h
  rw [validate_object, Verdict.collect_eq_rejected _ habort hreject, ← fieldReports_eq ms hms] at h
  exact (Except.error.inj h).symm

/-- The first field that ends in an unusable pattern ends the whole document in it. -/
theorem validate_of_first_pattern (before after : List String) (name pattern : String)
    (hsplit : ms.names = before ++ name :: after)
    (hbefore : ∀ n ∈ before, ∀ p, ms.validateField n (o.get? n) ≠ .error (.invalidPattern p))
    (hname : ms.validateField name (o.get? name) = .error (.invalidPattern pattern)) :
    ms.validate (.object o) = .error (.invalidPattern pattern) := by
  obtain ⟨front, back, rfl, rfl, hback⟩ := List.map_eq_append_iff.mp hsplit
  obtain ⟨m, rest, rfl, rfl, -⟩ := List.map_eq_cons_iff.mp hback
  have hm : m ∈ front ++ m :: rest := by simp
  rw [validateField_eq_invalidPattern_iff _ hms o m hm] at hname
  have hfront : ∀ v ∈ Schema.memberVerdicts front o, v.2.abort? = none := by
    intro v hv
    obtain ⟨u, hu, rfl⟩ := List.mem_map.mp hv
    exact abort?_eq_none_of_validateField _ hms o u (List.mem_append_left _ hu)
      (hbefore u.1 (List.mem_map_of_mem hu))
  have haborted := Verdict.collect_eq_aborted (Schema.memberVerdicts front o)
    (Schema.memberVerdicts rest o) (m.1, m.2.judge (o.get? m.1)) ⟨pattern⟩ hfront hname
  have hverdicts : Schema.memberVerdicts (front ++ m :: rest) o =
      Schema.memberVerdicts front o ++ (m.1, m.2.judge (o.get? m.1)) ::
        Schema.memberVerdicts rest o := by
    simp [Schema.memberVerdicts]
  rw [validate_object, hverdicts, haborted]
  rfl

end Distinct

/-- Whole documents and single fields agree: on acceptance and on the decoded values, on the
errors in declared order, and on the pattern that ends the decoding. -/
theorem validate_agrees_validateField (ms : Members) (hms : ms.names.Nodup) (o : Object) :
    ((∃ out, ms.validate (.object o) = .ok out) ↔
      ∀ n ∈ ms.names, ∃ w, ms.validateField n (o.get? n) = .ok w) ∧
    (∀ out, ms.validate (.object o) = .ok out → out.Ascending ∧
      ∀ n v, (n, v) ∈ out ↔ n ∈ ms.names ∧ ms.validateField n (o.get? n) = .ok (some v)) ∧
    ((∀ n ∈ ms.names, ∀ p, ms.validateField n (o.get? n) ≠ .error (.invalidPattern p)) →
      (∀ failure, ms.validate (.object o) = .error failure →
        failure = .rejected (ms.fieldReports o)) ∧
      ∀ n ∈ ms.names, (ms.fieldReports o).filter (·.isFor n) =
        inputErrors (ms.validateField n (o.get? n))) ∧
    (∀ before n after p, ms.names = before ++ n :: after →
      (∀ k ∈ before, ∀ q, ms.validateField k (o.get? k) ≠ .error (.invalidPattern q)) →
      ms.validateField n (o.get? n) = .error (.invalidPattern p) →
      ms.validate (.object o) = .error (.invalidPattern p)) := by
  refine ⟨validate_ok_iff ms hms o, ?_, ?_, ?_⟩
  · intro out hout
    exact ⟨ascending_of_validate_ok ms o out hout, mem_of_validate_ok ms hms o out hout⟩
  · intro hpattern
    exact ⟨validate_error_of_fields ms hms o hpattern, filter_fieldReports ms hms o⟩
  · intro before n after p hsplit hbefore hn
    exact validate_of_first_pattern ms hms o before after n p hsplit hbefore hn

/-- A person without a name and with a city that is no text: two fields fail, one of them inside of
a record, and the document reports both. -/
theorem validate_agrees_validateField_person :
    let ms : Members := [("name", .string none), ("address", .record [("city", .string none)]),
      ("age", .optional (.number none))]
    let o : Object := [("address", .object [("city", .bool true)]), ("age", .null)]
    ms.names.Nodup ∧ ms.fieldReports o =
        [⟨[.key "name"], requiredMessage⟩, ⟨[.key "address", .key "city"], "Expected a string"⟩] ∧
      ms.validate (.object o) = .error (.rejected (ms.fieldReports o)) := by
  intro ms o
  have hnames : ms.names.Nodup := by decide
  have hname : ms.validateField "name" none =
    .error (.rejected [⟨[.key "name"], requiredMessage⟩]) := rfl
  have haddress : ms.validateField "address" (o.get? "address") =
    .error (.rejected [⟨[.key "address", .key "city"], "Expected a string"⟩]) := rfl
  have hage : ms.validateField "age" (o.get? "age") = .ok none := rfl
  have hpattern : ∀ n ∈ ms.names, ∀ p,
      ms.validateField n (o.get? n) ≠ .error (.invalidPattern p) := by
    intro n hn p h
    simp only [ms, names, List.map_cons, List.map_nil, List.mem_cons, List.not_mem_nil,
      or_false] at hn
    rcases hn with rfl | rfl | rfl
    · simpa using hname.symm.trans h
    · simpa using haddress.symm.trans h
    · simpa using hage.symm.trans h
  have hvalidate : ms.validate (.object o) = .error (.rejected
      [⟨[.key "name"], requiredMessage⟩,
        ⟨[.key "address", .key "city"], "Expected a string"⟩]) := rfl
  obtain ⟨_, _, hreports, _⟩ := validate_agrees_validateField ms hnames o
  have hfailure := (hreports hpattern).1 _ hvalidate
  exact ⟨hnames, (Failure.rejected.inj hfailure).symm, hfailure ▸ hvalidate⟩

end Members

end ModelForm
