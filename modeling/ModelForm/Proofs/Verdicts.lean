import ModelForm.Decode.Decode
import ModelForm.Proofs.Objects

/-!
The verdict on a record in terms of the verdicts on its members. The first abort in
declared order decides; otherwise all errors are reported in declared order; otherwise
the members contribute their values. This is stated for lists of named verdicts, so that
it serves whatever judges the members.
-/

namespace ModelForm

theorem Object.ascending_contribute (name : String) (v : Option Json) (o : Object)
    (h : o.Ascending) : (Object.contribute name v o).Ascending := by
  cases v with
  | none => exact h
  | some v => exact Object.ascending_insert o name v h

namespace Verdict

variable {α : Type}

def abort? : Verdict α → Option InvalidPattern
  | .aborted p => some p
  | _ => none

def errors : Verdict α → List FieldError
  | .rejected errors => errors
  | _ => []

def accepts : Verdict α → Bool
  | .accepted _ => true
  | _ => false

def contribution : Verdict (Option Json) → Option Json
  | .accepted v => v
  | _ => none

def under (name : String) : Verdict α → Verdict α
  | .rejected errors => .rejected (errors.map (FieldError.under name))
  | v => v

@[simp] theorem abort?_accepted (w : α) : (accepted w).abort? = none := rfl
@[simp] theorem abort?_rejected (es : List FieldError) :
    (rejected es : Verdict α).abort? = none := rfl
@[simp] theorem abort?_aborted (p : InvalidPattern) :
    (aborted p : Verdict α).abort? = some p := rfl
@[simp] theorem accepts_accepted (w : α) : (accepted w).accepts = true := rfl
@[simp] theorem accepts_rejected (es : List FieldError) :
    (rejected es : Verdict α).accepts = false := rfl
@[simp] theorem accepts_aborted (p : InvalidPattern) :
    (aborted p : Verdict α).accepts = false := rfl
@[simp] theorem errors_under_accepted (name : String) (w : α) :
    ((accepted w).under name).errors = [] := rfl
@[simp] theorem errors_under_rejected (name : String) (es : List FieldError) :
    ((rejected es : Verdict α).under name).errors = es.map (FieldError.under name) := rfl
@[simp] theorem errors_under_aborted (name : String) (p : InvalidPattern) :
    ((aborted p : Verdict α).under name).errors = [] := rfl

@[simp] theorem abort?_map {β : Type} (f : α → β) (v : Verdict α) :
    (v.map f).abort? = v.abort? := by
  cases v <;> rfl

@[simp] theorem errors_map {β : Type} (f : α → β) (v : Verdict α) :
    (v.map f).errors = v.errors := by
  cases v <;> rfl

theorem errors_under (name : String) (v : Verdict α) :
    (v.under name).errors = v.errors.map (FieldError.under name) := by
  cases v <;> rfl

theorem map_eq_accepted_iff {β : Type} (f : α → β) (v : Verdict α) (w : β) :
    v.map f = .accepted w ↔ ∃ u, v = .accepted u ∧ f u = w := by
  cases v <;> simp [map]

theorem map_eq_rejected_iff {β : Type} (f : α → β) (v : Verdict α) (es : List FieldError) :
    v.map f = .rejected es ↔ v = .rejected es := by
  cases v <;> simp [map]

theorem accepts_iff (v : Verdict α) : v.accepts = true ↔ ∃ w, v = .accepted w := by
  cases v <;> simp [accepts]

def gathered : List (String × Verdict (Option Json)) → Object
  | [] => []
  | (name, v) :: rest => Object.contribute name v.contribution (gathered rest)

/-- The verdict on an object whose members have these verdicts. -/
def collect (vs : List (String × Verdict (Option Json))) : Verdict Object :=
  match vs.findSome? fun v => v.2.abort? with
  | some p => .aborted p
  | none =>
    if vs.all fun v => v.2.accepts then .accepted (gathered vs)
    else .rejected (vs.flatMap fun v => (v.2.under v.1).errors)

/-- An object all of whose members are accepted has no errors to report. -/
theorem flatMap_errors_of_accepts (vs : List (String × Verdict (Option Json)))
    (h : vs.all (fun v => v.2.accepts) = true) :
    vs.flatMap (fun v => (v.2.under v.1).errors) = [] := by
  refine List.flatMap_eq_nil_iff.mpr ?_
  intro v hv
  obtain ⟨w, hw⟩ := (accepts_iff v.2).mp (List.all_eq_true.mp h v hv)
  rw [hw]
  rfl

theorem join_collect (name : String) (v : Verdict (Option Json))
    (rest : List (String × Verdict (Option Json))) :
    v.join (Object.contribute name) name (collect rest) = collect ((name, v) :: rest) := by
  unfold collect
  rw [List.findSome?_cons]
  cases hrest : rest.findSome? fun v => v.2.abort? with
  | some p => cases v <;> rfl
  | none =>
    cases hall : rest.all fun v => v.2.accepts with
    | true =>
      have hnil := flatMap_errors_of_accepts rest hall
      cases v <;> simp [join, gathered, contribution, hall, hnil]
    | false => cases v <;> simp [join, hall]

theorem collect_eq_accepted_iff (vs : List (String × Verdict (Option Json))) (out : Object) :
    collect vs = .accepted out ↔ (∀ v ∈ vs, v.2.accepts = true) ∧ out = gathered vs := by
  unfold collect
  cases habort : vs.findSome? fun v => v.2.abort? with
  | some p =>
    obtain ⟨v, hv, hp⟩ := List.exists_of_findSome?_eq_some habort
    refine ⟨fun h => by simp at h, ?_⟩
    rintro ⟨hall, -⟩
    obtain ⟨w, hw⟩ := (accepts_iff v.2).mp (hall v hv)
    simp [hw] at hp
  | none =>
    rw [← List.all_eq_true]
    cases vs.all fun v => v.2.accepts with
    | true => simp [eq_comm]
    | false => simp

/-- Without an abort an object is rejected as soon as one of its members is. -/
theorem collect_eq_rejected (vs : List (String × Verdict (Option Json)))
    (habort : ∀ v ∈ vs, v.2.abort? = none) (h : ∃ v ∈ vs, v.2.accepts = false) :
    collect vs = .rejected (vs.flatMap fun v => (v.2.under v.1).errors) := by
  have hnone : vs.findSome? (fun v => v.2.abort?) = none := List.findSome?_eq_none_iff.mpr habort
  have hall : (vs.all fun v => v.2.accepts) = false := by
    obtain ⟨v, hv, hreject⟩ := h
    exact List.all_eq_false.mpr ⟨v, hv, by simp [hreject]⟩
  simp [collect, hnone, hall]

/-- The first abort ends everything. -/
theorem collect_eq_aborted (before after : List (String × Verdict (Option Json)))
    (v : String × Verdict (Option Json)) (p : InvalidPattern)
    (hbefore : ∀ u ∈ before, u.2.abort? = none) (hv : v.2.abort? = some p) :
    collect (before ++ v :: after) = .aborted p := by
  have hnone : before.findSome? (fun u => u.2.abort?) = none :=
    List.findSome?_eq_none_iff.mpr hbefore
  simp [collect, List.findSome?_append, hnone, hv]

/-- An object is aborted by the first of its members that is. -/
theorem abort?_collect (vs : List (String × Verdict (Option Json))) :
    (collect vs).abort? = vs.findSome? fun v => v.2.abort? := by
  unfold collect
  split
  · rename_i p hp
    rw [abort?_aborted, hp]
  · rename_i hnone
    rw [hnone]
    split <;> rfl

/-- Without an abort the errors of an object are those of its members. -/
theorem errors_collect (vs : List (String × Verdict (Option Json)))
    (h : (collect vs).abort? = none) :
    (collect vs).errors = vs.flatMap fun v => (v.2.under v.1).errors := by
  rw [abort?_collect] at h
  simp only [collect, h]
  split
  · rename_i hall
    exact (flatMap_errors_of_accepts vs hall).symm
  · rfl

/-- An object is rejected for the errors of some member, so for at least one error. -/
theorem ne_nil_of_collect (vs : List (String × Verdict (Option Json)))
    (hvs : ∀ v ∈ vs, ∀ es, v.2 = .rejected es → es ≠ []) (es : List FieldError)
    (h : collect vs = .rejected es) : es ≠ [] := by
  unfold collect at h
  split at h
  · simp at h
  · rename_i habort
    split at h
    · simp at h
    · rename_i hall
      obtain ⟨v, hv, hreject⟩ := List.all_eq_false.mp (Bool.eq_false_iff.mpr hall)
      have hnone := List.findSome?_eq_none_iff.mp habort v hv
      rw [← Verdict.rejected.inj h]
      intro hnil
      have hempty := List.flatMap_eq_nil_iff.mp hnil v hv
      cases hcase : v.2 with
      | accepted w => simp [hcase] at hreject
      | aborted p => simp [hcase] at hnone
      | rejected fs =>
        rw [hcase, errors_under_rejected] at hempty
        exact hvs v hv fs hcase (List.map_eq_nil_iff.mp hempty)

theorem ascending_gathered (vs : List (String × Verdict (Option Json))) :
    (gathered vs).Ascending := by
  induction vs with
  | nil => exact Object.ascending_nil
  | cons v rest ih => exact Object.ascending_contribute v.1 _ _ ih

theorem get?_gathered_of_notMem (vs : List (String × Verdict (Option Json))) (name : String)
    (h : name ∉ vs.map Prod.fst) : (gathered vs).get? name = none := by
  induction vs with
  | nil => rfl
  | cons v rest ih =>
    obtain ⟨n, v⟩ := v
    simp only [List.map_cons, List.mem_cons, not_or] at h
    cases hv : v.contribution with
    | none => simpa [gathered, Object.contribute, hv] using ih h.2
    | some w =>
      simp only [gathered, Object.contribute, hv]
      rw [Object.get?_insert_of_ne _ _ h.1, ih h.2]

/-- A member of an accepted object is what its verdict contributes. -/
theorem get?_gathered (vs : List (String × Verdict (Option Json)))
    (hvs : (vs.map Prod.fst).Nodup) (v : String × Verdict (Option Json)) (h : v ∈ vs) :
    (gathered vs).get? v.1 = v.2.contribution := by
  induction vs with
  | nil => simp at h
  | cons u rest ih =>
    obtain ⟨hnew, hrest⟩ := List.nodup_cons.mp hvs
    rcases List.mem_cons.mp h with rfl | hmem
    · obtain ⟨n, v⟩ := v
      cases hv : v.contribution with
      | none => simpa [gathered, Object.contribute, hv] using get?_gathered_of_notMem rest n hnew
      | some w =>
        simp only [gathered, Object.contribute, hv]
        rw [Object.get?_insert_self]
    · have hne : v.1 ≠ u.1 := fun he => hnew (he ▸ List.mem_map_of_mem hmem)
      rw [← ih hrest hmem]
      obtain ⟨n, u⟩ := u
      cases hu : u.contribution with
      | none => simp [gathered, Object.contribute, hu]
      | some w =>
        simp only [gathered, Object.contribute, hu]
        rw [Object.get?_insert_of_ne _ _ hne]

theorem get?_gathered_eq_some_iff (vs : List (String × Verdict (Option Json)))
    (hvs : (vs.map Prod.fst).Nodup) (key : String) (w : Json) :
    (gathered vs).get? key = some w ↔ ∃ v ∈ vs, v.1 = key ∧ v.2.contribution = some w := by
  constructor
  · intro h
    have hkey : key ∈ vs.map Prod.fst := by
      by_contra hnot
      simp [get?_gathered_of_notMem vs key hnot] at h
    obtain ⟨v, hv, rfl⟩ := List.mem_map.mp hkey
    exact ⟨v, hv, rfl, (get?_gathered vs hvs v hv).symm.trans h⟩
  · rintro ⟨v, hv, rfl, hw⟩
    exact (get?_gathered vs hvs v hv).trans hw

/-- The contributions of members with distinct names make up an object in whatever order they
are put together. -/
theorem gathered_eq_ofList (vs : List (String × Verdict (Option Json)))
    (hvs : (vs.map Prod.fst).Nodup) :
    gathered vs = Object.ofList (vs.filterMap fun v => v.2.contribution.map (Prod.mk v.1)) := by
  have hkeys : ((vs.filterMap fun v => v.2.contribution.map (Prod.mk v.1)).map Prod.fst).Nodup := by
    refine List.pairwise_map.mpr ((List.pairwise_map.mp hvs).filterMap _ ?_)
    rintro u v hne a ha b hb heq
    obtain ⟨_, _, rfl⟩ := Option.map_eq_some_iff.mp ha
    obtain ⟨_, _, rfl⟩ := Option.map_eq_some_iff.mp hb
    exact hne heq
  refine Object.ext_get? _ _ (ascending_gathered vs) (Object.ascending_ofList _) ?_
  intro key
  refine Option.ext ?_
  intro w
  rw [get?_gathered_eq_some_iff vs hvs, Object.get?_ofList_eq_some_iff _ hkeys, List.mem_filterMap]
  refine exists_congr fun v => and_congr_right fun _ => ?_
  constructor
  · rintro ⟨rfl, hw⟩
    rw [hw, Option.map_some]
  · intro h
    obtain ⟨x, hx, heq⟩ := Option.map_eq_some_iff.mp h
    obtain ⟨rfl, rfl⟩ := Prod.mk.inj heq
    exact ⟨rfl, hx⟩

end Verdict

namespace Schema

theorem judge_optional_absent (s : Schema) (v : Option Json) (h : v = none ∨ v = some .null) :
    (Schema.optional s).judge v = .accepted none := by
  rcases h with rfl | rfl <;> simp [judge]

theorem judge_optional_present (s : Schema) (v : Option Json) (hnone : v ≠ none)
    (hnull : v ≠ some .null) : (Schema.optional s).judge v = s.judge v := by
  cases v with
  | none => exact absurd rfl hnone
  | some v => cases v <;> simp_all [judge]

/-- What is optional is accepted without a value, or judged as what is required. -/
theorem judge_optional_cases (s : Schema) (v : Option Json) :
    (v = none ∨ v = some .null) ∧ (Schema.optional s).judge v = .accepted none ∨
      v ≠ none ∧ v ≠ some .null ∧ (Schema.optional s).judge v = s.judge v := by
  by_cases hnull : v = none ∨ v = some .null
  · exact Or.inl ⟨hnull, judge_optional_absent s v hnull⟩
  · obtain ⟨hnone, hnull⟩ := not_or.mp hnull
    exact Or.inr ⟨hnone, hnull, judge_optional_present s v hnone hnull⟩

/-- A record judges the members of an object, and rejects all else for one error. -/
theorem judge_record_cases (ms : Members) (v : Option Json) :
    (∃ o, v = some (.object o) ∧ (Schema.record ms).judge v =
      (judgeMembers ms o).map fun out => some (.object out)) ∨
      ∃ message, (Schema.record ms).judge v = .rejected [FieldError.whole message] := by
  cases v with
  | none => exact Or.inr ⟨requiredMessage, by simp [judge]⟩
  | some v =>
    cases v with
    | object o => exact Or.inl ⟨o, rfl, by simp [judge]⟩
    | _ => exact Or.inr ⟨objectMessage, by simp [judge]⟩

def memberVerdicts (ms : Members) (o : Object) : List (String × Verdict (Option Json)) :=
  ms.map fun m => (m.1, m.2.judge (o.get? m.1))

theorem judgeMembers_eq (ms : Members) (o : Object) :
    judgeMembers ms o = Verdict.collect (memberVerdicts ms o) := by
  induction ms with
  | nil => rfl
  | cons m rest ih =>
    obtain ⟨name, s⟩ := m
    simp only [judgeMembers, memberVerdicts, List.map_cons]
    rw [ih, Verdict.join_collect]
    rfl

theorem map_fst_memberVerdicts (ms : Members) (o : Object) :
    (memberVerdicts ms o).map Prod.fst = ms.names := by
  simp only [memberVerdicts, Members.names, List.map_map]
  rfl

/-- Two objects whose members are judged alike. -/
theorem memberVerdicts_eq_iff (ms : Members) (o p : Object) :
    memberVerdicts ms o = memberVerdicts ms p ↔
      ∀ m ∈ ms, m.2.judge (o.get? m.1) = m.2.judge (p.get? m.1) := by
  simp [memberVerdicts]

end Schema

end ModelForm
