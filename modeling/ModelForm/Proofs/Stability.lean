import ModelForm.Proofs.Records
import ModelForm.Proofs.SingleField

/-!
Decoding what was decoded. Decoding drops undeclared members and optional nulls at every
depth, so a second decoding meets smaller objects; by induction on the schema each part
of them is judged as before and comes out unchanged.
-/

namespace ModelForm

/-- An atomic schema gives a value back as it is. -/
theorem AtomicSchema.eq_some_of_judge (a : AtomicSchema) (v : Json) (w : Option Json)
    (h : a.judge v = .accepted w) : w = some v := by
  unfold judge at h
  split at h
  · simp at h
  · simp at h
  · exact (Verdict.accepted.inj h).symm

namespace Schema

theorem exists_of_judge_atomic (a : AtomicSchema) (v w : Option Json)
    (h : (Schema.atomic a).judge v = .accepted w) : v ≠ none ∧ w = v := by
  cases v with
  | none => simp [judge] at h
  | some v =>
    refine ⟨by simp, ?_⟩
    exact AtomicSchema.eq_some_of_judge a v w (by simpa [judge] using h)

/-- A record accepts objects only, and gives objects. -/
theorem exists_of_judge_record (ms : Members) (v w : Option Json)
    (h : (Schema.record ms).judge v = .accepted w) :
    ∃ o out, v = some (.object o) ∧ w = some (.object out) ∧
      judgeMembers ms o = .accepted out := by
  rcases judge_record_cases ms v with ⟨o, rfl, heq⟩ | ⟨message, heq⟩
  · obtain ⟨out, hout, rfl⟩ := (Verdict.map_eq_accepted_iff _ _ _).mp (heq.symm.trans h)
    exact ⟨o, out, rfl, rfl, hout⟩
  · simp [heq] at h

/-- Nothing but null decodes to null. -/
theorem eq_null_of_judge (s : Schema) (hs : s.Distinct) (v : Option Json)
    (h : s.judge v = .accepted (some .null)) : v = some .null := by
  induction hs with
  | atomic a => exact (exists_of_judge_atomic a v _ h).2.symm
  | unknown => simpa [judge] using h
  | record ms hnames hms ih =>
    obtain ⟨o, out, _, hout, _⟩ := exists_of_judge_record ms v _ h
    simp at hout
  | optional s hs ih =>
    rcases judge_optional_cases s v with ⟨_, heq⟩ | ⟨_, _, heq⟩
    · simp [heq] at h
    · exact ih (heq.symm.trans h)

/-- The members of a decoded object are judged as those of the object it was decoded from. -/
theorem memberVerdicts_gathered (ms : Members) (hnames : ms.names.Nodup) (o : Object)
    (hall : ∀ v ∈ memberVerdicts ms o, v.2.accepts = true)
    (ih : ∀ m ∈ ms, ∀ v w, m.2.judge v = .accepted w → m.2.judge w = .accepted w) :
    memberVerdicts ms (Verdict.gathered (memberVerdicts ms o)) = memberVerdicts ms o := by
  refine List.map_congr_left ?_
  intro m hm
  have hmem : (m.1, m.2.judge (o.get? m.1)) ∈ memberVerdicts ms o := List.mem_map_of_mem hm
  obtain ⟨w, hw⟩ := (Verdict.accepts_iff _).mp (hall _ hmem)
  have hget := Verdict.get?_gathered _ (map_fst_memberVerdicts ms o ▸ hnames) _ hmem
  simp only at hget hw
  rw [hget, hw]
  exact congrArg (Prod.mk m.1) (ih m hm _ w hw)

/-- What a schema accepts it accepts again, unchanged. -/
theorem judge_stable (s : Schema) (hs : s.Distinct) (v w : Option Json)
    (h : s.judge v = .accepted w) : s.judge w = .accepted w := by
  induction hs generalizing v w with
  | atomic a =>
    obtain ⟨_, rfl⟩ := exists_of_judge_atomic a v w h
    exact h
  | unknown => simp [judge]
  | record ms hnames hms ih =>
    obtain ⟨o, out, rfl, rfl, hout⟩ := exists_of_judge_record ms v w h
    rw [judgeMembers_eq, Verdict.collect_eq_accepted_iff] at hout
    obtain ⟨hall, rfl⟩ := hout
    have hagain : judgeMembers ms (Verdict.gathered (memberVerdicts ms o)) =
        .accepted (Verdict.gathered (memberVerdicts ms o)) := by
      rw [judgeMembers_eq, memberVerdicts_gathered ms hnames o hall ih]
      exact (Verdict.collect_eq_accepted_iff _ _).mpr ⟨hall, rfl⟩
    simp only [judge, hagain]
    rfl
  | optional s hs ih =>
    rcases judge_optional_cases s v with ⟨_, heq⟩ | ⟨hnone, hnull, heq⟩
    · rw [← Verdict.accepted.inj (heq.symm.trans h), judge_optional_absent s none (Or.inl rfl)]
    · have hinner : s.judge v = .accepted w := heq.symm.trans h
      -- the value that is decoded could only be null if the given one were
      by_cases hw : w = none
      · subst hw
        exact judge_optional_absent s none (Or.inl rfl)
      · have hwnull : w ≠ some .null := by
          rintro rfl
          exact hnull (eq_null_of_judge s hs v hinner)
        rw [judge_optional_present s w hw hwnull]
        exact ih v w hinner

/-- Decoding gives what is accepted, or null if nothing is. -/
theorem decode_eq_ok_iff (s : Schema) (v w : Json) :
    s.decode v = .ok w ↔ ∃ u, s.judge (some v) = .accepted u ∧ u.getD .null = w := by
  unfold decode
  cases s.judge (some v) <;> simp [Verdict.toExcept, Except.map]

/-- Only null is accepted without contributing a value. -/
theorem eq_null_of_judge_none (s : Schema) (v : Json)
    (h : s.judge (some v) = .accepted none) : v = .null := by
  induction s with
  | atomic a => exact absurd (exists_of_judge_atomic a _ _ h).2 (by simp)
  | unknown => simp [judge] at h
  | record ms =>
    obtain ⟨_, _, _, hnone, _⟩ := exists_of_judge_record ms _ _ h
    simp at hnone
  | optional s ih =>
    rcases judge_optional_cases s (some v) with ⟨habsent, _⟩ | ⟨_, _, heq⟩
    · simpa using habsent
    · exact ih (heq.symm.trans h)

/-- A decoded value decodes to itself. -/
theorem decode_of_decode (s : Schema) (hs : s.Distinct) (v w : Json) (h : s.decode v = .ok w) :
    s.decode w = .ok w := by
  obtain ⟨u, hu, rfl⟩ := (decode_eq_ok_iff s v w).mp h
  cases u with
  | none =>
    -- nothing was contributed, so the value was null to begin with
    obtain rfl := eq_null_of_judge_none s v hu
    exact h
  | some u => exact (decode_eq_ok_iff s u u).mpr ⟨some u, judge_stable s hs _ _ hu, rfl⟩

end Schema

namespace Members

/-- The members of a validated document are judged as they were in the given one. -/
theorem memberVerdicts_of_validate (ms : Members) (hms : ms.Distinct) (o out : Object)
    (h : ms.validate (.object o) = .ok out) :
    Schema.memberVerdicts ms out = Schema.memberVerdicts ms o := by
  obtain ⟨hnames, hdistinct⟩ := (distinct_iff ms).mp hms
  obtain ⟨hall, rfl⟩ := (validate_eq_ok_iff ms o out).mp h
  exact Schema.memberVerdicts_gathered ms hnames o hall fun m hm =>
    Schema.judge_stable m.2 (hdistinct m hm)

/-- A validated document is valid, and validating it changes nothing. -/
theorem validate_of_validate (ms : Members) (hms : ms.Distinct) (o out : Object)
    (h : ms.validate (.object o) = .ok out) : ms.validate (.object out) = .ok out := by
  rw [validate_object, memberVerdicts_of_validate ms hms o out h, ← validate_object]
  exact h

end Members

/-- Decoded values and validated documents are fixed points of decoding and validating. -/
theorem Schema.decoded_fixed :
    (∀ s : Schema, s.Distinct → ∀ v w, s.decode v = .ok w → s.decode w = .ok w) ∧
      ∀ ms : Members, ms.Distinct → ∀ v out, ms.validate v = .ok out →
        ms.validate (.object out) = .ok out := by
  refine ⟨decode_of_decode, ?_⟩
  intro ms hms v out h
  cases v with
  | object o => exact Members.validate_of_validate ms hms o out h
  | _ => simp [Members.validate] at h

/-- A person without tags or a zip code, and with members that nobody declared. -/
theorem Schema.decoded_fixed_person :
    let ms : Members := [("name", .string none), ("tags", .optional .unknown),
      ("home", .record [("city", .string none), ("zip", .optional (.string none))])]
    let v : Json := .object [("home", .object [("city", .string "Bern"), ("floor", .bool true),
      ("zip", .null)]), ("name", .string "Ann"), ("note", .null), ("tags", .null)]
    let out : Object := [("home", .object [("city", .string "Bern")]), ("name", .string "Ann")]
    ms.Distinct ∧ ms.validate v = .ok out ∧ ms.validate (.object out) = .ok out ∧
      (Schema.record ms).decode (.object out) = .ok (.object out) := by
  intro ms v out
  have hdistinct : ms.Distinct := by decide
  have hvalidate : ms.validate v = .ok out := rfl
  have hdecode : (Schema.record ms).decode v = .ok (.object out) := rfl
  obtain ⟨hdecoded, hvalidated⟩ := decoded_fixed
  exact ⟨hdistinct, hvalidate, hvalidated ms hdistinct v out hvalidate,
    hdecoded _ hdistinct v _ hdecode⟩

end ModelForm
