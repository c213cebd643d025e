import ModelForm.Proofs.AddedRules

/-!
The rules of a field as a set. A value is accepted if it satisfies every rule that applies, so
neither the order of the rules matters, nor how often one is given, nor whether it belongs to
the type or to the field; a field that asks for more accepts less. What a rule reports does
not matter either. Order decides only which of several failures is reported, and whether a
pattern that cannot be used is met before a rule that is broken.
-/

namespace ModelForm

namespace Binary64

/-- Doubles of the same value are equal, or both finite with the same number of units. -/
theorem signedUnits_eq_of_same (x y : Binary64) (h : x.same y = true) :
    x = y ∨ ∃ s u t v, x = .finite s u ∧ y = .finite t v ∧ signedUnits s u = signedUnits t v := by
  cases x with
  | finite s u =>
    cases y with
    | finite t v => exact Or.inr ⟨s, u, t, v, rfl, rfl, of_decide_eq_true h⟩
    | _ => simp [same] at h
  | infinite s =>
    cases y with
    | infinite t => exact Or.inl (congrArg infinite (beq_iff_eq.mp h))
    | _ => simp [same] at h
  | nan => simp [same] at h

section Same

variable (x y : Binary64) (h : x.same y = true)
include h

theorem isFinite_of_same : x.isFinite = y.isFinite := by
  rcases signedUnits_eq_of_same x y h with rfl | ⟨s, u, t, v, rfl, rfl, _⟩ <;> rfl

theorem atMost_of_same (n : Nat) : x.atMost n = y.atMost n := by
  rcases signedUnits_eq_of_same x y h with rfl | ⟨s, u, t, v, rfl, rfl, heq⟩
  · rfl
  · simp only [atMost, heq]

theorem atLeast_of_same (n : Nat) : x.atLeast n = y.atLeast n := by
  rcases signedUnits_eq_of_same x y h with rfl | ⟨s, u, t, v, rfl, rfl, heq⟩
  · rfl
  · simp only [atLeast, heq]

theorem lt_of_same_left (z : Binary64) : x.lt z = y.lt z := by
  rcases signedUnits_eq_of_same x y h with rfl | ⟨s, u, t, v, rfl, rfl, heq⟩
  · rfl
  · cases z <;> simp only [lt, heq]

theorem lt_of_same_right (z : Binary64) : z.lt x = z.lt y := by
  rcases signedUnits_eq_of_same x y h with rfl | ⟨s, u, t, v, rfl, rfl, heq⟩
  · rfl
  · cases z <;> simp only [lt, heq]

end Same

end Binary64

/-- Arguments of rules that are equal, numbers by their value: the two zeros are the same. -/
inductive RuleValue.Same : Option RuleValue → Option RuleValue → Prop
  | refl (value : Option RuleValue) : Same value value
  | number (x y : Binary64) (h : x.same y = true) : Same (some (.number x)) (some (.number y))

namespace Rule

structure Alike (r q : Rule) : Prop where
  kind : r.kind = q.kind
  value : RuleValue.Same r.value q.value

theorem Alike.refl (r : Rule) : r.Alike r := ⟨rfl, .refl r.value⟩

variable (checks : Checks) (r q : Rule) (h : r.Alike q)
include h

theorem applies_of_alike (d : Domain) : r.applies checks d = q.applies checks d := by
  obtain ⟨kind, value, message⟩ := r
  obtain ⟨_, value', message'⟩ := q
  obtain ⟨rfl, hvalue⟩ := h
  cases hvalue with
  | refl => rfl
  | number x y hxy =>
    have hfinite := Binary64.isFinite_of_same x y hxy
    have hleast := Binary64.atLeast_of_same x y hxy 0
    cases kind <;> cases d <;> simp only [applies, hfinite, hleast]

theorem holds_of_alike (v : Json) : r.holds checks v = q.holds checks v := by
  obtain ⟨kind, value, message⟩ := r
  obtain ⟨_, value', message'⟩ := q
  obtain ⟨rfl, hvalue⟩ := h
  cases hvalue with
  | refl => rfl
  | number x y hxy =>
    have hmost := Binary64.atMost_of_same x y hxy
    have hleast := Binary64.atLeast_of_same x y hxy
    have hleft := Binary64.lt_of_same_left x y hxy
    have hright := Binary64.lt_of_same_right x y hxy
    cases kind <;> cases v <;> simp only [holds, hmost, hleast, hleft, hright]

end Rule

namespace Field

def Covers (f g : Field) : Prop := ∀ q ∈ g.allRules, ∃ r ∈ f.allRules, r.Alike q

/-- Fields with one name and one type that are both required or both not, and that ask for the
same, in whatever order and however often, and whatever they report. -/
structure Alike (f g : Field) : Prop where
  name : f.name = g.name
  dataType : f.type.dataType = g.type.dataType
  enumValues : f.type.enumValues = g.type.enumValues
  required : f.editRule.required = g.editRule.required
  covers : f.Covers g
  covered : g.Covers f

/-- Rules that form the same set ask for the same. -/
theorem covers_of_mem_iff (f g : Field) (h : ∀ r, r ∈ f.allRules ↔ r ∈ g.allRules) :
    f.Covers g :=
  fun q hq => ⟨q, (h q).mpr hq, .refl q⟩

theorem Alike.symm (f g : Field) (h : f.Alike g) : g.Alike f :=
  ⟨h.name.symm, h.dataType.symm, h.enumValues.symm, h.required.symm, h.covered, h.covers⟩

theorem Alike.domain_eq (f g : Field) (h : f.Alike g) : f.type.domain = g.type.domain := by
  simp only [FieldType.domain, h.dataType, h.enumValues]

theorem Alike.excused_eq (f g : Field) (h : f.Alike g) (v : Option Json) :
    f.excused v = g.excused v := by
  rcases v with _ | v
  · simp only [excused, h.dataType, h.required]
  · cases v <;> simp only [excused, h.required]

theorem Alike.kept_eq (f g : Field) (h : f.Alike g) (v : Option Json) : f.kept v = g.kept v := by
  rw [kept, kept, Alike.excused_eq f g h v]

/-- What passes a field passes a second one that asks for nothing else. -/
theorem Alike.passes_of_passes (checks : Checks) (f g : Field) (h : f.Alike g) (v : Option Json)
    (hf : f.passes checks v = true) : g.passes checks v = true := by
  rw [passes_eq_true_iff] at hf ⊢
  rw [← h.required, ← h.dataType, ← Alike.domain_eq f g h]
  rcases hf with hnone | hnull | ⟨w, hw, hdomain, hrules⟩
  · exact Or.inl hnone
  · exact Or.inr (Or.inl hnull)
  · refine Or.inr (Or.inr ⟨w, hw, hdomain, ?_⟩)
    intro q hq happlies
    obtain ⟨r, hr, halike⟩ := h.covers q hq
    rw [← Rule.applies_of_alike checks r q halike] at happlies
    rw [← Rule.holds_of_alike checks r q halike]
    exact hrules r hr happlies

/-- A field accepts what passes it, and keeps of it what a field keeps. -/
theorem verdict_eq_accepted_iff (c : Compiler) (f : Field) (v w : Option Json) :
    f.verdict c v = .accepted w ↔ f.passes c.checks v = true ∧ f.kept v = w := by
  constructor
  · intro h
    have hpattern : f.unusable? c.checks v = none := by
      rw [← abort?_verdict c f v, h, Verdict.abort?_accepted]
    have hpasses : f.passes c.checks v = true := by
      rw [← accepts_verdict c f v hpattern, h, Verdict.accepts_accepted]
    have hkept := contribution_verdict c f v hpasses
    rw [h] at hkept
    exact ⟨hpasses, hkept.symm⟩
  · rintro ⟨hpasses, rfl⟩
    unfold verdict
    rw [unusable?_of_passes c f v hpasses, (passes_iff_complaint? c f v).mp hpasses]

end Field

/-- A record of one member is valid if the member is accepted. -/
theorem Members.validate_singleton_eq_ok_iff (name : String) (s : Schema) (o out : Object) :
    Members.validate [(name, s)] (.object o) = .ok out ↔
      ∃ w, s.judge (o.get? name) = .accepted w ∧ Object.contribute name w [] = out := by
  rw [validate_singleton, Verdict.toExcept_eq_ok_iff, Verdict.map_eq_accepted_iff]
  simp only [Verdict.under_eq_accepted_iff]

namespace Compiler

/-- Fields that are alike accept the same values, with the same result. -/
theorem judge_eq_accepted_iff_of_alike (c : Compiler) (f g : Field) (h : f.Alike g)
    (v w : Option Json) :
    (c.compileField f).judge v = .accepted w ↔ (c.compileField g).judge v = .accepted w := by
  rw [judge_compileField, judge_compileField, Field.verdict_eq_accepted_iff,
    Field.verdict_eq_accepted_iff, Field.Alike.kept_eq f g h v]
  refine and_congr_left fun _ => ?_
  exact ⟨Field.Alike.passes_of_passes c.checks f g h v,
    Field.Alike.passes_of_passes c.checks g f (Field.Alike.symm f g h) v⟩

/-- What a field accepts depends only on the set of its rules: not on their order, on how often one
is given, on whether it belongs to the type or to the field, or on what it reports. So two such
fields accept the same values or the absence of one, and the same documents, with the same
result. -/
theorem accepted_iff_of_alike (c : Compiler) (f g : Field) (h : f.Alike g) :
    (∀ v w, (c.compileField f).judge v = .accepted w ↔ (c.compileField g).judge v = .accepted w) ∧
      ∀ o out : Object, Members.validate [(f.name, c.compileField f)] (.object o) = .ok out ↔
        Members.validate [(g.name, c.compileField g)] (.object o) = .ok out := by
  refine ⟨judge_eq_accepted_iff_of_alike c f g h, ?_⟩
  intro o out
  rw [Members.validate_singleton_eq_ok_iff, Members.validate_singleton_eq_ok_iff, ← h.name]
  refine exists_congr fun w => and_congr_left fun _ => ?_
  exact judge_eq_accepted_iff_of_alike c f g h (o.get? f.name) w

/-- A code that has to start with a capital letter and to have a digit, described twice: the two
descriptions accept the same codes, but a code that breaks both rules is reported for another
one of them. -/
theorem accepted_iff_of_alike_code :
    let c : Compiler := {}
    let capital : Rule := ⟨.pattern, some (.text "^[A-Z]"), none⟩
    let digit : Rule := ⟨.pattern, some (.text "[0-9]"), none⟩
    let f : Field := Field.ofType "code" { dataType := .string, rules := [capital, digit] }
    let g : Field := ((Field.ofType "code" { dataType := .string, rules := [digit] }).addRule
      capital).addRule digit
    let judgeF (o : Object) := Members.validate [("code", c.compileField f)] (.object o)
    let judgeG (o : Object) := Members.validate [("code", c.compileField g)] (.object o)
    f.Alike g ∧ judgeF [("code", .string "X7")] = .ok [("code", .string "X7")] ∧
      judgeG [("code", .string "X7")] = .ok [("code", .string "X7")] ∧
      judgeF [("code", .string "x")] =
        .error (.rejected [⟨[.key "code"], "Must match the pattern ^[A-Z]"⟩]) ∧
      judgeG [("code", .string "x")] =
        .error (.rejected [⟨[.key "code"], "Must match the pattern [0-9]"⟩]) := by
  intro c capital digit f g judgeF judgeG
  have hrules : ∀ r, r ∈ f.allRules ↔ r ∈ g.allRules := by
    intro r
    simp only [f, g, Field.allRules, Field.addRule, Field.ofType, List.mem_append, List.mem_cons,
      List.not_mem_nil, or_false]
    tauto
  have halike : f.Alike g := ⟨rfl, rfl, rfl, rfl, Field.covers_of_mem_iff f g hrules,
    Field.covers_of_mem_iff g f fun r => (hrules r).symm⟩
  obtain ⟨-, hdocuments⟩ := accepted_iff_of_alike c f g halike
  have haccepted : judgeF [("code", .string "X7")] = .ok [("code", .string "X7")] := rfl
  exact ⟨halike, haccepted, (hdocuments _ _).mp haccepted, rfl, rfl⟩

end Compiler

end ModelForm
