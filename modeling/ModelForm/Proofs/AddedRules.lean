import ModelForm.Proofs.Aborts
import ModelForm.Proofs.Compiled

/-!
Rules refine and never override. A rule adds at most one constraint, behind those that are
there, and leaves the kind of a schema and its being optional alone. The first thing wrong
with a value is reported, so what was rejected stays rejected for the same errors and what
ended in a pattern ends in it again. Only what was accepted may turn out differently: it is
rejected for the report of the new rule alone, or it ends in the pattern of that rule.
-/

namespace ModelForm

/-- The verdict on a value with one more constraint, which is held against what was accepted. -/
def Verdict.constrained {α : Type} (c : Constraint) (v : Json) : Verdict α → Verdict α
  | .accepted w =>
    match c.requirement.holds v with
    | .ok true => .accepted w
    | .ok false => .rejected [FieldError.whole c.report]
    | .error p => .aborted p
  | other => other

inductive Verdict.Refined {α : Type} (c : Constraint) : Verdict α → Verdict α → Prop
  | same (verdict : Verdict α) : Refined c verdict verdict
  | violated (w : α) : Refined c (.accepted w) (.rejected [FieldError.whole c.report])
  | unusable (w : α) (p : Pattern) (h : c.requirement = .pattern p) (hp : p.isValid = false) :
      Refined c (.accepted w) (.aborted ⟨p.source⟩)

theorem Verdict.refined_constrained {α : Type} (c : Constraint) (v : Json) (verdict : Verdict α) :
    Refined c verdict (verdict.constrained c v) := by
  cases verdict with
  | accepted w =>
    unfold constrained
    cases hholds : c.requirement.holds v with
    | error e =>
      obtain ⟨p, -, hpattern, -, hinvalid, rfl⟩ :=
        (Requirement.holds_eq_error_iff c.requirement v e).mp hholds
      exact .unusable w p hpattern hinvalid
    | ok ok =>
      cases ok with
      | true => exact .same _
      | false => exact .violated w
  | rejected es => exact .same _
  | aborted p => exact .same _

namespace AtomicSchema

/-- A constraint behind others is met only by what satisfies them. -/
theorem firstViolation_append_singleton (v : Json) (cs : List Constraint) (c : Constraint) :
    firstViolation v (cs ++ [c]) = match firstViolation v cs with
      | .ok none => c.violation v
      | other => other := by
  induction cs with
  | nil =>
    simp only [List.nil_append, firstViolation]
    cases c.violation v with
    | error p => rfl
    | ok report => cases report <;> rfl
  | cons d rest ih =>
    simp only [List.cons_append, firstViolation]
    cases d.violation v with
    | error p => rfl
    | ok report =>
      cases report with
      | some text => rfl
      | none => exact ih

theorem violation_append_singleton (a : AtomicSchema) (c : Constraint) (v : Json) :
    ({ a with constraints := a.constraints ++ [c] } : AtomicSchema).violation v =
      match a.violation v with
      | .ok none => c.violation v
      | other => other := by
  unfold violation
  cases a.kind.accepts v with
  | true => exact firstViolation_append_singleton v a.constraints c
  | false => rfl

theorem judge_append_singleton (a : AtomicSchema) (c : Constraint) (v : Json) :
    ({ a with constraints := a.constraints ++ [c] } : AtomicSchema).judge v =
      (a.judge v).constrained c v := by
  unfold judge
  rw [violation_append_singleton]
  cases a.violation v with
  | error p => rfl
  | ok report =>
    cases report with
    | some text => rfl
    | none =>
      simp only [Constraint.violation, Verdict.constrained]
      rcases c.requirement.holds v with p | _ | _ <;> rfl

end AtomicSchema

namespace Schema

/-- A constraint reaches the atomic schema inside of what is optional, and nothing else. -/
theorem refined_constrain (suits : Kind → Bool) (c : Constraint) (s : Schema) (v : Option Json) :
    Verdict.Refined c (s.judge v) ((s.constrain suits c).judge v) := by
  induction s with
  | atomic a =>
    rw [constrain]
    split
    · cases v with
      | none => exact .same _
      | some v =>
        simp only [judge]
        rw [AtomicSchema.judge_append_singleton]
        exact Verdict.refined_constrained c v _
    · exact .same _
  | unknown => exact .same _
  | record ms => exact .same _
  | optional s ih =>
    rw [constrain]
    rcases judge_optional_cases s v with ⟨habsent, heq⟩ | ⟨hnone, hnull, heq⟩
    · rw [heq, judge_optional_absent _ v habsent]
      exact .same _
    · rw [heq, judge_optional_present _ v hnone hnull]
      exact ih

theorem orAbsent_applyRule (checks : Checks) (s : Schema) (r : Rule) :
    (s.applyRule checks r).orAbsent = s.orAbsent.applyRule checks r := by
  rw [applyRule_eq, applyRule_eq]
  split
  · exact orAbsent_constrain _ _ s
  · rfl

/-- A rule makes its own report, and only a rule with a pattern can end a decoding. -/
theorem judge_applyRule_cases (checks : Checks) (s : Schema) (r : Rule) (v : Option Json) :
    (s.applyRule checks r).judge v = s.judge v ∨
      ∃ w, s.judge v = .accepted w ∧
        ((s.applyRule checks r).judge v = .rejected [FieldError.whole r.report] ∨
          ∃ source, r.kind = .pattern ∧ r.text? = some source ∧
            (Pattern.ofText source).isValid = false ∧
            (s.applyRule checks r).judge v = .aborted ⟨source⟩) := by
  rw [applyRule_eq]
  cases hq : r.requirement? checks with
  | none => exact Or.inl rfl
  | some q =>
    have hdemands := Rule.demands_of_requirement? checks r q hq
    have hreport := Rule.report_eq checks r q hdemands
    have hrefined := refined_constrain (suited q) ⟨q, r.message⟩ s v
    simp only [require]
    generalize (s.constrain (suited q) ⟨q, r.message⟩).judge v = after at hrefined ⊢
    generalize s.judge v = before at hrefined ⊢
    cases hrefined with
    | same => exact Or.inl rfl
    | violated w => exact Or.inr ⟨w, rfl, Or.inl (by rw [hreport])⟩
    | unusable w p hpattern hinvalid =>
      subst hpattern
      cases hdemands with
      | pattern source message =>
        exact Or.inr ⟨w, rfl, Or.inr ⟨source, rfl, rfl, hinvalid, rfl⟩⟩

end Schema

/-- The schema of a field with one more rule is that of the field with the rule applied. -/
theorem Compiler.compileField_addRule (c : Compiler) (f : Field) (r : Rule) :
    c.compileField (f.addRule r) = (c.compileField f).applyRule c.checks r := by
  have hrules : (f.addRule r).allRules = f.allRules ++ [r] := by
    simp [Field.addRule, Field.allRules]
  have hfold : (c.baseSchema f.type).applyRules c.checks (f.allRules ++ [r]) =
      ((c.baseSchema f.type).applyRules c.checks f.allRules).applyRule c.checks r := by
    simp [Schema.applyRules]
  unfold compileField
  rw [hrules]
  show (if f.editRule.required then _ else _) = _
  simp only [Field.addRule, hfold]
  split
  · rfl
  · exact Schema.orAbsent_applyRule c.checks _ r

/-- A record of one member is judged as the member is. -/
theorem Members.validate_singleton (name : String) (s : Schema) (o : Object) :
    Members.validate [(name, s)] (.object o) = (((s.judge (o.get? name)).under name).map
      fun w => Object.contribute name w []).toExcept := by
  simp only [validate, Schema.judgeMembers]
  cases s.judge (o.get? name) <;> rfl

/-- Adding a rule to a field leaves every failure as it is. What was accepted is accepted with the
same result, or rejected for one error with the message of the rule, or ends in the pattern of the
rule. -/
theorem Compiler.validate_addRule (c : Compiler) (f : Field) (r : Rule) (o : Object) :
    let before := Members.validate [(f.name, c.compileField f)] (.object o)
    let after := Members.validate [(f.name, c.compileField (f.addRule r))] (.object o)
    (∀ failure, before = .error failure → after = .error failure) ∧
      ∀ out, before = .ok out → after = .ok out ∨
        after = .error (.rejected [⟨[.key f.name], r.message.getD r.standardReport⟩]) ∨
        ∃ source, r.kind = .pattern ∧ r.text? = some source ∧
          (Pattern.ofText source).isValid = false ∧ after = .error (.invalidPattern source) := by
  simp only [Members.validate_singleton, compileField_addRule]
  rcases Schema.judge_applyRule_cases c.checks (c.compileField f) r (o.get? f.name) with
    heq | ⟨w, hw, hafter⟩
  · rw [heq]
    exact ⟨fun failure h => h, fun out h => Or.inl h⟩
  · rw [hw]
    refine ⟨fun failure h => by simp [Verdict.under, Verdict.map, Verdict.toExcept] at h, ?_⟩
    intro out _
    rcases hafter with hrejected | ⟨source, hkind, htext, hinvalid, haborted⟩
    · rw [hrejected]
      exact Or.inr (Or.inl rfl)
    · rw [haborted]
      exact Or.inr (Or.inr ⟨source, hkind, htext, hinvalid, rfl⟩)

/-- A code that starts with a capital letter, and a rule that asks for a digit: what did not
start with one is rejected as before, and what has no digit is now rejected by the rule. -/
theorem Compiler.validate_addRule_code :
    let c : Compiler := {}
    let f : Field := Field.ofType "code"
      { dataType := .string, rules := [⟨.pattern, some (.text "^[A-Z]"), none⟩] }
    let r : Rule := ⟨.pattern, some (.text "[0-9]"), some "No digit"⟩
    let before (o : Object) := Members.validate [("code", c.compileField f)] (.object o)
    let after (o : Object) := Members.validate [("code", c.compileField (f.addRule r))] (.object o)
    after [("code", .string "x")] = before [("code", .string "x")] ∧
      before [("code", .string "x")] =
        .error (.rejected [⟨[.key "code"], "Must match the pattern ^[A-Z]"⟩]) ∧
      before [("code", .string "X")] = .ok [("code", .string "X")] ∧
      after [("code", .string "X")] = .error (.rejected [⟨[.key "code"], "No digit"⟩]) := by
  intro c f r before after
  have hsmall : before [("code", .string "x")] =
      .error (.rejected [⟨[.key "code"], "Must match the pattern ^[A-Z]"⟩]) := rfl
  have hcapital : before [("code", .string "X")] = .ok [("code", .string "X")] := rfl
  have hfails : (after [("code", .string "X")]).toBool = false := rfl
  obtain ⟨hfailure, -⟩ := validate_addRule c f r [("code", .string "x")]
  obtain ⟨-, hsuccess⟩ := validate_addRule c f r [("code", .string "X")]
  refine ⟨(hfailure _ hsmall).trans hsmall.symm, hsmall, hcapital, ?_⟩
  rcases hsuccess _ hcapital with hsame | hrejected | ⟨source, -, hsource, hinvalid, -⟩
  · have hok : (after [("code", .string "X")]).toBool = true := congrArg Except.toBool hsame
    rw [hok] at hfails
    exact Bool.noConfusion hfails
  · exact hrejected
  · obtain rfl : "[0-9]" = source := Option.some.inj hsource
    have hvalid : (Pattern.ofText "[0-9]").isValid = true := by decide
    rw [hvalid] at hinvalid
    exact Bool.noConfusion hinvalid

end ModelForm
