import ModelForm.Proofs.Rules
import ModelForm.Proofs.SingleField

/-!
Compiled models do what their metadata says. The constraints of a field stand in the
order of its rules on the schema of its domain, so the field is judged as the metadata
judges it; the verdicts on the fields make up the verdict on the document.
-/

namespace ModelForm

namespace Schema

variable (checks : Checks)

/-- To look whether a rule is meant for a schema is to look whether its requirement suits it. -/
theorem applyRule_eq (s : Schema) (r : Rule) :
    s.applyRule checks r = match r.requirement? checks with
      | some q => s.require q r.message
      | none => s := by
  unfold applyRule
  cases hq : r.requirement? checks with
  | none => rfl
  | some q =>
    cases hadmits : s.admits r.kind with
    | true => rfl
    | false =>
      have hdemands := Rule.demands_of_requirement? checks r q hq
      have hsuited := Rule.suited_of_admits checks r q hdemands s hadmits
      exact (require_eq_self s q r.message hsuited).symm

/-- Rules leave a schema that has no kind as it is. -/
theorem applyRules_of_kind?_none (s : Schema) (hs : s.kind? = none) (rules : List Rule) :
    s.applyRules checks rules = s := by
  induction rules with
  | nil => rfl
  | cons r rest ih =>
    have hrule : s.applyRule checks r = s := by
      rw [applyRule_eq]
      split
      · exact require_eq_self s _ r.message (by simp [hs])
      · rfl
    show (s.applyRule checks r).applyRules checks rest = s
    rw [hrule, ih]

theorem applyRule_atomic (a : AtomicSchema) (r : Rule) :
    (atomic a).applyRule checks r = .atomic { a with
      constraints := a.constraints ++ (r.constraint? checks a.kind).toList } := by
  rw [applyRule_eq, Rule.constraint?]
  cases r.requirement? checks with
  | none => simp
  | some q =>
    by_cases h : suited q a.kind = true <;> simp [require, constrain, Option.filter_some, h]

/-- The constraints of the rules stand in the order of the rules. -/
theorem applyRules_atomic (a : AtomicSchema) (rules : List Rule) :
    (atomic a).applyRules checks rules = .atomic { a with
      constraints := a.constraints ++ rules.filterMap (Rule.constraint? checks a.kind) } := by
  induction rules generalizing a with
  | nil => simp [applyRules]
  | cons r rest ih =>
    show ((atomic a).applyRule checks r).applyRules checks rest = _
    rw [applyRule_atomic, ih]
    cases h : r.constraint? checks a.kind <;> simp [h]

end Schema

/-- The verdict of the metadata of a field on its value. -/
def Field.verdict (c : Compiler) (f : Field) (v : Option Json) : Verdict (Option Json) :=
  match f.unusable? c.checks v with
  | some p => .aborted p
  | none =>
    match f.complaint? c v with
    | some report => .rejected [FieldError.whole report]
    | none => .accepted (f.kept v)

theorem Field.verdict_of_excused (c : Compiler) (f : Field) (v : Option Json)
    (h : f.excused v = true) : f.verdict c v = .accepted none := by
  simp [verdict, unusable?, complaint?, kept, h]

namespace Compiler

variable (c : Compiler) (f : Field)

def ruledSchema : Schema := (c.baseSchema f.type).applyRules c.checks f.allRules

theorem ruledSchema_of_json (h : f.type.dataType = .json) :
    f.type.domain = .any ∧ c.ruledSchema f = .unknown := by
  refine ⟨by simp [FieldType.domain, h], ?_⟩
  have hbase : c.baseSchema f.type = .unknown := by simp [baseSchema, h]
  rw [ruledSchema, hbase]
  exact Schema.applyRules_of_kind?_none c.checks .unknown rfl f.allRules

theorem baseSchema_of_ne_json (t : FieldType) (h : t.dataType ≠ .json) :
    ∃ k, t.domain.kind? = some k ∧
      c.baseSchema t = .atomic ⟨k, t.domain.message c.messages, []⟩ := by
  unfold baseSchema FieldType.domain
  cases ht : t.dataType with
  | json => exact absurd ht h
  | enumeration => cases t.enumValues <;> exact ⟨_, rfl, rfl⟩
  | _ => exact ⟨_, rfl, rfl⟩

theorem ruledSchema_of_ne_json (h : f.type.dataType ≠ .json) :
    ∃ k, f.type.domain.kind? = some k ∧ c.ruledSchema f =
      .atomic ⟨k, f.type.domain.message c.messages,
        f.allRules.filterMap (Rule.constraint? c.checks k)⟩ := by
  obtain ⟨k, hk, hbase⟩ := baseSchema_of_ne_json c f.type h
  refine ⟨k, hk, ?_⟩
  rw [ruledSchema, hbase, Schema.applyRules_atomic, List.nil_append]

/-- A field that may hold anything has no rule that its value could break. -/
theorem broken?_of_json (h : f.type.dataType = .json) (v : Json) :
    f.broken? c.checks v = none := by
  refine List.find?_eq_none.mpr ?_
  intro r _
  rw [(ruledSchema_of_json c f h).1]
  simp [Rule.isBroken, Rule.applies_any]

/-- An atomic schema reports what the metadata does. -/
theorem judge_ruledSchema_present (k : Kind) (hk : f.type.domain.kind? = some k) (v : Json)
    (hexcused : f.excused (some v) = false) :
    AtomicSchema.judge ⟨k, f.type.domain.message c.messages,
      f.allRules.filterMap (Rule.constraint? c.checks k)⟩ v = f.verdict c (some v) := by
  have haccepts := Domain.accepts_eq_contains f.type.domain k hk v
  unfold AtomicSchema.judge AtomicSchema.violation
  cases hcontains : f.type.domain.contains v with
  | false =>
    have houtside := Domain.outside?_eq c.messages f.type.domain k hk v hcontains
      (f.allRules.filterMap (Rule.constraint? c.checks k))
    simp [haccepts, hcontains, Field.verdict, Field.unusable?, Field.complaint?, hexcused, houtside]
  | true =>
    have hfirst :=
      Rule.firstViolation_constraints c.checks f.type.domain k hk v hcontains f.allRules
    have houtside : f.type.domain.outside? c.messages v = none := by
      simp [Domain.outside?, hcontains]
    simp only [haccepts, hcontains, if_true, hfirst]
    cases hbroken : f.allRules.find? (Rule.isBroken c.checks f.type.domain v) with
    | none =>
      simp [Field.verdict, Field.unusable?, Field.complaint?, Field.kept, Field.broken?, hexcused,
        hcontains, houtside, hbroken]
    | some r =>
      cases hholds : r.holds c.checks v <;>
        simp [Field.verdict, Field.unusable?, Field.complaint?, Field.broken?, hexcused,
          hcontains, houtside, hbroken, Rule.unusable?, hholds, Except.map]

theorem judge_ruledSchema (v : Option Json) (hexcused : f.excused v = false) :
    (c.ruledSchema f).judge v = f.verdict c v := by
  by_cases hjson : f.type.dataType = .json
  · obtain ⟨hdomain, hschema⟩ := ruledSchema_of_json c f hjson
    cases v with
    | none => simp [Field.excused, hjson] at hexcused
    | some v =>
      have hbroken := broken?_of_json c f hjson v
      simp [hschema, Schema.judge, Field.verdict, Field.unusable?, Field.complaint?, Field.kept,
        hexcused, hbroken, hdomain, Domain.outside?, Domain.contains]
  · obtain ⟨k, hk, hschema⟩ := ruledSchema_of_ne_json c f hjson
    rw [hschema]
    cases v with
    | none =>
      simp [Schema.judge, Field.verdict, Field.unusable?, Field.complaint?, hexcused]
    | some v =>
      simp only [Schema.judge]
      exact judge_ruledSchema_present c f k hk v hexcused

theorem orAbsent_ruledSchema : (c.ruledSchema f).orAbsent = .optional (c.ruledSchema f) := by
  by_cases hjson : f.type.dataType = .json
  · rw [(ruledSchema_of_json c f hjson).2]
    rfl
  · obtain ⟨k, _, hschema⟩ := ruledSchema_of_ne_json c f hjson
    rw [hschema]
    rfl

/-- The schema of a field gives the verdict of its metadata. -/
theorem judge_compileField (v : Option Json) :
    (c.compileField f).judge v = f.verdict c v := by
  show (if f.editRule.required then c.ruledSchema f else (c.ruledSchema f).orAbsent).judge v = _
  cases hrequired : f.editRule.required with
  | true =>
    rw [if_pos rfl]
    cases hexcused : f.excused v with
    | false => exact judge_ruledSchema c f v hexcused
    | true =>
      -- a required field is excused only from holding anything at all
      have hnone : v = none ∧ f.type.dataType = .json := by
        rcases v with _ | v
        · simpa [Field.excused, hrequired] using hexcused
        · cases v <;> simp [Field.excused, hrequired] at hexcused
      rw [Field.verdict_of_excused c f v hexcused, hnone.1, (ruledSchema_of_json c f hnone.2).2]
      rfl
  | false =>
    rw [if_neg Bool.false_ne_true, orAbsent_ruledSchema]
    rcases Schema.judge_optional_cases (c.ruledSchema f) v with ⟨hnull, heq⟩ | ⟨hnone, hnull, heq⟩
    · have hexcused : f.excused v = true := by
        rcases hnull with rfl | rfl <;> simp [Field.excused, hrequired]
      rw [heq, Field.verdict_of_excused c f v hexcused]
    · have hexcused : f.excused v = false := by
        rcases v with _ | v
        · exact absurd rfl hnone
        · cases v <;> simp_all [Field.excused]
      rw [heq, judge_ruledSchema c f v hexcused]

theorem distinct_compileField : (c.compileField f).Distinct := by
  have hruled : (c.ruledSchema f).Distinct := by
    by_cases hjson : f.type.dataType = .json
    · rw [(ruledSchema_of_json c f hjson).2]
      exact .unknown
    · obtain ⟨k, _, hschema⟩ := ruledSchema_of_ne_json c f hjson
      rw [hschema]
      exact .atomic _
  show Schema.Distinct (if f.editRule.required then c.ruledSchema f else (c.ruledSchema f).orAbsent)
  split
  · exact hruled
  · exact Schema.Distinct.orAbsent _ hruled

/-- What is compiled from a model is a record, even if the model repeats a name. -/
theorem distinct_compile (m : Model) : (c.compile m).Distinct := by
  refine Members.distinct_ofList _ ?_
  intro p hp
  obtain ⟨f, _, rfl⟩ := List.mem_map.mp hp
  exact distinct_compileField c f

theorem compile_eq (m : Model) (hnames : m.fieldNames.Nodup) :
    c.compile m = m.fields.map fun f => (f.name, c.compileField f) := by
  refine Members.ofList_eq_self _ ?_
  simpa [Members.names, Model.fieldNames, Function.comp_def] using hnames

end Compiler

namespace Field

variable (c : Compiler) (f : Field) (v : Option Json)

theorem abort?_verdict : (f.verdict c v).abort? = f.unusable? c.checks v := by
  unfold verdict
  cases f.unusable? c.checks v with
  | some p => rfl
  | none => cases f.complaint? c v <;> rfl

theorem broken?_eq_none_iff (checks : Checks) (w : Json) :
    f.broken? checks w = none ↔
      (f.allRules.all fun r => !r.isBroken checks f.type.domain w) = true := by
  simp [broken?, List.find?_eq_none, List.all_eq_true]

/-- A field is passed exactly if there is nothing to report on it. -/
theorem passes_iff_complaint? : f.passes c.checks v = true ↔ f.complaint? c v = none := by
  unfold passes complaint?
  cases hexcused : f.excused v with
  | true => simp
  | false =>
    cases v with
    | none => simp
    | some w =>
      simp only [Bool.false_or, Option.any_some, Bool.and_eq_true, ← broken?_eq_none_iff,
        Option.or_eq_none_iff, Option.map_eq_none_iff, Bool.false_eq_true, if_false,
        Domain.outside?_eq_none_iff]

/-- Judging a passed field comes to no pattern that cannot be used. -/
theorem unusable?_of_passes (h : f.passes c.checks v = true) : f.unusable? c.checks v = none := by
  unfold unusable?
  cases hexcused : f.excused v with
  | true => simp
  | false =>
    cases v with
    | none => simp
    | some w =>
      simp only [passes, hexcused, Bool.false_or, Option.any_some, Bool.and_eq_true,
        ← broken?_eq_none_iff] at h
      simp [h.1, h.2]

theorem accepts_verdict (h : f.unusable? c.checks v = none) :
    (f.verdict c v).accepts = f.passes c.checks v := by
  rw [Bool.eq_iff_iff, passes_iff_complaint?]
  unfold verdict
  rw [h]
  cases f.complaint? c v <;> simp

theorem contribution_verdict (h : f.passes c.checks v = true) :
    (f.verdict c v).contribution = f.kept v := by
  unfold verdict
  rw [unusable?_of_passes c f v h, (passes_iff_complaint? c f v).mp h]
  rfl

theorem errors_verdict (h : f.unusable? c.checks v = none) :
    ((f.verdict c v).under f.name).errors =
      ((f.complaint? c v).map fun report => FieldError.mk [.key f.name] report).toList := by
  unfold verdict
  rw [h]
  cases f.complaint? c v <;> rfl

end Field

namespace Model

variable (c : Compiler) (m : Model) (o : Object)

def verdicts : List (String × Verdict (Option Json)) :=
  m.fields.map fun f => (f.name, f.verdict c (o.get? f.name))

theorem memberVerdicts_compile (hnames : m.fieldNames.Nodup) :
    Schema.memberVerdicts (c.compile m) o = m.verdicts c o := by
  rw [Compiler.compile_eq c m hnames]
  simp only [Schema.memberVerdicts, verdicts, List.map_map]
  refine List.map_congr_left ?_
  intro f _
  simp [Compiler.judge_compileField]

theorem findSome?_abort?_verdicts : (m.verdicts c o).findSome? (fun v => v.2.abort?) =
    m.fields.findSome? fun f => f.unusable? c.checks (o.get? f.name) := by
  simp [verdicts, List.findSome?_map, Function.comp_def, Field.abort?_verdict]

section Usable

variable (h : ∀ f ∈ m.fields, f.unusable? c.checks (o.get? f.name) = none)
include h

theorem all_accepts_verdicts : (m.verdicts c o).all (fun v => v.2.accepts) =
    m.fields.all fun f => f.passes c.checks (o.get? f.name) := by
  rw [Bool.eq_iff_iff]
  simp only [verdicts, List.all_eq_true, List.forall_mem_map]
  refine forall₂_congr fun f hf => ?_
  rw [Field.accepts_verdict c f _ (h f hf)]

theorem errors_verdicts : (m.verdicts c o).flatMap (fun v => (v.2.under v.1).errors) =
    m.fields.filterMap fun f => (f.complaint? c (o.get? f.name)).map fun report =>
      FieldError.mk [.key f.name] report := by
  rw [List.filterMap_eq_flatMap_toList]
  simp only [verdicts, List.flatMap_map]
  exact List.flatMap_congr fun f hf => Field.errors_verdict c f _ (h f hf)

end Usable

/-- What passed fields hold is what their verdicts contribute. -/
theorem gathered_verdicts (hnames : m.fieldNames.Nodup)
    (h : ∀ f ∈ m.fields, f.passes c.checks (o.get? f.name) = true) :
    Verdict.gathered (m.verdicts c o) = Object.ofList (m.fields.filterMap fun f =>
      (f.kept (o.get? f.name)).map (Prod.mk f.name)) := by
  have hfst : ((m.verdicts c o).map Prod.fst).Nodup := by
    simpa [verdicts, fieldNames, Function.comp_def] using hnames
  rw [Verdict.gathered_eq_ofList _ hfst]
  simp only [verdicts, List.filterMap_map, Function.comp_def]
  refine congrArg Object.ofList (List.filterMap_congr ?_)
  intro f hf
  rw [Field.contribution_verdict c f _ (h f hf)]

end Model

/-- Validating a document by a compiled model gives what the metadata of the model says. -/
theorem Compiler.validate_compile (c : Compiler) (m : Model) (hnames : m.fieldNames.Nodup)
    (o : Object) : (c.compile m).validate (.object o) = m.interpret c o := by
  rw [Members.validate_object, Model.memberVerdicts_compile c m o hnames]
  unfold Verdict.collect Model.interpret
  rw [Model.findSome?_abort?_verdicts]
  cases hpattern : m.fields.findSome? fun f => f.unusable? c.checks (o.get? f.name) with
  | some p => rfl
  | none =>
    have husable := List.findSome?_eq_none_iff.mp hpattern
    simp only [Model.all_accepts_verdicts c m o husable, Model.errors_verdicts c m o husable]
    cases hpasses : m.fields.all fun f => f.passes c.checks (o.get? f.name) with
    | true =>
      rw [Model.gathered_verdicts c m o hnames (List.all_eq_true.mp hpasses)]
      rfl
    | false => rfl

/-- Two documents of a model with a name that has a pattern, a nickname that a check looks at, and
a note that may be anything. -/
theorem Compiler.validate_compile_user :
    let c : Compiler := { checks := Checks.register {} ⟨"short", fun v => v.string? == some "Al"⟩ }
    let m : Model := { Model.ofName "User" default with fields := [
      (Field.ofType "name"
        { dataType := .text, rules := [⟨.pattern, some (.text "^[A-Z]"), none⟩] }).require,
      Field.ofType "nick" { dataType := .text, rules := [⟨.custom, some (.text "short"), none⟩] },
      Field.ofType "note" { dataType := .json }] }
    m.fieldNames.Nodup ∧
      (c.compile m).validate (.object [("name", .string "al"), ("nick", .string "Alfred")]) =
        .error (.rejected [⟨[.key "name"], "Must match the pattern ^[A-Z]"⟩,
          ⟨[.key "nick"], "Failed check 'short'"⟩]) ∧
      (c.compile m).validate (.object [("name", .string "Al"), ("nick", .null)]) =
        .ok [("name", .string "Al")] := by
  intro c m
  have hnames : m.fieldNames.Nodup := by decide
  exact ⟨hnames, (validate_compile c m hnames _).trans rfl,
    (validate_compile c m hnames _).trans rfl⟩

end ModelForm
