import ModelForm.Proofs.FormErrors

/-!
One outcome at every entry point. Decoding by a schema, validating a record, parsing with
an adapter, beside the caller or not, and validating a form all end in the same decoded
object or in the same errors. What an adapter answers depends on what was wrapped alone:
however the adapter was come by, its schema is the one wrapped, and its generic message is
used only where a pattern ended the decoding.
-/

namespace ModelForm

/-- An outcome has data or errors, never both and never neither: data if the decoding that it is of
succeeded, and at least one error if it did not. -/
structure Outcome.Reports (o : Outcome) (decoded : Except Failure Json) : Prop where
  data_or_errors : (o.data ≠ none ∧ o.errors = none) ∨ (o.data = none ∧ o.errors ≠ none)
  success_iff : o.success = true ↔ ∃ w, decoded = .ok w
  data_of_success : o.success = true → o.data ≠ none
  errors_of_failure : o.success = false → ∃ es, o.errors = some es ∧ es ≠ []

namespace Outcome

theorem reports_ofDecode (generic : String) (decoded : Except Failure Json)
    (h : ∀ failure, decoded = .error failure → failure.Decoding) :
    (ofDecode generic decoded).Reports decoded := by
  cases decoded with
  | ok w => constructor <;> simp [ofDecode, succeeded]
  | error failure =>
    have hne := (h failure rfl).errors_ne_nil failure generic
    refine ⟨?_, ?_, ?_, fun _ => ⟨failure.errors generic, rfl, hne⟩⟩ <;> simp [ofDecode, failed]

/-- The generic message shows only where a pattern ended the decoding. -/
theorem ofDecode_generic (generic other : String) (decoded : Except Failure Json)
    (h : ∀ failure, decoded = .error failure → failure.Decoding) :
    ofDecode generic decoded = ofDecode other decoded ∨
      ∃ p, decoded = .error (.invalidPattern p) := by
  cases decoded with
  | ok w => exact Or.inl rfl
  | error failure =>
    cases h failure rfl with
    | rejected es _ => exact Or.inl rfl
    | invalidPattern source => exact Or.inr ⟨source, rfl⟩

end Outcome

/-- What every entry point comes to, with a document, a record and a generic message: the decoded
object, or the errors to report. -/
structure Members.ComesTo (ms : Members) (o : Object) (generic : String)
    (result : Except (List FieldError) Object) : Prop where
  decode : ((Schema.record ms).decode (.object o)).mapError (·.errors generic) =
    result.map Json.object
  validate : (ms.validate (.object o)).mapError (·.errors generic) = result
  parse : ({ schema := .record ms, generic } : Adapter).parse (.object o) =
    match result with
    | .ok out => Outcome.succeeded (.object out)
    | .error es => Outcome.failed es
  parseLater : (({ schema := .record ms, generic } : Adapter).parseLater (.object o)).get =
    match result with
    | .ok out => Outcome.succeeded (.object out)
    | .error es => Outcome.failed es
  form : { Session.start ms o with generic }.validate =
    match result with
    | .ok out => (true, { Session.start ms o with generic, data := out, status := .valid })
    | .error es => (false, { Session.start ms o with generic, errors := es, status := .invalid })

namespace Members

theorem comesTo_of_ok (ms : Members) (o out : Object) (generic : String)
    (h : ms.validate (.object o) = .ok out) : ms.ComesTo o generic (.ok out) := by
  have hdecode : (Schema.record ms).decode (.object o) = .ok (.object out) := by
    rw [decode_object, h]
    rfl
  refine ⟨by rw [hdecode]; rfl, by rw [h]; rfl, ?_, ?_, ?_⟩
  · simp [Adapter.parse, hdecode, Outcome.ofDecode]
  · simp [Adapter.parseLater, Task.spawn, Adapter.parse, hdecode, Outcome.ofDecode]
  · exact Session.validate_of_ok { Session.start ms o with generic } out h

theorem comesTo_of_error (ms : Members) (o : Object) (generic : String) (failure : Failure)
    (h : ms.validate (.object o) = .error failure) :
    ms.ComesTo o generic (.error (failure.errors generic)) := by
  have hdecode := decode_of_validate_error ms o failure h
  refine ⟨by rw [hdecode]; rfl, by rw [h]; rfl, ?_, ?_, ?_⟩
  · simp [Adapter.parse, hdecode, Outcome.ofDecode]
  · simp [Adapter.parseLater, Task.spawn, Adapter.parse, hdecode, Outcome.ofDecode]
  · exact Session.validate_of_error { Session.start ms o with generic } failure h

end Members

namespace Adapter

/-- The ways to come by an adapter: the schema that it is for, and its generic message. -/
inductive Wraps : Schema → String → Adapter → Prop
  | schema (s : Schema) : Wraps s genericMessage (Parseable.adapter s)
  | record (ms : Members) : Wraps (.record ms) genericMessage ms.adapter
  | compiled (c : Compiler) (ms : Members) : Wraps (.record ms) c.messages.generic (c.adapter ms)
  | worded {s : Schema} {generic : String} {a : Adapter} (h : Wraps s generic a) (other : String) :
      Wraps s other { a with generic := other }
  | again {s : Schema} {generic : String} {a : Adapter} (h : Wraps s generic a) :
      Wraps s generic (Parseable.adapter a)

/-- Nothing of the way remains in the adapter. -/
theorem Wraps.eq {s : Schema} {generic : String} {a : Adapter} (h : Wraps s generic a) :
    a = { schema := s, generic } := by
  induction h with
  | schema s => rfl
  | record ms => rfl
  | compiled c ms => rfl
  | worded _ other ih => rw [ih]
  | again _ ih => exact ih

/-- All entry points to a record come to one result, whose errors are those collected, in their
order, or the generic one if a pattern ended the decoding. Whatever the schema and the value, an
adapter answers with data or with errors, both times that it is asked, and how its schema was
wrapped shows in the generic message alone. -/
theorem entry_points_agree :
    (∀ (ms : Members) (o : Object) (generic : String),
      ∃ result : Except (List FieldError) Object, ms.ComesTo o generic result ∧
        ∀ es, result = .error es → es ≠ [] ∧
          ((Schema.record ms).decode (.object o) = .error (.rejected es) ∨
            ∃ p, (Schema.record ms).decode (.object o) = .error (.invalidPattern p) ∧
              es = [FieldError.whole generic])) ∧
    (∀ (a : Adapter) (v : Json),
      (a.parseLater v).get = a.parse v ∧ (a.parse v).Reports (a.schema.decode v)) ∧
    (∀ (s : Schema) (generic other : String) (a b : Adapter),
      Wraps s generic a → Wraps s other b →
        a = { b with generic } ∧
        ∀ v, a.parse v = b.parse v ∨
          ∃ p, s.decode v = .error (.invalidPattern p) ∧
            a.parse v = Outcome.failed [FieldError.whole generic] ∧
            b.parse v = Outcome.failed [FieldError.whole other]) := by
  refine ⟨?_, ?_, ?_⟩
  · intro ms o generic
    cases h : ms.validate (.object o) with
    | ok out => exact ⟨.ok out, Members.comesTo_of_ok ms o out generic h, by simp⟩
    | error failure =>
      refine ⟨_, Members.comesTo_of_error ms o generic failure h, ?_⟩
      intro es hes
      obtain rfl := Except.error.inj hes
      have hdecode := Members.decode_of_validate_error ms o failure h
      have hdecoding := Schema.decoding_of_decode _ _ _ hdecode
      refine ⟨hdecoding.errors_ne_nil failure generic, ?_⟩
      cases hdecoding with
      | rejected es _ => exact Or.inl hdecode
      | invalidPattern source => exact Or.inr ⟨source, hdecode, rfl⟩
  · intro a v
    refine ⟨rfl, ?_⟩
    exact Outcome.reports_ofDecode a.generic _ (Schema.decoding_of_decode a.schema v)
  · intro s generic other a b ha hb
    obtain rfl := ha.eq
    obtain rfl := hb.eq
    refine ⟨rfl, ?_⟩
    intro v
    rcases Outcome.ofDecode_generic generic other _ (Schema.decoding_of_decode s v) with h | ⟨p, hp⟩
    · exact Or.inl h
    · exact Or.inr ⟨p, hp, by simp [parse, hp, Outcome.ofDecode, Failure.errors],
        by simp [parse, hp, Outcome.ofDecode, Failure.errors]⟩

/-- A record with a pattern that cannot be used: its adapter, the same with another generic message,
and that one wrapped again. A code is rejected by all three, each with its own generic message, and
a note without a code by all three alike. -/
theorem entry_points_agree_code :
    let ms : Members := [("code", ((Schema.string none).require (.pattern (Pattern.ofText "["))
      none).orAbsent), ("note", .string none)]
    let a : Adapter := ms.adapter
    let b : Adapter := Parseable.adapter { ms.adapter with generic := "Unavailable" }
    let coded : Json := .object [("code", .string "x")]
    let empty : Object := []
    a.parse coded = Outcome.failed [FieldError.whole genericMessage] ∧
      b.parse coded = Outcome.failed [FieldError.whole "Unavailable"] ∧
      a.parse (.object empty) = b.parse (.object empty) ∧
      ms.ComesTo empty "Unavailable" (.error [⟨[.key "note"], requiredMessage⟩]) := by
  intro ms a b coded empty
  have ha : Wraps (.record ms) genericMessage a := .record ms
  have hb : Wraps (.record ms) "Unavailable" b := .again (.worded ha "Unavailable")
  obtain ⟨hresult, -, hwraps⟩ := entry_points_agree
  obtain ⟨-, hparse⟩ := hwraps (.record ms) genericMessage "Unavailable" a b ha hb
  have hempty : (Schema.record ms).decode (.object empty) =
      .error (.rejected [⟨[.key "note"], requiredMessage⟩]) := rfl
  refine ⟨?_, ?_, ?_, ?_⟩
  · rcases hparse coded with h | ⟨_, _, h, _⟩
    · exact absurd (congrArg Outcome.errors h) (by decide)
    · exact h
  · rcases hparse coded with h | ⟨_, _, _, h⟩
    · exact absurd (congrArg Outcome.errors h) (by decide)
    · exact h
  · rcases hparse (.object empty) with h | ⟨p, hp, _, _⟩
    · exact h
    · simp [hempty] at hp
  · obtain ⟨result, hcomes, _⟩ := hresult ms empty "Unavailable"
    have hvalidate := hcomes.validate
    have heq : result = .error [⟨[.key "note"], requiredMessage⟩] := by
      rw [← hvalidate]
      rfl
    rw [← heq]
    exact hcomes

end Adapter

end ModelForm
