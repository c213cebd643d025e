import ModelForm.Proofs.FormCoherence

/-!
Resetting a form erases its history. What a form starts from, that is its members, its
initial data and its generic message, is never changed by anything done to it, and a reset
brings all the rest back to what it was at the start. So a run after a reset cannot be told
from the same run on a new form: every action answers the same, every query gives the same
and every state is the same.
-/

namespace ModelForm

inductive Query where
  | fields
  | data
  | value (name : String)
  | errors
  | status
  | isValid
  | isDirty
  | errorsFor (name : String)
  | fieldError (name : String)
  | errorMap
  deriving DecidableEq, Repr

inductive Operation where
  | act (action : Action)
  | ask (query : Query)

inductive Reply where
  | answer (a : Answer)
  | names (ns : List String)
  | data (o : Object)
  | value (v : Option Json)
  | errors (es : List FieldError)
  | status (status : Status)
  | flag (b : Bool)
  | message (m : Option String)
  | messages (map : List (String × List String))
  deriving Repr

namespace Session

def ask (s : Session) : Query → Reply
  | .fields => .names s.members.names
  | .data => .data s.data
  | .value name => .value (s.get? name)
  | .errors => .errors s.errors
  | .status => .status s.status
  | .isValid => .flag s.isValid
  | .isDirty => .flag s.isDirty
  | .errorsFor name => .errors (s.errorsFor name)
  | .fieldError name => .message (s.fieldError name)
  | .errorMap => .messages s.errorMap

def perform (s : Session) : Operation → Reply × Session
  | .act a => (.answer (s.act a).1, (s.act a).2)
  | .ask q => (s.ask q, s)

def trace (s : Session) : List Operation → List (Reply × Session)
  | [] => []
  | op :: rest => s.perform op :: (s.perform op).2.trace rest

def performAll (s : Session) (ops : List Operation) : Session :=
  ops.foldl (fun s op => (s.perform op).2) s

/-- A new form that starts from what this one started from. -/
def fresh (s : Session) : Session := { start s.members s.initial with generic := s.generic }

theorem trace_append (s : Session) (front back : List Operation) :
    s.trace (front ++ back) = s.trace front ++ (s.performAll front).trace back := by
  induction front generalizing s with
  | nil => rfl
  | cons op rest ih =>
    rw [List.cons_append, trace, ih, trace, List.cons_append]
    rfl

/-- Nothing that is done to a form or asked about it changes what it starts from. -/
theorem fresh_perform (s : Session) (op : Operation) : (s.perform op).2.fresh = s.fresh := by
  cases op with
  | act a => simp [fresh, perform]
  | ask q => rfl

theorem fresh_performAll (s : Session) (ops : List Operation) :
    (s.performAll ops).fresh = s.fresh := by
  induction ops generalizing s with
  | nil => rfl
  | cons op rest ih => exact (ih (s.perform op).2).trans (fresh_perform s op)

/-- A reset form is a new one. -/
theorem reset_eq_fresh (s : Session) : s.reset = s.fresh := rfl

/-- A run that resets the form goes on as the same run on a new form: with the same replies and the
same states, whatever was done before. So a form whose initial data is valid is valid again after a
reset. -/
theorem trace_after_reset (ms : Members) (initial : Object) (generic : String)
    (before after : List Operation) :
    let new : Session := { start ms initial with generic }
    new.trace (before ++ .act .reset :: after) =
        new.trace before ++ (.answer .nothing, new) :: new.trace after ∧
      ((∃ out, ms.validate (.object initial) = .ok out) →
        ((new.performAll before).reset.validate).1 = true ∧
          ((new.performAll before).reset.validate).2.errors = []) := by
  intro new
  have hreset : (new.performAll before).reset = new := by
    rw [reset_eq_fresh, fresh_performAll]
    rfl
  refine ⟨?_, ?_⟩
  · have hstep : (new.performAll before).perform (.act .reset) = (.answer .nothing, new) :=
      congrArg (Prod.mk (Reply.answer .nothing)) hreset
    rw [trace_append, trace, hstep]
  · rintro ⟨out, hout⟩
    rw [hreset, validate_of_ok new out hout]
    exact ⟨rfl, rfl⟩

/-- A form with valid data whose age was taken away: it was invalid before the reset, then a name is
written and rejected as in a new form, and after a reset alone the form is valid. -/
theorem trace_after_reset_signup :
    let initial : Object := [("age", .number (.integer 5)), ("name", .string "Ann")]
    let new := start Members.signup initial
    let before : List Operation := [.act (.removeField "age"), .act .validate, .ask .errorMap]
    let after : List Operation := [.act (.setField "name" (.string "ann")),
      .act (.validateField "name"), .ask (.fieldError "name")]
    Members.signup.validate (.object initial) = .ok initial ∧
      (new.performAll before).status = .invalid ∧
      (new.trace (before ++ .act .reset :: after)).map Prod.fst =
        [.answer (.removed (some (.number (.integer 5)))), .answer (.verdict false),
          .messages [("age", [requiredMessage])], .answer .nothing, .answer .nothing,
          .answer (.verdict false), .message (some "Must match the pattern ^[A-Z]")] ∧
      ((new.performAll before).reset.validate).1 = true := by
  intro initial new before after
  have hinitial : Members.signup.validate (.object initial) = .ok initial := rfl
  obtain ⟨htrace, hvalid⟩ :=
    trace_after_reset Members.signup initial genericMessage before after
  have hagain := hvalid ⟨initial, hinitial⟩
  have hbefore : (new.trace before).map Prod.fst =
      [.answer (.removed (some (.number (.integer 5)))), .answer (.verdict false),
        .messages [("age", [requiredMessage])]] := rfl
  have hafter : (new.trace after).map Prod.fst = [.answer .nothing, .answer (.verdict false),
      .message (some "Must match the pattern ^[A-Z]")] := rfl
  refine ⟨hinitial, rfl, (congrArg (List.map Prod.fst) htrace).trans ?_, hagain.1⟩
  rw [List.map_append, List.map_cons]
  exact congrArg₂ List.append hbefore (congrArg (List.cons (Reply.answer .nothing)) hafter)

end Session

end ModelForm
