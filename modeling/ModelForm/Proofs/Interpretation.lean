import ModelForm.Compile
import ModelForm.Decode.Decode

/-!
What a model says about a document, read off its metadata and without any schema. The
type of a field has a domain; a rule applies to some domains, and only with a value that
makes sense; a field is passed by the values of its domain that satisfy every rule that
applies, and where it is not required by null and by nothing. A document has to pass every field.
-/

namespace ModelForm

inductive Domain where
  | text
  | number
  | boolean
  | choice (values : List String)
  | any
  deriving DecidableEq, Repr, Inhabited

/-- The domain of a type. An enumeration without values holds texts, as do dates, relations and
types of unknown names. -/
def FieldType.domain (t : FieldType) : Domain :=
  match t.dataType with
  | .string | .text | .email | .url | .date | .datetime | .time | .relation | .unknown => .text
  | .number => .number
  | .boolean => .boolean
  | .json => .any
  | .enumeration =>
    match t.enumValues with
    | some values => .choice values
    | none => .text

namespace Domain

def contains : Domain → Json → Bool
  | .text, .string _ => true
  | .number, .number _ => true
  | .boolean, .bool _ => true
  | .choice values, .string s => values.contains s
  | .any, _ => true
  | _, _ => false

def outside? (messages : Messages) (d : Domain) (v : Json) : Option String :=
  if d.contains v then none
  else
    match d with
    | .text => some (messages.string.getD "Expected a string")
    | .number => some (messages.number.getD "Expected a number")
    | .boolean => some (messages.boolean.getD "Expected a boolean")
    | .choice values =>
      some (messages.enumeration.getD ("Expected one of: " ++ ", ".intercalate values))
    | .any => none

end Domain

namespace Binary64

/-- Exactly whether a finite value is at most a natural number. -/
def atMost (x : Binary64) (n : Nat) : Bool :=
  match x with
  | .finite s u => decide (signedUnits s u ≤ n * unitsPerOne)
  | _ => false

def atLeast (x : Binary64) (n : Nat) : Bool :=
  match x with
  | .finite s u => decide ((n * unitsPerOne : Int) ≤ signedUnits s u)
  | _ => false

end Binary64

namespace Rule

/-- Whether a rule applies to the values of a domain. Bounds are finite, greatest lengths not
negative, and a check is one that is known. -/
def applies (checks : Checks) (d : Domain) (r : Rule) : Bool :=
  match r.kind, r.value, d with
  | .minLength, some (.number x), .text => x.isFinite
  | .maxLength, some (.number x), .text => x.isFinite && x.atLeast 0
  | .pattern, some (.text _), .text => true
  | .email, _, .text => true
  | .url, _, .text => true
  | .min, some (.number x), .number => x.isFinite
  | .max, some (.number x), .number => x.isFinite
  | .custom, _, .any => false
  | .custom, some (.text name), _ => (checks.find? name).isSome
  | _, _, _ => false

/-- Whether a value satisfies a rule that applies to it, unless the rule has a pattern that cannot
be used. Lengths count up to the greatest number of 64 bits. -/
def holds (checks : Checks) (v : Json) (r : Rule) : Except InvalidPattern Bool :=
  match r.kind, r.value, v with
  | .minLength, some (.number x), .string s =>
    .ok (x.atMost (Text.length16 s) || decide (lastLength ≤ Text.length16 s))
  | .maxLength, some (.number x), .string s =>
    .ok (x.atLeast (Text.length16 s) && decide (Text.length16 s ≤ lastLength))
  | .pattern, some (.text source), .string s =>
    match (Pattern.ofText source).occurs? s with
    | some found => .ok found
    | none => .error ⟨source⟩
  | .email, _, .string s => .ok (Text.isEmail s)
  | .url, _, .string s => .ok (Text.isUrl s)
  | .min, some (.number x), .number n => .ok (!n.toDouble.lt x)
  | .max, some (.number x), .number n => .ok (!x.lt n.toDouble)
  | .custom, some (.text name), v => .ok ((checks.find? name).all fun check => check.passes v)
  | _, _, _ => .ok true

def standardReport (r : Rule) : String :=
  match r.kind, r.value with
  | .minLength, some (.number x) =>
    "Must be at least " ++ toString (min (x.ceilNat?.getD 0) lastLength) ++ " characters"
  | .maxLength, some (.number x) =>
    "Must be at most " ++ toString (min (x.floorNat?.getD 0) lastLength) ++ " characters"
  | .pattern, some (.text source) => "Must match the pattern " ++ source
  | .email, _ => "Invalid email address"
  | .url, _ => "Invalid URL"
  | .min, some (.number x) => "Must be greater than or equal to " ++ x.inSentence
  | .max, some (.number x) => "Must be less than or equal to " ++ x.inSentence
  | .custom, some (.text name) => "Failed check '" ++ name ++ "'"
  | _, _ => ""

def report (r : Rule) : String := r.message.getD r.standardReport

def unusable? (checks : Checks) (v : Json) (r : Rule) : Option InvalidPattern :=
  match r.holds checks v with
  | .error p => some p
  | .ok _ => none

def isBroken (checks : Checks) (d : Domain) (v : Json) (r : Rule) : Bool :=
  r.applies checks d &&
    match r.holds checks v with
    | .ok ok => !ok
    | .error _ => true

end Rule

namespace Field

/-- Whether a field makes do without a value: one that is not required with nothing and null, and
one that may hold anything with nothing. -/
def excused (f : Field) : Option Json → Bool
  | none => !f.editRule.required || f.type.dataType == .json
  | some .null => !f.editRule.required
  | some _ => false

def broken? (checks : Checks) (f : Field) (v : Json) : Option Rule :=
  f.allRules.find? (Rule.isBroken checks f.type.domain v)

def passes (checks : Checks) (f : Field) (v : Option Json) : Bool :=
  f.excused v || v.any fun v =>
    f.type.domain.contains v && f.allRules.all fun r => !r.isBroken checks f.type.domain v

/-- The three ways to pass a field: having no value, being null, and satisfying the metadata. -/
theorem passes_eq_true_iff (checks : Checks) (f : Field) (v : Option Json) :
    f.passes checks v = true ↔
      (v = none ∧ (f.editRule.required = false ∨ f.type.dataType = .json)) ∨
      (v = some .null ∧ f.editRule.required = false) ∨
      ∃ w, v = some w ∧ f.type.domain.contains w = true ∧
        ∀ r ∈ f.allRules, r.applies checks f.type.domain = true →
          r.holds checks w = .ok true := by
  have hrules : ∀ w, (f.allRules.all fun r => !r.isBroken checks f.type.domain w) = true ↔
      ∀ r ∈ f.allRules, r.applies checks f.type.domain = true → r.holds checks w = .ok true := by
    intro w
    rw [List.all_eq_true]
    refine forall₂_congr fun r _ => ?_
    unfold Rule.isBroken
    cases r.applies checks f.type.domain with
    | false => simp
    | true => cases r.holds checks w <;> simp
  cases v with
  | none => simp [passes, excused]
  | some w => cases w <;> simp [passes, excused, hrules]

def kept (f : Field) (v : Option Json) : Option Json := if f.excused v then none else v

def unusable? (checks : Checks) (f : Field) (v : Option Json) : Option InvalidPattern :=
  if f.excused v then none
  else v.bind fun v =>
    if f.type.domain.contains v then (f.broken? checks v).bind (Rule.unusable? checks v) else none

def complaint? (c : Compiler) (f : Field) (v : Option Json) : Option String :=
  if f.excused v then none
  else
    match v with
    | none => some requiredMessage
    | some v =>
      (f.type.domain.outside? c.messages v).or ((f.broken? c.checks v).map Rule.report)

end Field

/-- What a model makes of an object: the first pattern that cannot be used, or what the fields hold
if all of them are passed, or one report for every field that is not. -/
def Model.interpret (c : Compiler) (m : Model) (o : Object) : Except Failure Object :=
  match m.fields.findSome? fun f => f.unusable? c.checks (o.get? f.name) with
  | some p => .error (.invalidPattern p.source)
  | none =>
    if m.fields.all fun f => f.passes c.checks (o.get? f.name) then
      .ok (Object.ofList (m.fields.filterMap fun f =>
        (f.kept (o.get? f.name)).map (Prod.mk f.name)))
    else
      .error (.rejected (m.fields.filterMap fun f =>
        (f.complaint? c (o.get? f.name)).map fun report => ⟨[.key f.name], report⟩))

end ModelForm
