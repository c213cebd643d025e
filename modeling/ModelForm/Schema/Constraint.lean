import ModelForm.Json.Value
import ModelForm.Text.Address

/-!
Constraints on single values. Each one concerns texts or numbers only and passes
whatever else it meets; a check of one's own sees every value. A constraint carries
the message it reports, or has one of its own.
-/

namespace ModelForm

structure Check where
  name : String
  passes : Json → Bool

instance : Inhabited Check := ⟨⟨"", fun _ => true⟩⟩

inductive Requirement where
  | minLength (least : Nat)
  | maxLength (most : Nat)
  | range (low high : Binary64)
  | min (low : Binary64)
  | max (high : Binary64)
  | pattern (p : Pattern)
  | email
  | url
  | custom (check : Check)
  deriving Inhabited

structure InvalidPattern where
  source : String
  deriving DecidableEq, Repr, Inhabited

namespace Requirement

def onText (v : Json) (p : String → Bool) : Bool :=
  match v with
  | .string s => p s
  | _ => true

def onNumber (v : Json) (p : Binary64 → Bool) : Bool :=
  match v with
  | .number n => p n.toDouble
  | _ => true

/-- Whether a text satisfies a pattern; other values do without looking at it. -/
def matchesPattern (p : Pattern) : Json → Except InvalidPattern Bool
  | .string s =>
    match p.occurs? s with
    | some found => .ok found
    | none => .error ⟨p.source⟩
  | _ => .ok true

/-- Whether a value satisfies the requirement. What is not a number is never out of bounds. -/
def holds (v : Json) : Requirement → Except InvalidPattern Bool
  | .minLength least => .ok (onText v fun s => decide (least ≤ Text.length16 s))
  | .maxLength most => .ok (onText v fun s => decide (Text.length16 s ≤ most))
  | .range low high => .ok (onNumber v fun x => !(x.lt low || high.lt x))
  | .min low => .ok (onNumber v fun x => !x.lt low)
  | .max high => .ok (onNumber v fun x => !high.lt x)
  | .pattern p => matchesPattern p v
  | .email => .ok (onText v Text.isEmail)
  | .url => .ok (onText v Text.isUrl)
  | .custom check => .ok (check.passes v)

def message : Requirement → String
  | .minLength least => "Must be at least " ++ toString least ++ " characters"
  | .maxLength most => "Must be at most " ++ toString most ++ " characters"
  | .range low high => "Must be between " ++ low.inSentence ++ " and " ++ high.inSentence
  | .min low => "Must be greater than or equal to " ++ low.inSentence
  | .max high => "Must be less than or equal to " ++ high.inSentence
  | .pattern p => "Must match the pattern " ++ p.source
  | .email => "Invalid email address"
  | .url => "Invalid URL"
  | .custom check => "Failed check '" ++ check.name ++ "'"

end Requirement

structure Constraint where
  requirement : Requirement
  message : Option String := none
  deriving Inhabited

namespace Constraint

def report (c : Constraint) : String := c.message.getD c.requirement.message

def violation (c : Constraint) (v : Json) : Except InvalidPattern (Option String) :=
  (c.requirement.holds v).map fun ok => if ok then none else some c.report

end Constraint

end ModelForm
