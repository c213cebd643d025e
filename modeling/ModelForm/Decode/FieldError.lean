import ModelForm.Json.Shape
import ModelForm.Schema.Suggest

/-!
Errors with the path to the place they concern, and the other ways in which decoding
can fail.
-/

namespace ModelForm

inductive Segment where
  | key (name : String)
  | index (position : Nat)
  deriving DecidableEq, Repr, Inhabited

namespace Segment

def key? : Segment → Option String
  | .key name => some name
  | .index _ => none

def text : Segment → String
  | .key name => name
  | .index i => toString i

def json : Segment → Json
  | .key name => .string name
  | .index i => .number (.integer i)

/-- A text is a key, and a whole number that is not negative an index. -/
def ofJson? : Json → Option Segment
  | .string name => some (.key name)
  | .number (.integer i) => if 0 ≤ i then some (.index i.toNat) else none
  | _ => none

def shape : Shape Segment := Shape.oneOf "PathSegment" [ofJson?]

theorem ofJson?_json (s : Segment) : ofJson? s.json = some s := by
  cases s with
  | key name => rfl
  | index i => simp [json, ofJson?]

end Segment

structure FieldError where
  path : List Segment
  message : String
  deriving DecidableEq, Repr, Inhabited

namespace FieldError

def whole (message : String) : FieldError := ⟨[], message⟩

def after (step : Segment) (e : FieldError) : FieldError := { e with path := step :: e.path }

def under (name : String) (e : FieldError) : FieldError := e.after (.key name)

def field? (e : FieldError) : Option String := e.path.head?.bind Segment.key?

def isFor (e : FieldError) (name : String) : Bool := e.field? == some name

def pathText (e : FieldError) : String := ".".intercalate (e.path.map Segment.text)

def text (e : FieldError) : String :=
  if e.path.isEmpty then e.message else e.pathText ++ ": " ++ e.message

def json (e : FieldError) : Json :=
  .object [("path", .array (e.path.map Segment.json)), ("message", .string e.message)]

def shape : Shape FieldError := RecordShape.read {
  name := "DecodeError"
  blank := default
  fields := [
    .required "path" (.list Segment.shape) fun x r => { r with path := x },
    .required "message" .string fun x r => { r with message := x }] }

end FieldError

inductive Failure where
  | rejected (errors : List FieldError)
  | invalidPattern (source : String)
  | unknownField (name : String) (suggestion : Option String)
  | unreadable (error : ReadError)
  deriving DecidableEq, Repr, Inhabited

namespace Failure

def unknownFieldText (name : String) (suggestion : Option String) : String :=
  "Unknown field '" ++ name ++ "'" ++
    match suggestion with
    | some s => " (did you mean '" ++ s ++ "'?)"
    | none => ""

/-- The failure as a sentence, without details of what made a pattern or a text unusable. -/
def message : Failure → String
  | .rejected errors => "Validation failed with " ++ toString errors.length ++ " error(s)"
  | .invalidPattern source => "Invalid pattern '" ++ source ++ "'"
  | .unknownField name suggestion => unknownFieldText name suggestion
  | .unreadable (.data e) => "JSON error: " ++ e.message
  | .unreadable (.fault _) => "JSON error"

/-- The errors to report: those collected, or the generic message for any other failure. -/
def errors (generic : String) : Failure → List FieldError
  | .rejected errors => errors
  | _ => [FieldError.whole generic]

def fieldErrors (name generic : String) : Failure → List FieldError
  | .unknownField n suggestion => [⟨[.key name], unknownFieldText n suggestion⟩]
  | other =>
    ((other.errors generic).map fun e => if e.path.isEmpty then e.under name else e).filter
      (·.isFor name)

end Failure

end ModelForm
