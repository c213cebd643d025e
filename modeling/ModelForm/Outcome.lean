import ModelForm.Compile
import ModelForm.Decode.Decode

/-!
Outcomes as consumers see them: success with data, or failure with errors. Whatever can
be parsed with is an adapter or gives one, and an adapter never fails to answer.
-/

namespace ModelForm

structure Outcome where
  success : Bool
  data : Option Json := none
  errors : Option (List FieldError) := none
  deriving Repr, Inhabited

namespace Outcome

def succeeded (data : Json) : Outcome := { success := true, data := some data }

def failed (errors : List FieldError) : Outcome := { success := false, errors := some errors }

def ofDecode (generic : String) : Except Failure Json → Outcome
  | .ok data => succeeded data
  | .error failure => failed (failure.errors generic)

/-- The data of a success, or the errors of a failure; missing data is null. -/
def toExcept (o : Outcome) : Except (List FieldError) Json :=
  if o.success then .ok (o.data.getD .null) else .error (o.errors.getD [])

def json (o : Outcome) : Json :=
  .object ([("success", Json.bool o.success)] ++
    (o.data.map fun v => ("data", v)).toList ++
    (o.errors.map fun es => ("errors", Json.array (es.map FieldError.json))).toList)

def shape : Shape Outcome := RecordShape.read {
  name := "ParseResult"
  blank := { success := false }
  fields := [
    .required "success" .bool fun x r => { r with success := x },
    .defaulted "data" (.option .json) fun x r => { r with data := x },
    .defaulted "errors" (.option (.list FieldError.shape)) fun x r => { r with errors := x }] }

end Outcome

structure Adapter where
  schema : Schema
  generic : String := genericMessage
  deriving Inhabited

namespace Adapter

def parse (a : Adapter) (v : Json) : Outcome := Outcome.ofDecode a.generic (a.schema.decode v)

/-- The same outcome, computed beside the caller. -/
def parseLater (a : Adapter) (v : Json) : Task Outcome := Task.spawn fun _ => a.parse v

end Adapter

class Parseable (α : Type) where
  adapter : α → Adapter

instance : Parseable Schema := ⟨fun s => { schema := s }⟩

instance : Parseable Adapter := ⟨id⟩

namespace Members

def adapter (ms : Members) : Adapter := Parseable.adapter (Schema.record ms)

end Members

namespace Compiler

def adapter (c : Compiler) (ms : Members) : Adapter :=
  { schema := .record ms, generic := c.messages.generic }

end Compiler

end ModelForm
