import ModelForm.Json.Shape

/-!
The messages of base schemas: each replaces the one that the kind of the schema has of
its own, and one more stands for failures that are not about the input.
-/

namespace ModelForm

def genericMessage : String := "Validation failed"

structure Messages where
  string : Option String := none
  number : Option String := none
  boolean : Option String := none
  enumeration : Option String := none
  generic : String := genericMessage
  deriving DecidableEq, Repr, Inhabited

namespace Messages

def shape : Shape Messages := RecordShape.read {
  name := "MessageConfig"
  blank := {}
  fields := [
    .defaulted "string" (.option .string) fun x r => { r with string := x },
    .defaulted "number" (.option .string) fun x r => { r with number := x },
    .defaulted "boolean" (.option .string) fun x r => { r with boolean := x },
    .defaulted "enumeration" (.option .string) fun x r => { r with enumeration := x },
    .defaulted "generic" .string fun x r => { r with generic := x }] }

end Messages

end ModelForm
