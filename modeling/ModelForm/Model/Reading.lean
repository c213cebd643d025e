import ModelForm.Json.Shape
import ModelForm.Model.Metadata

/-!
Reading metadata from documents. Keys are in camel case; unknown keys are ignored.
-/

namespace ModelForm

def DataType.shape : Shape DataType :=
  Shape.name (DataType.all.map DataType.name) fun n => some (DataType.ofName n)

def RuleKind.shape : Shape RuleKind :=
  Shape.name (RuleKind.all.map RuleKind.name) RuleKind.ofName?

def Cardinality.shape : Shape Cardinality :=
  Shape.name (Cardinality.all.map Cardinality.name) Cardinality.ofName?

def RuleValue.ofJson? : Json → Option RuleValue
  | .number n => some (.number n.toDouble)
  | .string s => some (.text s)
  | _ => none

def RuleValue.shape : Shape RuleValue := Shape.oneOf "RuleValue" [RuleValue.ofJson?]

def Rule.shape : Shape Rule := RecordShape.read {
  name := "ValidationRule"
  blank := default
  fields := [
    .required "type" RuleKind.shape fun x r => { r with kind := x },
    .defaulted "value" (.option RuleValue.shape) fun x r => { r with value := x },
    .defaulted "message" (.option .string) fun x r => { r with message := x }] }

def FieldType.shape : Shape FieldType := RecordShape.read {
  name := "FieldTypeConfig"
  blank := { dataType := .unknown }
  fields := [
    .required "type" DataType.shape fun x r => { r with dataType := x },
    .defaulted "validation" (.list Rule.shape) fun x r => { r with rules := x },
    .defaulted "defaultValue" (.option .json) fun x r => { r with defaultValue := x },
    .defaulted "enumValues" (.option (.list .string)) fun x r => { r with enumValues := x }] }

def Display.shape : Shape Display := RecordShape.read {
  name := "DisplayConfig"
  blank := { label := "" }
  fields := [
    .required "label" .string fun x r => { r with label := x },
    .defaulted "placeholder" (.option .string) fun x r => { r with placeholder := x },
    .defaulted "helpText" (.option .string) fun x r => { r with helpText := x },
    .defaulted "visible" .bool fun x r => { r with visible := x },
    .defaulted "order" (.option (.integer "i32" (-2147483648) 2147483647))
      fun x r => { r with order := x },
    .defaulted "width" (.option .string) fun x r => { r with width := x },
    .defaulted "format" (.option .string) fun x r => { r with format := x }] }

def ConditionalRule.shape : Shape ConditionalRule := RecordShape.read {
  name := "ConditionalRule"
  blank := default
  fields := [
    .required "field" .string fun x r => { r with field := x },
    .required "value" .json fun x r => { r with value := x },
    .required "then" .json fun x r => { r with outcome := x }] }

def EditRule.shape : Shape EditRule := RecordShape.read {
  name := "EditRuleConfig"
  blank := {}
  fields := [
    .defaulted "editable" .bool fun x r => { r with editable := x },
    .defaulted "readonly" .bool fun x r => { r with readonly := x },
    .defaulted "required" .bool fun x r => { r with required := x },
    .defaulted "hidden" .bool fun x r => { r with hidden := x },
    .defaulted "dependsOn" (.list .string) fun x r => { r with dependsOn := x },
    .defaulted "conditionalRules" (.list ConditionalRule.shape)
      fun x r => { r with conditionalRules := x }] }

def FieldPermission.shape : Shape FieldPermission := RecordShape.read {
  name := "FieldPermissionConfig"
  blank := default
  fields := [
    .required "view" .bool fun x r => { r with view := x },
    .required "edit" .bool fun x r => { r with edit := x },
    .required "create" .bool fun x r => { r with create := x },
    .required "delete" .bool fun x r => { r with delete := x },
    .defaulted "roles" (.option (.list .string)) fun x r => { r with roles := x }] }

def Relation.shape : Shape Relation := RecordShape.read {
  name := "RelationConfig"
  blank := default
  fields := [
    .required "model" .string fun x r => { r with model := x },
    .required "field" .string fun x r => { r with field := x },
    .required "type" Cardinality.shape fun x r => { r with cardinality := x }] }

def Field.shape : Shape Field := RecordShape.read {
  name := "FieldMetadata"
  blank := { name := "", type := { dataType := .unknown } }
  fields := [
    .required "name" .string fun x r => { r with name := x },
    .required "type" FieldType.shape fun x r => { r with type := x },
    .defaulted "validation" (.list Rule.shape) fun x r => { r with rules := x },
    .defaulted "editRule" EditRule.shape fun x r => { r with editRule := x },
    .defaulted "display" (.option Display.shape) fun x r => { r with display := x },
    .defaulted "permission" (.option FieldPermission.shape) fun x r => { r with permission := x },
    .defaulted "relation" (.option Relation.shape) fun x r => { r with relation := x }] }

def ModelPermission.shape : Shape ModelPermission := RecordShape.read {
  name := "ModelPermissions"
  blank := default
  fields := [
    .required "view" .bool fun x r => { r with view := x },
    .required "create" .bool fun x r => { r with create := x },
    .required "update" .bool fun x r => { r with update := x },
    .required "delete" .bool fun x r => { r with delete := x },
    .defaulted "roles" (.option (.list .string)) fun x r => { r with roles := x }] }

/-- A model; one that does not say when it was created was created now. -/
def Model.shape (now : Instant) : Shape Model := RecordShape.read {
  name := "ModelMetadata"
  blank := { id := "", name := "", fields := [], createdAt := now }
  fields := [
    .required "id" .string fun x r => { r with id := x },
    .required "name" .string fun x r => { r with name := x },
    .defaulted "displayName" .string fun x r => { r with displayName := x },
    .defaulted "description" (.option .string) fun x r => { r with description := x },
    .required "fields" (.list Field.shape) fun x r => { r with fields := x },
    .defaulted "permissions" (.option ModelPermission.shape) fun x r => { r with permissions := x },
    .defaulted "createdAt" .instant fun x r => { r with createdAt := x },
    .defaulted "updatedAt" (.option .instant) fun x r => { r with updatedAt := x }] }

end ModelForm
