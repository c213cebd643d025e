import ModelForm.Model.Metadata

/-!
Metadata as values. What is absent, and lists that are empty anyway, are left out.
-/

namespace ModelForm

def Json.record (members : List (String × Option Json)) : Json :=
  .object (Object.ofList (members.filterMap fun (key, v?) => v?.map fun v => (key, v)))

def Json.present (v : Json) : Option Json := some v

def Json.nonempty (values : List Json) : Option Json :=
  if values.isEmpty then none else some (.array values)

def RuleValue.json : RuleValue → Json
  | .number x => Json.ofDouble x
  | .text s => .string s

def Rule.json (r : Rule) : Json := Json.record [
  ("type", Json.present (.string r.kind.name)),
  ("value", r.value.map RuleValue.json),
  ("message", r.message.map .string)]

def FieldType.json (t : FieldType) : Json := Json.record [
  ("type", Json.present (.string t.dataType.name)),
  ("validation", Json.nonempty (t.rules.map Rule.json)),
  ("defaultValue", t.defaultValue),
  ("enumValues", t.enumValues.map Json.ofStrings)]

def Display.json (d : Display) : Json := Json.record [
  ("label", Json.present (.string d.label)),
  ("placeholder", d.placeholder.map .string),
  ("helpText", d.helpText.map .string),
  ("visible", Json.present (.bool d.visible)),
  ("order", d.order.map fun i => .number (.integer i)),
  ("width", d.width.map .string),
  ("format", d.format.map .string)]

def ConditionalRule.json (r : ConditionalRule) : Json := Json.record [
  ("field", Json.present (.string r.field)),
  ("value", Json.present r.value),
  ("then", Json.present r.outcome)]

def EditRule.json (r : EditRule) : Json := Json.record [
  ("editable", Json.present (.bool r.editable)),
  ("readonly", Json.present (.bool r.readonly)),
  ("required", Json.present (.bool r.required)),
  ("hidden", Json.present (.bool r.hidden)),
  ("dependsOn", Json.nonempty (r.dependsOn.map .string)),
  ("conditionalRules", Json.nonempty (r.conditionalRules.map ConditionalRule.json))]

def FieldPermission.json (p : FieldPermission) : Json := Json.record [
  ("view", Json.present (.bool p.view)),
  ("edit", Json.present (.bool p.edit)),
  ("create", Json.present (.bool p.create)),
  ("delete", Json.present (.bool p.delete)),
  ("roles", p.roles.map Json.ofStrings)]

def Relation.json (r : Relation) : Json := Json.record [
  ("model", Json.present (.string r.model)),
  ("field", Json.present (.string r.field)),
  ("type", Json.present (.string r.cardinality.name))]

def Field.json (f : Field) : Json := Json.record [
  ("name", Json.present (.string f.name)),
  ("type", Json.present f.type.json),
  ("validation", Json.nonempty (f.rules.map Rule.json)),
  ("editRule", Json.present f.editRule.json),
  ("display", f.display.map Display.json),
  ("permission", f.permission.map FieldPermission.json),
  ("relation", f.relation.map Relation.json)]

def ModelPermission.json (p : ModelPermission) : Json := Json.record [
  ("view", Json.present (.bool p.view)),
  ("create", Json.present (.bool p.create)),
  ("update", Json.present (.bool p.update)),
  ("delete", Json.present (.bool p.delete)),
  ("roles", p.roles.map Json.ofStrings)]

def Model.json (m : Model) : Json := Json.record [
  ("id", Json.present (.string m.id)),
  ("name", Json.present (.string m.name)),
  ("displayName", Json.present (.string m.displayName)),
  ("description", m.description.map .string),
  ("fields", Json.present (.array (m.fields.map Field.json))),
  ("permissions", m.permissions.map ModelPermission.json),
  ("createdAt", Json.present (.string m.createdAt.text)),
  ("updatedAt", m.updatedAt.map fun t => .string t.text)]

end ModelForm
