import ModelForm.Model.Reading
import ModelForm.Proofs.RecordShapes

/-!
Models are the same after they were written and read again. Each kind of record is read
back from its value, provided that its numbers can be written, that its values and points
in time are ones that documents can hold, and that no default is null, which would be
taken for none. All that is read from a document is of this kind, whether its records are
objects or arrays, so a model that was read once is never changed by storing it.
-/

namespace ModelForm

/-! What can be stored. -/

def RuleValue.Storable : RuleValue → Prop
  | .number x => x.isFinite = true
  | .text _ => True

def Rule.Storable (r : Rule) : Prop := ∀ v ∈ r.value, v.Storable

structure FieldType.Storable (t : FieldType) : Prop where
  rules : ∀ r ∈ t.rules, r.Storable
  defaultValue : ∀ v ∈ t.defaultValue, v.WellFormed ∧ v ≠ .null

def Display.Storable (d : Display) : Prop := ∀ i ∈ d.order, -2147483648 ≤ i ∧ i ≤ 2147483647

structure ConditionalRule.Storable (r : ConditionalRule) : Prop where
  value : r.value.WellFormed
  outcome : r.outcome.WellFormed

def EditRule.Storable (r : EditRule) : Prop := ∀ c ∈ r.conditionalRules, c.Storable

structure Field.Storable (f : Field) : Prop where
  type : f.type.Storable
  rules : ∀ r ∈ f.rules, r.Storable
  editRule : f.editRule.Storable
  display : ∀ d ∈ f.display, d.Storable

structure Model.Storable (m : Model) : Prop where
  fields : ∀ f ∈ m.fields, f.Storable
  createdAt : m.createdAt.Valid
  updatedAt : ∀ t ∈ m.updatedAt, t.Valid

/-! Reading back: the fields of a record one by one, in the order in which it declares them, then
that their keys differ, that they set different parts of the record, and that all parts together
are the record. -/

theorem Json.record_ne_null (members : List (String × Option Json)) :
    Json.record members ≠ .null := fun h => nomatch h

theorem Shape.reads_strings (texts : List String) :
    (Shape.list .string).Reads (Json.ofStrings texts) texts :=
  Shape.reads_list .string .string texts fun s _ => Shape.reads_string s

theorem DataType.reads_name (t : DataType) : shape.Reads (.string t.name) t :=
  Shape.reads_name _ _ t.name t (congrArg some (ofName_name t))

theorem RuleKind.reads_name (k : RuleKind) : shape.Reads (.string k.name) k :=
  Shape.reads_name _ _ k.name k (ofName?_name k)

theorem Cardinality.reads_name (c : Cardinality) : shape.Reads (.string c.name) c :=
  Shape.reads_name _ _ c.name c (ofName?_name c)

theorem RuleValue.reads_json (v : RuleValue) (h : v.Storable) : shape.Reads v.json v := by
  cases v with
  | number x =>
    have hx : x.isFinite = true := h
    have hjson : (number x).json = .number (.double x) := by simp [json, Json.ofDouble, hx]
    rw [hjson]
    exact ⟨.number _ h, fun _ => rfl⟩
  | text s => exact ⟨.string s, fun _ => rfl⟩

theorem RuleValue.json_ne_null (v : RuleValue) (h : v.Storable) : v.json ≠ .null := by
  cases v with
  | number x =>
    have hx : x.isFinite = true := h
    simp [json, Json.ofDouble, hx]
  | text s => simp [json]

/-- Optional texts. -/
theorem Shape.reads_text? (text? : Option String) :
    ∀ s ∈ text?, Json.string s ≠ .null ∧ Shape.string.Reads (.string s) s :=
  fun s _ => ⟨by simp, Shape.reads_string s⟩

/-- Optional lists of texts. -/
theorem Shape.reads_strings? (texts? : Option (List String)) :
    ∀ texts ∈ texts?, Json.ofStrings texts ≠ .null ∧
      (Shape.list .string).Reads (Json.ofStrings texts) texts :=
  fun texts _ => ⟨by simp [Json.ofStrings], Shape.reads_strings texts⟩

theorem Rule.reads_json (r : Rule) (h : r.Storable) : shape.Reads r.json r := by
  have hvalue : ∀ v ∈ r.value, v.json ≠ .null ∧ RuleValue.shape.Reads v.json v :=
    fun v hv => ⟨v.json_ne_null (h v hv), v.reads_json (h v hv)⟩
  exact RecordShape.reads_record _
    (.required r.kind.reads_name (.option hvalue rfl (.option (Shape.reads_text? r.message) rfl
      .nil)))
    (by decide) (by simp) rfl

theorem FieldType.reads_json (t : FieldType) (h : t.Storable) : shape.Reads t.json t := by
  have hrules : ∀ r ∈ t.rules, Rule.shape.Reads r.json r := fun r hr => r.reads_json (h.rules r hr)
  exact RecordShape.reads_record _
    (.required t.dataType.reads_name (.list hrules rfl (.json h.defaultValue rfl
      (.option (Shape.reads_strings? t.enumValues) rfl .nil))))
    (by decide) (by simp) rfl

theorem Display.representable_order (d : Display) (h : d.Storable) (i : Int) (hi : i ∈ d.order) :
    (Number.integer i).Representable := by
  obtain ⟨hlow, hhigh⟩ := h i hi
  exact ⟨by omega, by omega⟩

theorem Display.reads_json (d : Display) (h : d.Storable) : shape.Reads d.json d := by
  have horder : ∀ i ∈ d.order, Json.number (.integer i) ≠ .null ∧
      (Shape.integer "i32" (-2147483648) 2147483647).Reads (.number (.integer i)) i :=
    fun i hi => ⟨by simp, Shape.reads_integer _ _ _ i (h i hi) (d.representable_order h i hi)⟩
  exact RecordShape.reads_record _
    (.required (Shape.reads_string d.label) (.option (Shape.reads_text? d.placeholder) rfl
      (.option (Shape.reads_text? d.helpText) rfl (.defaulted (Shape.reads_bool d.visible)
        (.option horder rfl (.option (Shape.reads_text? d.width) rfl
          (.option (Shape.reads_text? d.format) rfl .nil)))))))
    (by decide) (by simp) rfl

theorem ConditionalRule.reads_json (r : ConditionalRule) (h : r.Storable) :
    shape.Reads r.json r :=
  RecordShape.reads_record _
    (.required (Shape.reads_string r.field) (.required (Shape.reads_json r.value h.value)
      (.required (Shape.reads_json r.outcome h.outcome) .nil)))
    (by decide) (by simp) rfl

theorem EditRule.reads_json (r : EditRule) (h : r.Storable) : shape.Reads r.json r := by
  have hdepends : ∀ s ∈ r.dependsOn, Shape.string.Reads (.string s) s :=
    fun s _ => Shape.reads_string s
  have hconditional : ∀ c ∈ r.conditionalRules, ConditionalRule.shape.Reads c.json c :=
    fun c hc => c.reads_json (h c hc)
  exact RecordShape.reads_record _
    (.defaulted (Shape.reads_bool r.editable) (.defaulted (Shape.reads_bool r.readonly)
      (.defaulted (Shape.reads_bool r.required) (.defaulted (Shape.reads_bool r.hidden)
        (.list hdepends rfl (.list hconditional rfl .nil))))))
    (by decide) (by simp) rfl

theorem FieldPermission.reads_json (p : FieldPermission) : shape.Reads p.json p :=
  RecordShape.reads_record _
    (.required (Shape.reads_bool p.view) (.required (Shape.reads_bool p.edit)
      (.required (Shape.reads_bool p.create) (.required (Shape.reads_bool p.delete)
        (.option (Shape.reads_strings? p.roles) rfl .nil)))))
    (by decide) (by simp) rfl

theorem Relation.reads_json (r : Relation) : shape.Reads r.json r :=
  RecordShape.reads_record _
    (.required (Shape.reads_string r.model) (.required (Shape.reads_string r.field)
      (.required r.cardinality.reads_name .nil)))
    (by decide) (by simp) rfl

theorem Field.reads_json (f : Field) (h : f.Storable) : shape.Reads f.json f := by
  have hrules : ∀ r ∈ f.rules, Rule.shape.Reads r.json r := fun r hr => r.reads_json (h.rules r hr)
  have hdisplay : ∀ d ∈ f.display, d.json ≠ .null ∧ Display.shape.Reads d.json d :=
    fun d hd => ⟨Json.record_ne_null _, d.reads_json (h.display d hd)⟩
  have hpermission : ∀ p ∈ f.permission, p.json ≠ .null ∧ FieldPermission.shape.Reads p.json p :=
    fun p _ => ⟨Json.record_ne_null _, p.reads_json⟩
  have hrelation : ∀ r ∈ f.relation, r.json ≠ .null ∧ Relation.shape.Reads r.json r :=
    fun r _ => ⟨Json.record_ne_null _, r.reads_json⟩
  exact RecordShape.reads_record _
    (.required (Shape.reads_string f.name) (.required (f.type.reads_json h.type)
      (.list hrules rfl (.defaulted (f.editRule.reads_json h.editRule)
        (.option hdisplay rfl (.option hpermission rfl (.option hrelation rfl .nil)))))))
    (by decide) (by simp) rfl

theorem ModelPermission.reads_json (p : ModelPermission) : shape.Reads p.json p :=
  RecordShape.reads_record _
    (.required (Shape.reads_bool p.view) (.required (Shape.reads_bool p.create)
      (.required (Shape.reads_bool p.update) (.required (Shape.reads_bool p.delete)
        (.option (Shape.reads_strings? p.roles) rfl .nil)))))
    (by decide) (by simp) rfl

theorem Model.reads_json (m : Model) (h : m.Storable) (now : Instant) :
    (shape now).Reads m.json m := by
  have hfields : (Shape.list Field.shape).Reads (.array (m.fields.map Field.json)) m.fields :=
    Shape.reads_list _ _ m.fields fun f hf => f.reads_json (h.fields f hf)
  have hpermissions : ∀ p ∈ m.permissions, p.json ≠ .null ∧ ModelPermission.shape.Reads p.json p :=
    fun p _ => ⟨Json.record_ne_null _, p.reads_json⟩
  have hupdated : ∀ t ∈ m.updatedAt, Json.string t.text ≠ .null ∧
      Shape.instant.Reads (.string t.text) t :=
    fun t ht => ⟨by simp, Shape.reads_instant t (h.updatedAt t ht)⟩
  exact RecordShape.reads_record _
    (.required (Shape.reads_string m.id) (.required (Shape.reads_string m.name)
      (.defaulted (Shape.reads_string m.displayName) (.option (Shape.reads_text? m.description) rfl
        (.required hfields (.option hpermissions rfl
          (.defaulted (Shape.reads_instant m.createdAt h.createdAt)
            (.option hupdated rfl .nil))))))))
    (by simp [FieldShape.required, FieldShape.defaulted]) (by simp) rfl

/-! What is read can be stored. -/

theorem RuleValue.yields_shape : shape.Yields Storable := by
  intro origin v x hv h
  simp only [shape, Shape.oneOf, Document.value_ofValue v hv, Shape.ofFault, Except.mapError, bind,
    Except.bind, List.findSome?_cons, List.findSome?_nil] at h
  cases hv with
  | number n hn =>
    obtain rfl := Except.ok.inj h
    exact Number.isFinite_toDouble n hn
  | string s =>
    obtain rfl := Except.ok.inj h
    trivial
  | null => cases h
  | bool b => cases h
  | array items _ => cases h
  | object members _ _ => cases h

theorem Rule.yields_shape : shape.Yields Storable := by
  refine RecordShape.yields_read _ _ ?_ fun v hv => nomatch hv
  simp only [List.forall_mem_cons]
  refine ⟨?_, ?value, ?_, by simp⟩
  case value =>
    exact FieldShape.keeps_of_yields (Shape.yields_option _ _ RuleValue.yields_shape)
      fun _ _ hx _ => hx
  all_goals exact FieldShape.keeps_of_set fun _ _ hr => hr

theorem FieldType.yields_shape : shape.Yields Storable := by
  refine RecordShape.yields_read _ _ ?_ ⟨by simp, by simp⟩
  simp only [List.forall_mem_cons]
  refine ⟨?_, ?rules, ?default, ?_, by simp⟩
  case rules =>
    exact FieldShape.keeps_of_yields (Shape.yields_list _ _ Rule.yields_shape)
      fun _ _ hx hr => { hr with rules := hx }
  case default =>
    exact FieldShape.keeps_of_yields Shape.yields_option_json
      fun _ _ hx hr => { hr with defaultValue := hx }
  all_goals exact FieldShape.keeps_of_set fun _ _ hr => { hr with }

theorem Display.yields_shape : shape.Yields Storable := by
  refine RecordShape.yields_read _ _ ?_ fun i hi => nomatch hi
  simp only [List.forall_mem_cons]
  refine ⟨?_, ?_, ?_, ?_, ?order, ?_, ?_, by simp⟩
  case order =>
    exact FieldShape.keeps_of_yields (Shape.yields_option _ _ (Shape.yields_integer _ _ _))
      fun _ _ hx _ => hx
  all_goals exact FieldShape.keeps_of_set fun _ _ hr => hr

theorem ConditionalRule.yields_shape : shape.Yields Storable := by
  refine RecordShape.yields_read _ _ ?_ ⟨.null, .null⟩
  simp only [List.forall_mem_cons]
  refine ⟨?_, ?value, ?outcome, by simp⟩
  case value =>
    exact FieldShape.keeps_of_yields Shape.yields_json fun _ _ hx hr => { hr with value := hx }
  case outcome =>
    exact FieldShape.keeps_of_yields Shape.yields_json fun _ _ hx hr => { hr with outcome := hx }
  exact FieldShape.keeps_of_set fun _ _ hr => { hr with }

theorem EditRule.yields_shape : shape.Yields Storable := by
  refine RecordShape.yields_read _ _ ?_ fun c hc => nomatch hc
  simp only [List.forall_mem_cons]
  refine ⟨?_, ?_, ?_, ?_, ?_, ?conditional, by simp⟩
  case conditional =>
    exact FieldShape.keeps_of_yields (Shape.yields_list _ _ ConditionalRule.yields_shape)
      fun _ _ hx _ => hx
  all_goals exact FieldShape.keeps_of_set fun _ _ hr => hr

theorem Field.yields_shape : shape.Yields Storable := by
  refine RecordShape.yields_read _ _ ?_ ⟨⟨by simp, by simp⟩, by simp, nofun, by simp⟩
  simp only [List.forall_mem_cons]
  refine ⟨?_, ?type, ?rules, ?editRule, ?display, ?_, ?_, by simp⟩
  case type =>
    exact FieldShape.keeps_of_yields FieldType.yields_shape
      fun _ _ hx hr => { hr with type := hx }
  case rules =>
    exact FieldShape.keeps_of_yields (Shape.yields_list _ _ Rule.yields_shape)
      fun _ _ hx hr => { hr with rules := hx }
  case editRule =>
    exact FieldShape.keeps_of_yields EditRule.yields_shape
      fun _ _ hx hr => { hr with editRule := hx }
  case display =>
    exact FieldShape.keeps_of_yields (Shape.yields_option _ _ Display.yields_shape)
      fun _ _ hx hr => { hr with display := hx }
  all_goals exact FieldShape.keeps_of_set fun _ _ hr => { hr with }

theorem Model.yields_shape (now : Instant) (hnow : now.Valid) : (shape now).Yields Storable := by
  refine RecordShape.yields_read _ _ ?_ ⟨by simp, hnow, by simp⟩
  simp only [List.forall_mem_cons]
  refine ⟨?_, ?_, ?_, ?_, ?fields, ?_, ?createdAt, ?updatedAt, by simp⟩
  case fields =>
    exact FieldShape.keeps_of_yields (Shape.yields_list _ _ Field.yields_shape)
      fun _ _ hx hr => { hr with fields := hx }
  case createdAt =>
    exact FieldShape.keeps_of_yields Shape.yields_instant
      fun _ _ hx hr => { hr with createdAt := hx }
  case updatedAt =>
    exact FieldShape.keeps_of_yields (Shape.yields_option _ _ Shape.yields_instant)
      fun _ _ hx hr => { hr with updatedAt := hx }
  all_goals exact FieldShape.keeps_of_set fun _ _ hr => { hr with }

/-! Storing and reloading. -/

/-- What the parts of a model can hold at all, however it was made: points in time that exist,
values of documents, and places in an order of 32 bits. -/
structure Model.Representable (m : Model) : Prop where
  createdAt : m.createdAt.Valid
  updatedAt : ∀ t ∈ m.updatedAt, t.Valid
  defaults : ∀ f ∈ m.fields, ∀ v ∈ f.type.defaultValue, v.WellFormed
  overrides : ∀ f ∈ m.fields, ∀ c ∈ f.editRule.conditionalRules,
    c.value.WellFormed ∧ c.outcome.WellFormed
  orders : ∀ f ∈ m.fields, ∀ d ∈ f.display, ∀ i ∈ d.order, -2147483648 ≤ i ∧ i ≤ 2147483647

theorem Rule.storable_of_number? (r : Rule) (h : ∀ x, r.number? = some x → x.isFinite = true) :
    r.Storable := by
  intro v hv
  cases v with
  | number x =>
    refine h x ?_
    simp [number?, Option.mem_def.mp hv]
  | text s => trivial

/-- A model can be stored if its rules have finite numbers and none of its defaults is null. -/
theorem Model.storable_of_representable (m : Model) (h : m.Representable)
    (hfinite : ∀ f ∈ m.fields, ∀ r ∈ f.allRules, ∀ x, r.number? = some x → x.isFinite = true)
    (hdefault : ∀ f ∈ m.fields, f.type.defaultValue ≠ some .null) : m.Storable := by
  refine ⟨?_, h.createdAt, h.updatedAt⟩
  intro f hf
  have hrules : ∀ r ∈ f.allRules, r.Storable :=
    fun r hr => r.storable_of_number? (hfinite f hf r hr)
  refine ⟨⟨?_, ?_⟩, ?_, ?_, h.orders f hf⟩
  · exact fun r hr => hrules r (List.mem_append_left _ hr)
  · intro v hv
    refine ⟨h.defaults f hf v hv, ?_⟩
    rintro rfl
    exact hdefault f hf hv
  · exact fun r hr => hrules r (List.mem_append_right _ hr)
  · exact fun c hc => ⟨(h.overrides f hf c hc).1, (h.overrides f hf c hc).2⟩

/-- A model that was read, from whatever value, and a model with finite numbers and without null
defaults, however it was made, are written as well-formed values and read back as they were, with
their fields and rules in order, so what they compile to is the same, too. When the value is read
does not matter. -/
theorem Model.reload :
    (∀ (now : Instant) (v : Json) (m : Model), now.Valid → v.WellFormed →
      (shape now).ofValue v = .ok m →
        m.json.WellFormed ∧ ∀ later, (shape later).ofValue m.json = .ok m) ∧
    (∀ m : Model, m.Representable →
      (∀ f ∈ m.fields, ∀ r ∈ f.allRules, ∀ x, r.number? = some x → x.isFinite = true) →
      (∀ f ∈ m.fields, f.type.defaultValue ≠ some .null) →
        m.json.WellFormed ∧ ∀ later, (shape later).ofValue m.json = .ok m) := by
  have hreload (m : Model) (h : m.Storable) :
      m.json.WellFormed ∧ ∀ later, (shape later).ofValue m.json = .ok m :=
    ⟨(m.reads_json h m.createdAt).wellFormed, fun later => (m.reads_json h later).read .value⟩
  refine ⟨?_, ?_⟩
  · intro now v m hnow hv hread
    exact hreload m (Model.yields_shape now hnow .value v m hv hread)
  · intro m hm hfinite hdefault
    exact hreload m (m.storable_of_representable hm hfinite hdefault)

/-- A model from an object with a field from an array, an unknown type, a whole number as a bound,
an unknown key, and a point in time one hour behind: it is read, and read back as it was. So is the
model with another field that was not read. -/
theorem Model.reload_order :
    let now : Instant := ⟨2024, 1, 1, 0, 0, 0, 0⟩
    let rule : Json := .array [.string "min", .number (.integer 5)]
    let type : Json := .object [("defaultValue", .null), ("type", .string "image")]
    let v : Json := .object [("createdAt", .string "2024-02-29T23:30:00.25-01:00"),
      ("fields", .array [.array [.string "size", type, .array [rule]]]), ("id", .string "order"),
      ("name", .string "Order"), ("version", .number (.integer 2))]
    let least : Rule := { kind := .min, value := some (.number (Binary64.ofInt 5)) }
    let field : Field := { name := "size", type := { dataType := .unknown }, rules := [least] }
    let m : Model := { id := "order", name := "Order", fields := [field],
                       createdAt := ⟨2024, 3, 1, 0, 30, 0, 250000000⟩ }
    let built : Model := m.addField (Field.ofType "kind" (FieldType.enumeration ["small", "large"]))
    (shape now).ofValue v = .ok m ∧ m.json.WellFormed ∧ (shape now).ofValue m.json = .ok m ∧
      built.json.WellFormed ∧ (shape now).ofValue built.json = .ok built := by
  intro now rule type v least field m built
  have hread : (shape now).ofValue v = .ok m := rfl
  have hnow : now.Valid :=
    { month := by decide, day := by decide, hour := by decide, minute := by decide,
      second := by decide, nanos := by decide, year := by decide }
  have hrule : rule.WellFormed := by
    refine .array _ ?_
    simp only [List.forall_mem_cons]
    exact ⟨.string _, .number _ ⟨by decide, by decide⟩, by simp⟩
  have htype : type.WellFormed := by
    refine .object _ (by unfold Object.Ascending; decide) ?_
    simp only [List.forall_mem_cons]
    exact ⟨.null, .string _, by simp⟩
  have hv : v.WellFormed := by
    refine .object _ (by unfold Object.Ascending; decide) ?_
    simp only [List.forall_mem_cons]
    refine ⟨.string _, .array _ ?_, .string _, .string _, .number _ ⟨by decide, by decide⟩, by simp⟩
    simp only [List.forall_mem_cons]
    refine ⟨.array _ ?_, by simp⟩
    simp only [List.forall_mem_cons]
    exact ⟨.string _, htype, .array _ (by simpa using hrule), by simp⟩
  have hcreated : m.createdAt.Valid :=
    { month := by decide, day := by decide, hour := by decide, minute := by decide,
      second := by decide, nanos := by decide, year := by decide }
  have hbuilt : built.Representable :=
    { createdAt := hcreated
      updatedAt := by simp [built, m, addField]
      defaults := by simp [built, m, field, addField, Field.ofType, FieldType.enumeration]
      overrides := by simp [built, m, field, addField, Field.ofType, EditRule.voluntary]
      orders := by simp [built, m, field, addField, Field.ofType] }
  have hfinite : ∀ f ∈ built.fields, ∀ r ∈ f.allRules, ∀ x, r.number? = some x →
      x.isFinite = true := by
    have hfive := Binary64.isFinite_ofInt 5 (by decide)
    simpa [built, m, field, least, addField, Field.ofType, FieldType.enumeration, Field.allRules,
      Rule.number?] using hfive
  obtain ⟨hwell, hagain⟩ := reload.1 now v m hnow hv hread
  obtain ⟨hwellBuilt, hagainBuilt⟩ := reload.2 built hbuilt hfinite
    (by simp [built, m, field, addField, Field.ofType, FieldType.enumeration])
  exact ⟨hread, hwell, hagain now, hwellBuilt, hagainBuilt now⟩

end ModelForm
