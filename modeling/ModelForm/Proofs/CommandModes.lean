import ModelForm.CommandLine.Run
import ModelForm.Proofs.EntryPoints
import ModelForm.Proofs.UniqueNames

/-!
The two modes of validating a document from the command line. Both load the same settings,
model and document, so that what cannot be loaded ends both in the same trouble. An object
is accepted as a whole exactly if each declared field of it is. A document of another kind is
rejected as a whole, but has no members: a field of it is accepted if the field makes do
without a value. So the modes part on it unless the model asks for some value.
-/

namespace ModelForm

/-- A field is accepted by its verdict exactly if it is passed. -/
theorem Field.accepts_verdict_iff (c : Compiler) (f : Field) (v : Option Json) :
    (f.verdict c v).accepts = true ↔ f.passes c.checks v = true := by
  cases hpattern : f.unusable? c.checks v with
  | none => rw [Field.accepts_verdict c f v hpattern]
  | some p =>
    have hverdict : f.verdict c v = .aborted p := by simp [Field.verdict, hpattern]
    have hfails : f.passes c.checks v ≠ true := by
      intro h
      simp [Field.unusable?_of_passes c f v h] at hpattern
    simp [hverdict, hfails]

section Fields

variable (c : Compiler) (m : Model) (hnames : m.fieldNames.Nodup)
include hnames

/-- A field of a compiled model is accepted exactly if the metadata passes its value. -/
theorem Compiler.validateField_iff_passes (f : Field) (hf : f ∈ m.fields) (v : Option Json) :
    (∃ w, (c.compile m).validateField f.name v = .ok w) ↔ f.passes c.checks v = true := by
  have hdistinct : (c.compile m).names.Nodup := (names_compile c m hnames).symm ▸ hnames
  have hmem : (f.name, c.compileField f) ∈ c.compile m := by
    rw [compile_eq c m hnames]
    exact List.mem_map_of_mem hf
  have hget := Members.get?_of_mem (c.compile m) hdistinct f.name _ hmem
  rw [Members.validateField_eq _ _ _ hget, judge_compileField, ← Field.accepts_verdict_iff,
    Verdict.accepts_iff]
  simp only [Verdict.toExcept_eq_ok_iff, Verdict.under_eq_accepted_iff]

/-- A field of a compiled model is accepted without a value if it is not required or may hold
anything. -/
theorem Compiler.validateField_absent_iff (f : Field) (hf : f ∈ m.fields) :
    (∃ v, (c.compile m).validateField f.name none = .ok v) ↔
      f.editRule.required = false ∨ f.type.dataType = .json := by
  rw [validateField_iff_passes c m hnames f hf, Field.passes_eq_true_iff]
  simp

end Fields

def Settings.compiler (settings : Settings) : Compiler := { messages := settings.messages }

namespace CommandLine

/-! Asking for a validation. -/

def Flag.valued (f : Flag) (value : String) : String := f.text ++ "=" ++ value

theorem wordOf_valued (known : List Flag) (f : Flag) (value : String)
    (hknown : known.find? (·.name == f.name) = some f) (hname : '=' ∉ f.name.toList) :
    wordOf known (f.valued value) = .valued f value := by
  have htext : (f.valued value).toList = '-' :: '-' :: (f.name.toList ++ '=' :: value.toList) := by
    simp [Flag.valued, Flag.text]
  have hplain : ∀ c ∈ f.name.toList, decide (c ≠ '=') = true := by
    rintro c hc
    refine decide_eq_true ?_
    rintro rfl
    exact hname hc
  have hfront : (f.name.toList ++ '=' :: value.toList).takeWhile (· ≠ '=') = f.name.toList := by
    rw [List.takeWhile_append_of_pos hplain]
    simp
  have hback : (f.name.toList ++ '=' :: value.toList).dropWhile (· ≠ '=') =
      '=' :: value.toList := by
    rw [List.dropWhile_append_of_pos hplain]
    simp
  have hlong : wordOf known (f.valued value) =
      longWord known (f.name.toList ++ '=' :: value.toList) := by
    unfold wordOf
    rw [htext]
    cases f.name.toList <;> rfl
  rw [hlong]
  simp only [longWord, hfront, hback, String.ofList_toList, hknown]

/-- An option that was not given yet is added with its value. -/
theorem readGiven_valued (known : List Flag) (several : Bool) (g : Given) (f : Flag)
    (value : String) (rest : List String) (hword : wordOf known (f.valued value) = .valued f value)
    (hnew : g.value? f = none) : readGiven known several g (f.valued value :: rest) =
      readGiven known several { g with options := g.options ++ [(f, value)] } rest := by
  rw [readGiven.eq_def]
  simp only [hword, Given.add, hnew]
  rfl

def validateWords (model input : String) (field : Option String) : List String :=
  Flag.model.valued model :: Flag.input.valued input :: (field.map Flag.field.valued).toList

def validateLine (settingsFile : Option String) (model input : String) (field : Option String) :
    List String :=
  (settingsFile.map Flag.settings.valued).toList ++ "validate" :: validateWords model input field

theorem readValidate_validateWords (model input : String) (field : Option String) :
    readValidate (validateWords model input field) = .ok (.validate model input field) := by
  have hmodel := wordOf_valued [Flag.model, Flag.input, Flag.field] Flag.model model
    (by decide) (by decide)
  have hinput := wordOf_valued [Flag.model, Flag.input, Flag.field] Flag.input input
    (by decide) (by decide)
  rw [readValidate, validateWords, readGiven_valued _ _ _ _ _ _ hmodel rfl,
    readGiven_valued _ _ _ _ _ _ hinput rfl]
  cases field with
  | none => rfl
  | some name =>
    have hfield := wordOf_valued [Flag.model, Flag.input, Flag.field] Flag.field name
      (by decide) (by decide)
    rw [Option.map_some, Option.toList_some, readGiven_valued _ _ _ _ _ _ hfield rfl]
    rfl

/-- Whatever is to be validated, there is a command line that asks for it. -/
theorem readArguments_validateLine (settingsFile : Option String) (model input : String)
    (field : Option String) : readArguments (validateLine settingsFile model input field) =
      .ok ⟨settingsFile, .validate model input field⟩ := by
  have hplain : ∀ g : Given, readGiven [Flag.settings] false g
      ("validate" :: validateWords model input field) =
        .ok { g with plain := "validate" :: validateWords model input field } := by
    intro g
    rw [readGiven.eq_def]
    rfl
  have hcommand : readCommand ("validate" :: validateWords model input field) =
      .ok (.validate model input field) := readValidate_validateWords model input field
  cases settingsFile with
  | none =>
    simp only [readArguments, validateLine, Option.map_none, Option.toList_none, List.nil_append,
      hplain, bind, Except.bind, hcommand]
    rfl
  | some file =>
    have hsettings := wordOf_valued [Flag.settings] Flag.settings file (by decide) (by decide)
    rw [readArguments, validateLine, Option.map_some, Option.toList_some, List.singleton_append,
      readGiven_valued _ _ _ _ _ _ hsettings rfl, hplain]
    simp only [bind, Except.bind, hcommand]
    rfl

def statusOf (w : World) (arguments : List String) : Nat :=
  match readArguments arguments with
  | .ok invocation => (report (run w invocation)).status
  | .error .help => 0
  | .error _ => 2

def exitStatus (w : World) (settingsFile : Option String) (model input : String)
    (field : Option String) : Nat :=
  statusOf w (validateLine settingsFile model input field)

/-- What a run loads before it validates: its settings, the model and the document. -/
structure Loads (w : World) (settingsFile : Option String) (model input : String)
    (settings : Settings) (m : Model) (document : Json) : Prop where
  settings : Settings.load w.surroundings settingsFile = .ok settings
  model : Model.ofFile w.files w.now model = .ok m
  document : readDocument w input = .ok document

/-! What is accepted, once everything is loaded. -/

section Outcome

variable (c : Compiler) (ms : Members) (document : Json)

theorem success_outcomeOf_whole_iff : (outcomeOf c ms document none).success = true ↔
    ∃ out, ms.validate document = .ok out := by
  have hreports := Outcome.reports_ofDecode c.messages.generic ((Schema.record ms).decode document)
    (Schema.decoding_of_decode _ _)
  refine hreports.success_iff.trans ?_
  cases document with
  | object o =>
    rw [Members.decode_object]
    cases ms.validate (.object o) <;> simp [Except.map]
  | _ => simp [Schema.decode, Schema.judge, Verdict.toExcept, Members.validate, Except.map]

theorem success_outcomeOf_field_iff (name : String) :
    (outcomeOf c ms document (some name)).success = true ↔
      ∃ v, ms.validateField name (document.member? name) = .ok v := by
  simp only [outcomeOf]
  cases ms.validateField name (document.member? name) <;>
    simp [Outcome.succeeded, Outcome.failed]

end Outcome

section Modes

variable {w : World} {settingsFile : Option String} {model input : String} {settings : Settings}
  {m : Model} {document : Json} (h : Loads w settingsFile model input settings m document)
include h

theorem Loads.nodup_fieldNames : m.fieldNames.Nodup :=
  Model.Loaded.nodup_fieldNames m (.file w.files w.now model h.model)

/-- In either mode the result is the outcome, for the compiler of the settings. -/
theorem Loads.run_eq (field : Option String) :
    run w ⟨settingsFile, .validate model input field⟩ =
      let outcome := outcomeOf settings.compiler (settings.compiler.compile m) document field
      .ok { passed := outcome.success, output := outcome.json.pretty ++ "\n" } := by
  simp only [run, h.settings, validate, h.model, h.document, Except.mapError, bind, Except.bind]
  rfl

theorem Loads.exitStatus_eq_zero_iff (field : Option String) :
    exitStatus w settingsFile model input field = 0 ↔
      (outcomeOf settings.compiler (settings.compiler.compile m) document field).success =
        true := by
  rw [exitStatus, statusOf, readArguments_validateLine]
  simp [h.run_eq, report]

theorem Loads.exitStatus_whole_iff : exitStatus w settingsFile model input none = 0 ↔
    ∃ out, (settings.compiler.compile m).validate document = .ok out :=
  (h.exitStatus_eq_zero_iff none).trans (success_outcomeOf_whole_iff _ _ document)

theorem Loads.exitStatus_field_iff (name : String) :
    exitStatus w settingsFile model input (some name) = 0 ↔
      ∃ v, (settings.compiler.compile m).validateField name (document.member? name) = .ok v :=
  (h.exitStatus_eq_zero_iff (some name)).trans (success_outcomeOf_field_iff _ _ document name)

/-- Of an object the modes say the same. -/
theorem Loads.exitStatus_of_object (o : Object) (hdocument : document = .object o) :
    exitStatus w settingsFile model input none = 0 ↔
      ∀ name ∈ m.fieldNames, exitStatus w settingsFile model input (some name) = 0 := by
  have hnames := settings.compiler.names_compile m h.nodup_fieldNames
  have hdistinct : (settings.compiler.compile m).names.Nodup := hnames.symm ▸ h.nodup_fieldNames
  simp only [h.exitStatus_whole_iff, h.exitStatus_field_iff, hdocument]
  rw [Members.validate_ok_iff _ hdistinct, hnames]
  rfl

section NoObject

variable (hdocument : ∀ o, document ≠ .object o)
include hdocument

/-- As a whole, a document that is no object is rejected. -/
theorem Loads.exitStatus_whole_of_no_object :
    exitStatus w settingsFile model input none ≠ 0 := by
  rw [ne_eq, h.exitStatus_whole_iff]
  cases document with
  | object o => exact absurd rfl (hdocument o)
  | _ => simp [Members.validate]

/-- For a single field, a document that is no object is one without a value for it. -/
theorem Loads.exitStatus_field_of_no_object (f : Field) (hf : f ∈ m.fields) :
    exitStatus w settingsFile model input (some f.name) = 0 ↔
      f.editRule.required = false ∨ f.type.dataType = .json := by
  have habsent : document.member? f.name = none := by
    cases document with
    | object o => exact absurd rfl (hdocument o)
    | _ => rfl
  rw [h.exitStatus_field_iff, habsent]
  exact settings.compiler.validateField_absent_iff m h.nodup_fieldNames f hf

end NoObject

/-- A document is accepted as a whole exactly if it is an object and each declared field of it is
accepted. So the exit statuses agree unless the document is no object and the model asks for no
value: then every field is accepted and the whole is not. -/
theorem Loads.exitStatus_whole_iff_fields :
    (exitStatus w settingsFile model input none = 0 ↔ (∃ o, document = .object o) ∧
      ∀ name ∈ m.fieldNames, exitStatus w settingsFile model input (some name) = 0) ∧
    ((exitStatus w settingsFile model input none = 0 ↔
        ∀ name ∈ m.fieldNames, exitStatus w settingsFile model input (some name) = 0) ↔
      (∃ o, document = .object o) ∨
        ∃ f ∈ m.fields, f.editRule.required = true ∧ f.type.dataType ≠ .json) := by
  by_cases hobject : ∃ o, document = .object o
  · obtain ⟨o, ho⟩ := hobject
    have hagree := h.exitStatus_of_object o ho
    exact ⟨by simp [ho, hagree], by simp [ho, hagree]⟩
  · have hno : ∀ o, document ≠ .object o := not_exists.mp hobject
    have hwhole := h.exitStatus_whole_of_no_object hno
    have hfields : (∀ name ∈ m.fieldNames,
        exitStatus w settingsFile model input (some name) = 0) ↔
          ∀ f ∈ m.fields, f.editRule.required = false ∨ f.type.dataType = .json := by
      simp only [Model.fieldNames, List.forall_mem_map]
      exact forall₂_congr fun f hf => h.exitStatus_field_of_no_object hno f hf
    refine ⟨by simp [hwhole, hobject], ?_⟩
    rw [hfields]
    simp [hwhole, hobject]

end Modes

def noteText : String :=
  "\x7b\"id\":\"note\",\"name\":\"Note\"," ++
    "\"fields\":[\x7b\"name\":\"text\",\"type\":\x7b\"type\":\"string\"\x7d\x7d]\x7d"

/-- A file with the model of a note, whose text may be absent, and something to validate. -/
def notesWith (input : String) : World where
  surroundings := { files := ⟨.directory [("note.json", .file noteText)], "/"⟩ }
  input
  now := default

def noteModel : Model where
  id := "note"
  name := "Note"
  fields := [{ name := "text", type := { dataType := .string } }]
  createdAt := default

theorem loads_notesWith (input : String) (document : Json) (h : Json.ofText input = .ok document) :
    Loads (notesWith input) none "note.json" "-" {} noteModel document := by
  have hsettings : Settings.load (notesWith "").surroundings none = .ok {} := by rfl
  have hmodel : Model.ofFile (notesWith "").files default "note.json" = .ok noteModel := by
    with_unfolding_all rfl
  refine ⟨hsettings, hmodel, ?_⟩
  simp only [readDocument, World.readInput, notesWith, beq_self_eq_true, if_true, bind,
    Except.bind, h, Except.mapError]

/-- An object is accepted as a whole, so its text is. The number 42 has no text that could be wrong,
but is not accepted as a whole. -/
theorem exitStatus_whole_iff_fields_note :
    let note := notesWith "\x7b\"text\":\"Hello\"\x7d"
    let number := notesWith "42"
    (exitStatus note none "note.json" "-" none = 0 ∧
      exitStatus note none "note.json" "-" (some "text") = 0) ∧
    ¬ (exitStatus number none "note.json" "-" none = 0 ↔ ∀ name ∈ noteModel.fieldNames,
      exitStatus number none "note.json" "-" (some name) = 0) := by
  intro note number
  have hnote : Json.ofText "\x7b\"text\":\"Hello\"\x7d" =
      .ok (.object [("text", .string "Hello")]) := by cbv
  have hnumber : Json.ofText "42" = .ok (.number (.integer 42)) := by with_unfolding_all rfl
  constructor
  · have hloads := loads_notesWith _ _ hnote
    obtain ⟨hiff, -⟩ := hloads.exitStatus_whole_iff_fields
    have hvalid : ((Settings.compiler {}).compile noteModel).validate
        (.object [("text", .string "Hello")]) = .ok [("text", .string "Hello")] := by rfl
    have hwhole : exitStatus note none "note.json" "-" none = 0 :=
      hloads.exitStatus_whole_iff.mpr ⟨_, hvalid⟩
    exact ⟨hwhole, (hiff.mp hwhole).2 "text" (by simp [noteModel, Model.fieldNames])⟩
  · obtain ⟨-, hiff⟩ := (loads_notesWith _ _ hnumber).exitStatus_whole_iff_fields
    rw [hiff]
    simp [noteModel]

/-- The modes do not always agree. -/
theorem modes_disagree : ¬ ∀ (w : World) (settingsFile : Option String) (model input : String)
    (settings : Settings) (m : Model) (document : Json),
    Loads w settingsFile model input settings m document →
      (exitStatus w settingsFile model input none = 0 ↔
        ∀ name ∈ m.fieldNames, exitStatus w settingsFile model input (some name) = 0) := by
  intro hall
  have hnumber : Json.ofText "42" = .ok (.number (.integer 42)) := by with_unfolding_all rfl
  have hloads := loads_notesWith _ _ hnumber
  have hfields : ∀ name ∈ noteModel.fieldNames,
      exitStatus (notesWith "42") none "note.json" "-" (some name) = 0 := by
    intro name hname
    obtain rfl : name = "text" := by simpa [noteModel, Model.fieldNames] using hname
    have hvalid : ((Settings.compiler {}).compile noteModel).validateField "text" none =
        .ok none := by rfl
    exact (hloads.exitStatus_field_iff "text").mpr ⟨none, hvalid⟩
  exact hloads.exitStatus_whole_of_no_object (by simp) ((hall _ _ _ _ _ _ _ hloads).mpr hfields)

end CommandLine

end ModelForm
