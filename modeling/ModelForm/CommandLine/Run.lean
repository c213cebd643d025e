import ModelForm.CommandLine.Arguments
import ModelForm.Json.Writer
import ModelForm.Model.Loading
import ModelForm.Outcome
import ModelForm.Settings.Source

/-!
Running a command. A run ends in trouble before it has written anything, or writes its
whole output and says whether all is well. The first thing that cannot be loaded is the
trouble: the settings, then the models, then the document.
-/

namespace ModelForm.CommandLine

inductive Trouble where
  | settings (error : SettingsError)
  | noModels
  | models (error : LoadError)
  | model (path : String) (error : LoadError)
  | document (path : String) (problem : FileProblem)
  | malformed (fault : Fault)
  deriving Repr, Inhabited

namespace Trouble

def message : Trouble → String
  | .settings e => "failed to load configuration: " ++ e.message
  | .noModels => "no model path given and loader.models_dir is not configured"
  | .models e => e.message
  | .model path e => "loading " ++ path ++ ": " ++ e.message
  | .document path problem => "reading " ++ path ++ ": " ++ problem.message
  | .malformed .malformed => "malformed text"
  | .malformed .truncated => "the text ends too early"

end Trouble

structure Result where
  passed : Bool
  output : String
  deriving DecidableEq, Repr, Inhabited

/-- What a command runs in: files and settings around it, its input, and the time. The input may be
one that cannot be read. -/
structure World where
  surroundings : Surroundings
  input : String
  inputProblem? : Option FileProblem := none
  now : Instant
  deriving Inhabited

namespace World

def files (w : World) : Files := w.surroundings.files

end World

/-! Listing models. -/

def constraintNote (count : Nat) : String :=
  match count with
  | 0 => ""
  | 1 => ", 1 constraint"
  | n => ", " ++ toString n ++ " constraints"

def fieldLine (c : Compiler) (f : Field) : String :=
  let s := c.compileField f
  "  └─ " ++ f.name ++ ": " ++ f.type.dataType.name ++
    (if s.isOptional then "" else ", required") ++ constraintNote s.constraints.length ++ "\n"

def modelLines (c : Compiler) (m : Model) : String :=
  "✅ " ++ m.name ++ " (" ++ toString (c.compile m).length ++ " fields)\n" ++
    String.join (m.fields.map (fieldLine c))

def modelsAt (w : World) (path : String) : Except Trouble (List Model) :=
  match w.files.directory? path with
  | some _ => (Model.ofDirectory w.files w.now path).mapError .models
  | none => ((Model.ofFile w.files w.now path).mapError (.model path)).map ([·])

def check (w : World) (settings : Settings) (c : Compiler) (path : Option String) :
    Except Trouble Result := do
  match path.or (settings.modelsDirectoryFrom w.files.here) with
  | none => throw .noModels
  | some path =>
    let models ← modelsAt w path
    return { passed := true, output := String.join (models.map (modelLines c)) }

/-! Validating a document. -/

def World.readInput (w : World) : Except FileProblem String :=
  match w.inputProblem? with
  | none => .ok w.input
  | some problem => .error problem

def readDocument (w : World) (path : String) : Except Trouble Json := do
  let text ← if path == "-" then w.readInput.mapError (.document "stdin")
    else (w.files.read path).mapError (.document path)
  (Json.ofText text).mapError .malformed

def outcomeOf (c : Compiler) (ms : Members) (document : Json) : Option String → Outcome
  | none => (c.adapter ms).parse document
  | some name =>
    match ms.validateField name (document.member? name) with
    | .ok v => Outcome.succeeded (v.getD .null)
    | .error failure => Outcome.failed (failure.fieldErrors name c.messages.generic)

def validate (w : World) (c : Compiler) (model input : String) (field : Option String) :
    Except Trouble Result := do
  let m ← (Model.ofFile w.files w.now model).mapError (.model model)
  let document ← readDocument w input
  let outcome := outcomeOf c (c.compile m) document field
  return { passed := outcome.success, output := outcome.json.pretty ++ "\n" }

/-! Running. -/

def run (w : World) (i : Invocation) : Except Trouble Result := do
  let settings ← (Settings.load w.surroundings i.settings).mapError .settings
  let c : Compiler := { messages := settings.messages }
  match i.command with
  | .check path => check w settings c path
  | .validate model input field => validate w c model input field

def pathsOf (settings : Settings) (here : String) : Command → List String
  | .check path => (path.or (settings.modelsDirectoryFrom here)).toList
  | .validate model input _ => if input == "-" then [model] else [model, input]

structure Report where
  status : Nat
  output : String
  deriving DecidableEq, Repr, Inhabited

/-- Trouble has the status 2 and no output, a result 0 or 1. -/
def report : Except Trouble Result → Report
  | .error _ => ⟨2, ""⟩
  | .ok r => ⟨if r.passed then 0 else 1, r.output⟩

end ModelForm.CommandLine
