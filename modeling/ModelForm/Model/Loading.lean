import ModelForm.Files.Tree
import ModelForm.Model.Reading

/-!
Models from texts and files. A model is taken only if its fields have different names.
A directory gives the models of all its files with the extension json, in ascending
order of their paths, or the error of the first of them that fails.
-/

namespace ModelForm

inductive LoadError where
  | unreadable (error : ReadError)
  | repeatedField (field model : String)
  | noDirectory (path : String)
  | file (problem : FileProblem)
  deriving DecidableEq, Repr, Inhabited

namespace LoadError

def message : LoadError → String
  | .unreadable (.fault .malformed) => "JSON error: malformed text"
  | .unreadable (.fault .truncated) => "JSON error: the text ends too early"
  | .unreadable (.data e) => "JSON error: " ++ e.message
  | .repeatedField field model => "Duplicate field '" ++ field ++ "' in model " ++ model
  | .noDirectory path => "Invalid model metadata: " ++ path ++ " is not a directory"
  | .file problem => "IO error: " ++ problem.message

end LoadError

namespace Model

def ensureUnique (m : Model) : Except LoadError Unit :=
  match m.repeatedName? with
  | some field => .error (.repeatedField field m.name)
  | none => .ok ()

def ofText (now : Instant) (text : String) : Except LoadError Model := do
  let m ← ((Model.shape now).ofText text).mapError LoadError.unreadable
  m.ensureUnique
  return m

def ofFile (fs : Files) (now : Instant) (path : String) : Except LoadError Model := do
  ofText now (← (fs.read path).mapError LoadError.file)

def ofNode (now : Instant) (node : FileTree) : Except LoadError Model := do
  ofText now (← node.text.mapError LoadError.file)

def isModelPath (path : List String) : Bool :=
  path.getLast?.bind Path.extension? == some "json"

/-- The order of paths: part by part, and a path in front of its continuations. -/
def pathLe : List String → List String → Bool
  | [], _ => true
  | _ :: _, [] => false
  | a :: as, b :: bs => if a = b then pathLe as bs else decide (a < b)

def filesIn (tree : FileTree) : List (List String × FileTree) :=
  (tree.files.filter fun f => isModelPath f.1).mergeSort fun a b => pathLe a.1 b.1

def ofDirectory (fs : Files) (now : Instant) (path : String) : Except LoadError (List Model) :=
  match fs.directory? path with
  | none => .error (.noDirectory path)
  | some tree => (filesIn tree).mapM fun f => ofNode now f.2

end Model

end ModelForm
