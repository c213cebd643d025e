import ModelForm.Files.Path

/-!
Directories and regular files as a value. A path is followed part by part from the
root, so what lies outside of a directory is reached through its parents only.
-/

namespace ModelForm

/-- A regular file holds a text, or bytes of which only a part is text, or must not be read. -/
inductive FileTree where
  | file (text : String)
  | garbled (remains : String)
  | locked
  | directory (entries : List (String × FileTree))
  deriving Inhabited

inductive FileProblem where
  | notFound
  | notADirectory
  | isADirectory
  | noText
  | denied
  deriving DecidableEq, Repr, Inhabited

namespace FileProblem

def message : FileProblem → String
  | .notFound => "No such file or directory (os error 2)"
  | .notADirectory => "Not a directory (os error 20)"
  | .isADirectory => "Is a directory (os error 21)"
  | .noText => "stream did not contain valid UTF-8"
  | .denied => "Permission denied (os error 13)"

end FileProblem

namespace FileTree

def child? (name : String) : List (String × FileTree) → Option FileTree
  | [] => none
  | (n, node) :: rest => if n = name then some node else child? name rest

/-- Follows the parts of a path; `above` are the directories that were entered, the last first. -/
def follow (here : FileTree) (above : List FileTree) : List String → Except FileProblem FileTree
  | [] => .ok here
  | part :: rest =>
    match here with
    | .directory entries =>
      if part.isEmpty || part == "." then follow here above rest
      else if part == ".." then
        match above with
        | [] => follow here [] rest
        | parent :: above => follow parent above rest
      else
        match child? part entries with
        | none => .error .notFound
        | some next => follow next (here :: above) rest
    | _ => .error .notADirectory

def text : FileTree → Except FileProblem String
  | .file text => .ok text
  | .garbled _ => .error .noText
  | .locked => .error .denied
  | .directory _ => .error .isADirectory

def remains : FileTree → Except FileProblem String
  | .garbled remains => .ok remains
  | node => node.text

def isFile : FileTree → Bool
  | .directory _ => false
  | _ => true

mutual

def files : FileTree → List (List String × FileTree)
  | .directory entries => filesIn entries
  | node => [([], node)]

def filesIn : List (String × FileTree) → List (List String × FileTree)
  | [] => []
  | (name, node) :: rest => node.files.map (fun f => (name :: f.1, f.2)) ++ filesIn rest

end

/-- The tree with one more node, reached by these parts. Directories on the way are made where
there is nothing yet. -/
def graft (node : FileTree) : List String → Option FileTree → FileTree
  | [], _ => node
  | part :: rest, here =>
    let entries := match here with
      | some (.directory entries) => entries
      | _ => []
    .directory (entries.filter (·.1 ≠ part) ++ [(part, graft node rest (child? part entries))])

end FileTree

structure Files where
  root : FileTree
  here : String
  deriving Inhabited

namespace Files

def partsOf (fs : Files) (path : String) : List String :=
  if Path.isAbsolute path then Path.parts path else Path.parts fs.here ++ Path.parts path

def find (fs : Files) (path : String) : Except FileProblem FileTree :=
  if path.isEmpty then .error .notFound else fs.root.follow [] (fs.partsOf path)

def read (fs : Files) (path : String) : Except FileProblem String := do
  (← fs.find path).text

def readRemains (fs : Files) (path : String) : Except FileProblem String := do
  (← fs.find path).remains

def isFile (fs : Files) (path : String) : Bool :=
  match fs.find path with
  | .ok node => node.isFile
  | .error _ => false

def directory? (fs : Files) (path : String) : Option FileTree :=
  match fs.find path with
  | .ok (.directory entries) => some (.directory entries)
  | _ => none

def contains (fs : Files) (path : String) : Bool :=
  match fs.find path with
  | .ok _ => true
  | .error _ => false

def put (fs : Files) (path : String) (node : FileTree) : Files :=
  { fs with root := FileTree.graft node (Path.settled (fs.partsOf path)) (some fs.root) }

def write (fs : Files) (path text : String) : Files := fs.put path (.file text)

/-- Writes a text to a regular file, which is made in its directory if it is not there. -/
def save (fs : Files) (path text : String) : Except FileProblem Files :=
  let parts := fs.partsOf path
  let named := (parts.reverse.dropWhile String.isEmpty).reverse
  let last := named.getLastD "."
  if path.isEmpty then .error .notFound
  else
    match fs.root.follow [] named.dropLast with
    | .error e => .error e
    | .ok (.directory entries) =>
      if last == "." || last == ".." || named.length < parts.length then .error .isADirectory
      else
        match FileTree.child? last entries with
        | some (.directory _) => .error .isADirectory
        | some .locked => .error .denied
        | _ => .ok (fs.write path text)
    | .ok _ => .error .notADirectory

end Files

end ModelForm
