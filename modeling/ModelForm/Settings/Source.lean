import ModelForm.Files.Tree
import ModelForm.Json.Reader
import ModelForm.Settings.Basic
import ModelForm.Toml.Reader

/-!
Where settings come from. Files at known places, the file of the user, a file that is
named, and the variables of the environment are laid over each other in this order. A
named file has to be there; all others may be missing, but have to be readable.

Files are read in TOML and JSON. The further formats that such files may have, which are
YAML, INI, RON and JSON5, are left out: a file with the extension of one of these is of
an unknown format here, and a path without its extension does not stand for it.
-/

namespace ModelForm

structure Surroundings where
  files : Files
  environment : List (String × String) := []
  userDirectory : String := ""
  deriving Inhabited

namespace Settings

/-! Files. -/

inductive Format where
  | toml
  | json
  deriving DecidableEq, Repr, Inhabited

namespace Format

def all : List Format := [.toml, .json]

def extension : Format → String
  | .toml => "toml"
  | .json => "json"

def ofExtension? (extension : String) : Option Format :=
  all.find? fun f => f.extension == extension

end Format

mutual

def ofJson : Json → Setting
  | .null => .absent
  | .bool b => .bool b
  | .number (.integer i) =>
    match Literal.fitting? i with
    | some i => .integer i
    | none => .float (Binary64.ofInt i)
  | .number (.double x) => .float x
  | .string s => .text s
  | .array items => .list (ofItems items)
  | .object members => .table (ofMembers members)

def ofItems : List Json → List Setting
  | [] => []
  | item :: rest => ofJson item :: ofItems rest

def ofMembers : List (String × Json) → List (String × Setting)
  | [] => []
  | (key, item) :: rest => (key, ofJson item) :: ofMembers rest

end

/-- The entries of a file, without the mark at its start that tells the order of bytes. -/
def Format.entries? (format : Format) (text : String) : Option (List (String × Setting)) :=
  let text := match text.toList with
    | '\ufeff' :: rest => String.ofList rest
    | _ => text
  match format with
  | .toml => Toml.table? text
  | .json =>
    match Json.ofText text with
    | .ok (.object members) => some (ofMembers members)
    | _ => none

def withExtension (path extension : String) : String :=
  let kept := (Path.dropHere (Path.parts path).reverse).reverse
  "/".intercalate kept ++ "." ++ extension

/-- The paths that a path without its extension may stand for. -/
def extended (path : String) : List (String × Format) :=
  Format.all.map fun format => (withExtension path format.extension, format)

/-- The file that a path names: itself, or else the first with the extension of a format. -/
def findFile (files : Files) (path : String) : Except SettingsError (String × Format) :=
  if files.isFile path then
    match (Path.lastExtension? path).bind Format.ofExtension? with
    | some format => .ok (path, format)
    | none => .error (.unknownFormat path)
  else
    match (extended path).find? fun candidate => files.isFile candidate.1 with
    | some found => .ok found
    | none => .error (.missingFile path)

structure Found where
  path : String
  format : Format
  text : String
  deriving Repr, Inhabited

namespace Found

def entries (f : Found) : Except SettingsError (List (String × Setting)) :=
  match f.format.entries? f.text with
  | some entries => .ok entries
  | none => .error (.malformed f.path)

end Found

def openFile (files : Files) (path : String) : Except SettingsError Found := do
  let (found, format) ← findFile files path
  match files.readRemains found with
  | .error _ => throw (.missingFile path)
  | .ok text => return ⟨found, format, text⟩

/-- The entries of a file that has to be there. -/
def namedSource (files : Files) (path : String) :
    Except SettingsError (List (String × Setting)) := do
  (← openFile files path).entries

/-- The entries of a file, or none if there is no such file to read. -/
def fileSource (files : Files) (path : String) : Except SettingsError (List (String × Setting)) :=
  match openFile files path with
  | .ok found => found.entries
  | .error _ => .ok []

/-! Variables. -/

def variableStart : List Char := ['v', 'a', 'l', 'i', 'd', 'a', 't', 'i', 'o', 'n', '_', '_']

/-- The text with a point for every pair of underscores. -/
def pointed : List Char → List Char
  | '_' :: '_' :: rest => '.' :: pointed rest
  | c :: rest => c :: pointed rest
  | [] => []

def variableKey? (name : String) : Option String :=
  let cs := (Unicode.lowercase name).toList
  if variableStart.isPrefixOf cs then
    some (String.ofList (pointed (cs.drop variableStart.length)))
  else none

/-- The value of a variable: a truth value, a number, or else its text. -/
def variableValue (text : String) : Setting :=
  let lower := Unicode.lowercase text
  if lower == "true" then .bool true
  else if lower == "false" then .bool false
  else
    match Literal.integer? text.toList, Literal.double? text.toList with
    | some i, _ => .integer i
    | none, some x => .float x
    | none, none => .text text

def variableSource (environment : List (String × String)) : List (String × Setting) :=
  environment.filterMap fun (name, text) =>
    (variableKey? name).map fun key => (key, variableValue text)

def variableNames : List String :=
  ["VALIDATION__MESSAGES__STRING", "VALIDATION__MESSAGES__NUMBER", "VALIDATION__MESSAGES__BOOLEAN",
    "VALIDATION__MESSAGES__ENUMERATION", "VALIDATION__MESSAGES__GENERIC",
    "VALIDATION__LOADER__MODELS_DIR", "VALIDATION__LOGGING__FILTER"]

/-! All of them. -/

/-- The places of files that may be missing, the lowest first. -/
def places : List String := ["validation.toml", ".validation.toml", "config/validation.toml"]

def userFile (userDirectory : String) : String := userDirectory ++ "/validation/validation.toml"

def candidates (userDirectory : String) (named : Option String) : List String :=
  (places ++ [userFile userDirectory] ++ named.toList).flatMap fun path =>
    path :: (extended path).map Prod.fst

/-- The sources of settings, the lowest first. -/
def sources (s : Surroundings) (named : Option String) :
    Except SettingsError (List (List (String × Setting))) := do
  let common ← places.mapM (fileSource s.files)
  let user ← if s.files.contains (userFile s.userDirectory)
    then fileSource s.files (userFile s.userDirectory) else pure []
  let explicit ← match named with
    | some path => namedSource s.files path
    | none => pure []
  return common ++ [user, explicit, variableSource s.environment]

def load (s : Surroundings) (named : Option String) : Except SettingsError Settings := do
  ofTable ((← sources s named).foldl Setting.layer [])

def save (settings : Settings) (files : Files) (path : String) : Except FileProblem Files :=
  files.save path settings.text

end Settings

end ModelForm
