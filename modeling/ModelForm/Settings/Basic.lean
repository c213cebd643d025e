import ModelForm.Files.Path
import ModelForm.Messages
import ModelForm.Settings.Value
import ModelForm.Toml.Text

/-!
The settings themselves: messages, where models are, and what is logged. They are read
from a table that all sources make up together, and are written as a file that reads
back. A scalar of another type stands for its text.
-/

namespace ModelForm

inductive SettingsError where
  | missingFile (path : String)
  | unknownFormat (path : String)
  | malformed (path : String)
  | noText (found : Setting)
  | noSection (found : Setting)
  deriving Repr, Inhabited

namespace Setting

def describe : Setting → String
  | .absent => "unit value"
  | .bool _ => "boolean"
  | .integer _ => "integer"
  | .float _ => "floating point"
  | .text _ => "string"
  | .list _ => "sequence"
  | .table _ => "map"

end Setting

namespace SettingsError

def message : SettingsError → String
  | .missingFile path => "configuration file \"" ++ path ++ "\" not found"
  | .unknownFormat path =>
    "configuration file \"" ++ path ++ "\" is not of a registered file format"
  | .malformed path => "malformed configuration file \"" ++ path ++ "\""
  | .noText found => "invalid type: " ++ found.describe ++ ", expected a string"
  | .noSection found => "invalid type: " ++ found.describe ++ ", expected a section"

end SettingsError

namespace Setting

def asText : Setting → Except SettingsError String
  | .text s => .ok s
  | .bool b => .ok (if b then "true" else "false")
  | .integer i => .ok (toString i)
  | .float x => .ok x.inSentence
  | found => .error (.noText found)

def asText? : Option Setting → Except SettingsError (Option String)
  | none => .ok none
  | some .absent => .ok none
  | some v => v.asText.map some

def asTextOr (default : String) : Option Setting → Except SettingsError String
  | none => .ok default
  | some v => v.asText

/-- A member of a section, which is found by its key, or by its place if the section is a list. -/
def member? (key : String) (place : Nat) : Option Setting → Except SettingsError (Option Setting)
  | none => .ok none
  | some (.table entries) => .ok (Table.get? entries key)
  | some (.list items) => .ok items[place]?
  | some found => .error (.noSection found)

end Setting

structure Settings where
  messages : Messages := {}
  modelsDirectory : Option String := none
  filter : String := "info"
  deriving DecidableEq, Repr, Inhabited

namespace Settings

open Setting (asText? asTextOr member?)

def readMessages (found : Option Setting) : Except SettingsError Messages := do
  return {
    string := ← asText? (← member? "string" 0 found)
    number := ← asText? (← member? "number" 1 found)
    boolean := ← asText? (← member? "boolean" 2 found)
    enumeration := ← asText? (← member? "enumeration" 3 found)
    generic := ← asTextOr genericMessage (← member? "generic" 4 found) }

/-- The settings that a table holds. What is not in it keeps its default. -/
def ofTable (t : Setting.Table) : Except SettingsError Settings := do
  return {
    messages := ← readMessages (t.get? "messages")
    modelsDirectory := ← asText? (← member? "models_dir" 0 (t.get? "loader"))
    filter := ← asTextOr "info" (← member? "filter" 0 (t.get? "logging")) }

def modelsDirectoryFrom (s : Settings) (directory : String) : Option String :=
  s.modelsDirectory.map (Path.seenFrom directory)

def line (key : String) (value : Option String) : String :=
  match value with
  | some v => key ++ " = " ++ Toml.quoted v ++ "\n"
  | none => ""

def text (s : Settings) : String :=
  "[messages]\n" ++ line "string" s.messages.string ++ line "number" s.messages.number ++
    line "boolean" s.messages.boolean ++ line "enumeration" s.messages.enumeration ++
    line "generic" (some s.messages.generic) ++
    "\n[loader]\n" ++ line "models_dir" s.modelsDirectory ++
    "\n[logging]\n" ++ line "filter" (some s.filter)

end Settings

end ModelForm
