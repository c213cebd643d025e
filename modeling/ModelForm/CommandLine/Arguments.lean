/-!
What the arguments of a command line ask for. Options carry one value each, attached to
them or as the next argument, and come at most once; a command has its own options.
-/

namespace ModelForm.CommandLine

structure Flag where
  letter : Char
  name : String
  deriving DecidableEq, Repr, Inhabited

inductive Misuse where
  | help
  | missingCommand
  | unknownCommand (name : String)
  | unexpected (argument : String)
  | repeated (flag : Flag)
  | noValue (flag : Flag)
  | missing (flag : Flag)
  deriving DecidableEq, Repr, Inhabited

inductive Command where
  | check (path : Option String)
  | validate (model input : String) (field : Option String)
  deriving DecidableEq, Repr, Inhabited

structure Invocation where
  settings : Option String
  command : Command
  deriving DecidableEq, Repr, Inhabited

namespace Flag

def settings : Flag := ⟨'c', "config"⟩

def model : Flag := ⟨'m', "model"⟩

def input : Flag := ⟨'i', "input"⟩

def field : Flag := ⟨'f', "field"⟩

def text (f : Flag) : String := "--" ++ f.name

end Flag

namespace Misuse

def message : Misuse → String
  | .help => "help was asked for"
  | .missingCommand => "a command is required"
  | .unknownCommand name => "unrecognized command '" ++ name ++ "'"
  | .unexpected argument => "unexpected argument '" ++ argument ++ "'"
  | .repeated flag => flag.text ++ " can be given only once"
  | .noValue flag => "a value is required for " ++ flag.text
  | .missing flag => flag.text ++ " is required"

end Misuse

def usage : String :=
  "Check model metadata and validate documents against it\n\n" ++
  "Usage: modelform [--config FILE] check [PATH]\n" ++
  "       modelform [--config FILE] validate --model FILE [--input FILE] [--field NAME]\n"

inductive Word where
  | plain
  | rest
  | help
  | option (flag : Flag)
  | valued (flag : Flag) (value : String)
  | strange
  deriving DecidableEq, Repr, Inhabited

/-- An option by name, with its value after an equals sign or without one. -/
def longWord (known : List Flag) (cs : List Char) : Word :=
  let name := String.ofList (cs.takeWhile (· ≠ '='))
  match known.find? (·.name == name), cs.dropWhile (· ≠ '=') with
  | some flag, [] => .option flag
  | some flag, _ :: value => .valued flag (String.ofList value)
  | none, [] => if name == "help" then .help else .strange
  | none, _ => .strange

/-- An option by letter, with its value right after it or without one. -/
def shortWord (known : List Flag) (letter : Char) (value : List Char) : Word :=
  match known.find? (·.letter == letter), value with
  | some flag, [] => .option flag
  | some flag, '=' :: value => .valued flag (String.ofList value)
  | some flag, value => .valued flag (String.ofList value)
  | none, _ => if letter = 'h' then .help else .strange

def wordOf (known : List Flag) (argument : String) : Word :=
  match argument.toList with
  | ['-', '-'] => .rest
  | '-' :: '-' :: name => longWord known name
  | '-' :: letter :: value => shortWord known letter value
  | _ => .plain

/-- Whether an argument can be the value of the option in front of it. -/
def isValue (argument : String) : Bool := wordOf [] argument == .plain

structure Given where
  options : List (Flag × String) := []
  plain : List String := []
  deriving DecidableEq, Repr, Inhabited

namespace Given

def value? (g : Given) (flag : Flag) : Option String :=
  (g.options.find? (·.1 == flag)).map Prod.snd

def add (g : Given) (flag : Flag) (value : String) : Except Misuse Given :=
  if (g.value? flag).isSome then .error (.repeated flag)
  else .ok { g with options := g.options ++ [(flag, value)] }

end Given

/-- Reads options from the left. With `several` the plain arguments between them are collected,
otherwise the first plain argument and all after it are. -/
def readGiven (known : List Flag) (several : Bool) (g : Given) : List String → Except Misuse Given
  | [] => .ok g
  | argument :: rest =>
    match wordOf known argument, rest with
    | .plain, rest =>
      if several then readGiven known several { g with plain := g.plain ++ [argument] } rest
      else .ok { g with plain := argument :: rest }
    | .rest, rest =>
      if several then .ok { g with plain := g.plain ++ rest } else .error (.unexpected argument)
    | .help, _ => .error .help
    | .strange, _ => .error (.unexpected argument)
    | .valued flag value, rest => do
      readGiven known several (← g.add flag value) rest
    | .option flag, value :: rest =>
      if isValue value then do
        readGiven known several (← g.add flag value) rest
      else .error (.noValue flag)
    | .option flag, [] => .error (.noValue flag)

def readCheck (arguments : List String) : Except Misuse Command := do
  let g ← readGiven [] true {} arguments
  match g.plain with
  | [] => return .check none
  | [path] => return .check (some path)
  | _ :: extra :: _ => throw (.unexpected extra)

def readValidate (arguments : List String) : Except Misuse Command := do
  let g ← readGiven [Flag.model, Flag.input, Flag.field] true {} arguments
  match g.plain, g.value? Flag.model with
  | extra :: _, _ => throw (.unexpected extra)
  | [], none => throw (.missing Flag.model)
  | [], some model => return .validate model ((g.value? Flag.input).getD "-") (g.value? Flag.field)

def readCommand : List String → Except Misuse Command
  | [] => .error .missingCommand
  | name :: arguments =>
    if name == "check" then readCheck arguments
    else if name == "validate" then readValidate arguments
    else if name == "help" then .error .help
    else .error (.unknownCommand name)

def readArguments (arguments : List String) : Except Misuse Invocation := do
  let g ← readGiven [Flag.settings] false {} arguments
  return { settings := g.value? Flag.settings, command := ← readCommand g.plain }

end ModelForm.CommandLine
