import ModelForm.CommandLine.Run
import ModelForm.Text.Bytes

/-!
The command line in its surroundings: reads the files that a command may ask for, runs
it, and writes what it has to say.
-/

namespace ModelForm.CommandLine

/-- Reads what is at a path. In a directory only models are of interest. -/
partial def readTree (path : String) : IO (Option FileTree) := do
  let place := (← IO.currentDir) / path
  if ← place.isDir then
    let mut entries : List (String × FileTree) := []
    for entry in ← place.readDir do
      if let some node ← readTree entry.path.toString then
        if (← entry.path.isDir) || Model.isModelPath [entry.fileName] then
          entries := (entry.fileName, node) :: entries
    return some (.directory entries)
  else if ← place.pathExists then
    try
      let bytes ← IO.FS.readBinFile place
      return some (match String.fromUTF8? bytes with
        | some text => .file text
        | none => .garbled (Text.remains bytes.toList))
    catch _ => return some .locked
  else return none

def lookAt (paths : List String) (files : Files) : IO Files := do
  let mut files := files
  for path in paths do
    let parts := files.partsOf path
    for count in List.range parts.length do
      let above := "/" ++ "/".intercalate (parts.take count)
      if !files.contains above then
        if ← ((← IO.currentDir) / above).isDir then
          files := files.put above (.directory [])
    if let some node ← readTree path then
      files := files.put path node
  return files

/-- Reads a stream to its end. -/
partial def readAll (stream : IO.FS.Stream) (read : ByteArray) : IO ByteArray := do
  let bytes ← stream.read 65536
  if bytes.isEmpty then return read else readAll stream (read ++ bytes)

def findUserDirectory : IO String := do
  match ← IO.getEnv "XDG_CONFIG_HOME", ← IO.getEnv "HOME" with
  | some directory, _ => return directory
  | none, some home => return home ++ "/.config"
  | none, none => return ""

def findVariables : IO (List (String × String)) := do
  let found ← Settings.variableNames.mapM fun name => return (name, ← IO.getEnv name)
  return found.filterMap fun (name, value) => value.map fun v => (name, v)

/-- The time that a model gets which does not say when it was created; no command shows it. -/
def someTime : Instant := ⟨1970, 1, 1, 0, 0, 0, 0⟩

def perform (i : Invocation) : IO UInt32 := do
  let here := (← IO.currentDir).toString
  let userDirectory ← findUserDirectory
  let empty : Files := ⟨.directory [], here⟩
  let files ← lookAt (Settings.candidates userDirectory i.settings) (empty.put here (.directory []))
  let before : Surroundings := { files, environment := ← findVariables, userDirectory }
  let settings := ((Settings.load before i.settings).toOption).getD {}
  let files ← lookAt (pathsOf settings here i.command) files
  let bytes ← match i.command with
    | .validate _ "-" _ => readAll (← IO.getStdin) ByteArray.empty
    | _ => pure ByteArray.empty
  let input := String.fromUTF8? bytes
  let result := run {
    surroundings := { before with files }
    input := input.getD ""
    inputProblem? := if input.isSome then none else some .noText
    now := someTime } i
  if let .error trouble := result then
    IO.eprint ("Error: " ++ trouble.message ++ "\n")
  let done := report result
  IO.print done.output
  return done.status.toUInt32

end ModelForm.CommandLine

def main (arguments : List String) : IO UInt32 := do
  match ModelForm.CommandLine.readArguments arguments with
  | .ok invocation => ModelForm.CommandLine.perform invocation
  | .error .help =>
    IO.print ModelForm.CommandLine.usage
    return 0
  | .error misuse =>
    IO.eprint ("error: " ++ misuse.message ++ "\n\n" ++ ModelForm.CommandLine.usage)
    return 2
