import ModelForm.Toml.Document
import ModelForm.Toml.Scalar
import ModelForm.Toml.Text

/-!
Reading settings files: lines with a key and its value, and headers that say to which
table the lines after them belong. Values nest to a depth of less than eighty.
-/

namespace ModelForm.Toml

/-! Blanks and comments. -/

/-- Skips blanks, line ends and comments; `within` a comment at first. -/
def skipVoid : Bool → List Char → Option (List Char)
  | _, [] => some []
  | _, '\n' :: rest => skipVoid false rest
  | _, '\r' :: '\n' :: rest => skipVoid false rest
  | true, c :: rest => if isPlain c then skipVoid true rest else none
  | false, c :: rest =>
    if c = '#' then skipVoid true rest
    else if isSpace c then skipVoid false rest
    else some (c :: rest)

def finishLine (cs : List Char) : Option (List Char) :=
  let end? (cs : List Char) : Option (List Char) := if cs.isEmpty then some [] else lineEnd? cs
  match skipSpace cs with
  | '#' :: rest => end? (rest.dropWhile isPlain)
  | rest => end? rest

/-! Keys. -/

def isBareKeyChar (c : Char) : Bool := c.isAlphanum || c == '_' || c == '-'

def readSimpleKey (cs : List Char) : Option (String × List Char) :=
  match readQuoted cs with
  | some r => some r
  | none =>
    let name := cs.takeWhile isBareKeyChar
    if name.isEmpty then none else some (String.ofList name, cs.dropWhile isBareKeyChar)

def readKey : Nat → List Char → Option (List String × List Char)
  | 0, _ => none
  | fuel + 1, cs =>
    match readSimpleKey (skipSpace cs) with
    | none => none
    | some (name, rest) =>
      match skipSpace rest with
      | '.' :: rest => (readKey fuel rest).map fun r => (name :: r.1, r.2)
      | rest => some ([name], rest)

/-! Values. -/

def depthLimit : Nat := 80

mutual

/-- A value at the start of a text; `depth` counts the values around it. -/
def readValue : Nat → Nat → List Char → Option (Setting × List Char)
  | 0, _, _ => none
  | fuel + 1, depth, cs =>
    match cs with
    | '"' :: _ => (readText cs).map fun r => (.text r.1, r.2)
    | '\'' :: _ => (readText cs).map fun r => (.text r.1, r.2)
    | '[' :: rest =>
      if depth + 1 < depthLimit then
        (readItems fuel (depth + 1) rest).map fun r => (.list r.1, r.2)
      else none
    | '\x7b' :: rest =>
      if depth + 1 < depthLimit then
        match skipSpace rest with
        | '\x7d' :: rest => some (.table [], rest)
        | rest =>
          match readPairs fuel (depth + 1) rest with
          | some (pairs, rest) => (Entries.ofPairs pairs).map fun v => (v, rest)
          | none => none
      else none
    | _ =>
      let (word, rest) := readWord cs
      (scalar? word).map fun v => (v, rest)

def readItems : Nat → Nat → List Char → Option (List Setting × List Char)
  | 0, _, _ => none
  | fuel + 1, depth, cs =>
    match skipVoid false cs with
    | none => none
    | some (']' :: rest) => some ([], rest)
    | some cs =>
      match readValue fuel depth cs with
      | none => none
      | some (item, rest) =>
        match skipVoid false rest with
        | some (',' :: rest) => (readItems fuel depth rest).map fun r => (item :: r.1, r.2)
        | some (']' :: rest) => some ([item], rest)
        | _ => none

def readPairs : Nat → Nat → List Char → Option (List (List String × Setting) × List Char)
  | 0, _, _ => none
  | fuel + 1, depth, cs =>
    match readKey (cs.length + 1) cs with
    | some (key, '=' :: rest) =>
      match readValue fuel depth (skipSpace rest) with
      | none => none
      | some (value, rest) =>
        match skipSpace rest with
        | ',' :: rest => (readPairs fuel depth rest).map fun r => ((key, value) :: r.1, r.2)
        | '\x7d' :: rest => some ([(key, value)], rest)
        | _ => none
    | _ => none

end

/-! Lines. -/

/-- A file as far as it is read: its root, and the table to which lines belong. -/
structure Progress where
  root : Entries := []
  current : List String := []
  deriving Inhabited

def readBracket : List Char → Option (List Char)
  | ']' :: rest => some rest
  | _ => none

/-- A header from after its opening brackets to the end of its line. -/
def readHeader (several : Bool) (cs : List Char) (p : Progress) : Option (Progress × List Char) := do
  let (key, rest) ← readKey (cs.length + 1) cs
  let rest ← readBracket rest
  let rest ← if several then readBracket rest else some rest
  let rest ← finishLine rest
  let change := if several then Entries.append else Entries.define
  let last ← key.getLast?
  let root ← Entries.within (change last) key.dropLast p.root
  return ({ root, current := key }, rest)

def readPair (cs : List Char) (p : Progress) : Option (Progress × List Char) := do
  let (key, rest) ← readKey (cs.length + 1) cs
  match rest with
  | '=' :: rest =>
    let (value, rest) ← readValue (2 * rest.length + 2) 0 (skipSpace rest)
    let rest ← finishLine rest
    let root ← Entries.within (Entries.assign value key) p.current p.root
    return ({ p with root }, rest)
  | _ => none

def readLines : Nat → Progress → List Char → Option Progress
  | 0, _, _ => none
  | fuel + 1, p, cs =>
    match skipVoid false cs with
    | none => none
    | some [] => some p
    | some ('[' :: '[' :: rest) =>
      (readHeader true rest p).bind fun (p, rest) => readLines fuel p rest
    | some ('[' :: rest) => (readHeader false rest p).bind fun (p, rest) => readLines fuel p rest
    | some cs => (readPair cs p).bind fun (p, rest) => readLines fuel p rest

def table? (text : String) : Option Setting.Table :=
  let cs := text.toList
  (readLines (cs.length + 1) {} cs).map fun p => settings p.root

end ModelForm.Toml
