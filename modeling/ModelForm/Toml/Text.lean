import ModelForm.Json.Reader

/-!
Quoted texts in settings files. Between double quotes a backslash escapes; between single
quotes nothing does. Three quotes of a kind enclose several lines, and up to two more of
them before the closing three belong to the text. A line end within is one character,
however it is written.
-/

namespace ModelForm.Toml

def isPlain (c : Char) : Bool := c == '\t' || (0x20 ≤ c.toNat && c.toNat != 0x7F)

def isSpace (c : Char) : Bool := c == ' ' || c == '\t'

def skipSpace (cs : List Char) : List Char := cs.dropWhile isSpace

def readCode (count : Nat) (cs : List Char) : Option (Char × List Char) :=
  let digits := cs.take count
  match digits.mapM Document.hexValue? with
  | none => none
  | some values =>
    let code := values.foldl (fun n v => n * 16 + v) 0
    if digits.length = count ∧ code.isValidChar then some (Char.ofNat code, cs.drop count)
    else none

def readEscape : List Char → Option (Char × List Char)
  | 'b' :: rest => some ('\x08', rest)
  | 't' :: rest => some ('\t', rest)
  | 'n' :: rest => some ('\n', rest)
  | 'f' :: rest => some ('\x0c', rest)
  | 'r' :: rest => some ('\r', rest)
  | '"' :: rest => some ('"', rest)
  | '\\' :: rest => some ('\\', rest)
  | 'u' :: rest => readCode 4 rest
  | 'U' :: rest => readCode 8 rest
  | _ => none

def prepend (c : Char) (r : List Char × List Char) : List Char × List Char := (c :: r.1, r.2)

def readBasic : Nat → List Char → Option (List Char × List Char)
  | 0, _ => none
  | _, [] => none
  | fuel + 1, c :: rest =>
    if c = '"' then some ([], rest)
    else if c = '\\' then
      match readEscape rest with
      | some (e, rest) => (readBasic fuel rest).map (prepend e)
      | none => none
    else if isPlain c then (readBasic fuel rest).map (prepend c)
    else none

def readLiteral : List Char → Option (List Char × List Char)
  | [] => none
  | c :: rest =>
    if c = '\'' then some ([], rest)
    else if isPlain c then (readLiteral rest).map (prepend c)
    else none

def lineEnd? : List Char → Option (List Char)
  | '\n' :: rest => some rest
  | '\r' :: '\n' :: rest => some rest
  | _ => none

/-- The closing quotes of several lines, with those in front that belong to the text. -/
def readClosing (quote : Char) (cs : List Char) : Option (List Char × List Char) :=
  let count := min 5 (cs.takeWhile (· == quote)).length
  if count < 3 then none else some (List.replicate (count - 3) quote, cs.drop count)

def skipLines : List Char → List Char
  | '\n' :: rest => skipLines rest
  | '\r' :: '\n' :: rest => skipLines rest
  | ' ' :: rest => skipLines rest
  | '\t' :: rest => skipLines rest
  | cs => cs

/-- The text up to three double quotes. A backslash at the end of a line joins it to the next
text. -/
def readBasicLines : Nat → List Char → Option (List Char × List Char)
  | 0, _ => none
  | fuel + 1, cs =>
    match readClosing '"' cs, lineEnd? cs, cs with
    | some closing, _, _ => some closing
    | none, some rest, _ => (readBasicLines fuel rest).map (prepend '\n')
    | none, none, [] => none
    | none, none, c :: rest =>
      if c = '\\' then
        match lineEnd? (skipSpace rest), readEscape rest with
        | some rest, _ => readBasicLines fuel (skipLines rest)
        | none, some (e, rest) => (readBasicLines fuel rest).map (prepend e)
        | none, none => none
      else if isPlain c then (readBasicLines fuel rest).map (prepend c)
      else none

def readLiteralLines : Nat → List Char → Option (List Char × List Char)
  | 0, _ => none
  | fuel + 1, cs =>
    match readClosing '\'' cs, lineEnd? cs, cs with
    | some closing, _, _ => some closing
    | none, some rest, _ => (readLiteralLines fuel rest).map (prepend '\n')
    | none, none, [] => none
    | none, none, c :: rest =>
      if isPlain c then (readLiteralLines fuel rest).map (prepend c) else none

def dropLineEnd (cs : List Char) : List Char := (lineEnd? cs).getD cs

/-- A quoted text in one line, as keys may be. -/
def readQuoted : List Char → Option (String × List Char)
  | '"' :: rest => (readBasic (rest.length + 1) rest).map fun r => (String.ofList r.1, r.2)
  | '\'' :: rest => (readLiteral rest).map fun r => (String.ofList r.1, r.2)
  | _ => none

def readText (cs : List Char) : Option (String × List Char) :=
  match cs with
  | '"' :: '"' :: '"' :: rest =>
    (readBasicLines (rest.length + 1) (dropLineEnd rest)).map fun r => (String.ofList r.1, r.2)
  | '\'' :: '\'' :: '\'' :: rest =>
    (readLiteralLines (rest.length + 1) (dropLineEnd rest)).map fun r => (String.ofList r.1, r.2)
  | _ => readQuoted cs

/-! Writing. -/

def isControl (c : Char) : Bool := c.toNat < 0x20 || c.toNat == 0x7F

/-- The written form of a character between double quotes; a line end stays where there are
several lines. -/
def escaped (lines : Bool) (c : Char) : List Char :=
  match c with
  | '\x08' => ['\\', 'b']
  | '\t' => ['\\', 't']
  | '\n' => if lines then ['\n'] else ['\\', 'n']
  | '\x0c' => ['\\', 'f']
  | '\r' => ['\\', 'r']
  | '"' => ['\\', '"']
  | '\\' => ['\\', '\\']
  | c =>
    if isControl c then
      let digit (n : Nat) : Char := (Nat.digitChar n).toUpper
      ['\\', 'u', '0', '0', digit (c.toNat / 16), digit (c.toNat % 16)]
    else [c]

def longestRun : Nat → Nat → List Char → Nat
  | run, longest, [] => max run longest
  | run, longest, c :: rest =>
    if c = '\'' then longestRun (run + 1) longest rest else longestRun 0 (max run longest) rest

/-- Whether a text is better written as it is: it has what would be escaped, no control character
but tabs and line ends, and no single quotes that could be taken for closing ones. -/
def isBetterPlain (cs : List Char) : Bool :=
  cs.any (fun c => c == '"' || c == '\\') &&
    cs.all (fun c => c == '\t' || c == '\n' || !isControl c) &&
    longestRun 0 0 cs < 3 && cs.getLast? != some '\''

/-- The written form of a text: as it is between single quotes if that is better, and over several
lines if it has any. -/
def quoted (s : String) : String :=
  let cs := s.toList
  let lines := cs.contains '\n'
  let body :=
    if isBetterPlain cs then
      if lines then ['\'', '\'', '\'', '\n'] ++ cs ++ ['\'', '\'', '\'']
      else if cs.contains '\'' then ['\'', '\'', '\''] ++ cs ++ ['\'', '\'', '\'']
      else ['\''] ++ cs ++ ['\'']
    else if lines then ['"', '"', '"', '\n'] ++ cs.flatMap (escaped true) ++ ['"', '"', '"']
    else ['"'] ++ cs.flatMap (escaped false) ++ ['"']
  String.ofList body

end ModelForm.Toml
