import ModelForm.Regex.Tree
import ModelForm.Text.Units

/-!
From the text of a pattern to its tree. There is no tree for a text that is no
pattern; which rule it breaks is not told. In verbose patterns blanks and comments
between the parts are skipped.
-/

namespace ModelForm.Regex

/-- What is left of a pattern, whether blanks are skipped, and the names of groups so far. -/
structure Cursor where
  rest : List Char
  verbose : Bool
  names : List String
  deriving Inhabited

namespace Cursor

def blanksFrom (inComment : Bool) : List Char → List Char
  | [] => []
  | c :: rest =>
    if inComment then blanksFrom (c != '\n') rest
    else if Text.isWhiteSpace c then blanksFrom false rest
    else if c = '#' then blanksFrom true rest
    else c :: rest

def skipped (s : Cursor) (cs : List Char) : List Char :=
  if s.verbose then blanksFrom false cs else cs

def skip (s : Cursor) : Cursor := { s with rest := s.skipped s.rest }

def at_ (s : Cursor) (rest : List Char) : Cursor := { s with rest }

def past (s : Cursor) (rest : List Char) : Cursor := { s with rest := s.skipped rest }

end Cursor

/-! Escapes. -/

def isMeta (c : Char) : Bool :=
  "\\.+*?()|[]\x7b\x7d^$#&-~".toList.contains c

/-- Characters that may be escaped though they mean themselves anyway. -/
def isEscapable (c : Char) : Bool :=
  isMeta c || (c.toNat < 0x80 && !c.isAlphanum && c != '<' && c != '>')

def hexValue? (c : Char) : Option Nat :=
  if c.isDigit then some (c.toNat - '0'.toNat)
  else if 'a' ≤ c ∧ c ≤ 'f' then some (c.toNat - 'a'.toNat + 10)
  else if 'A' ≤ c ∧ c ≤ 'F' then some (c.toNat - 'A'.toNat + 10)
  else none

def charOfCode? (n : Nat) : Option Char :=
  if n < 0xD800 ∨ (0xE000 ≤ n ∧ n ≤ 0x10FFFF) then some (Char.ofNat n) else none

def readHexDigits : Nat → Nat → Cursor → Option (Nat × Cursor)
  | 0, n, s => some (n, s)
  | count + 1, n, s =>
    match s.rest with
    | [] => none
    | c :: rest => do readHexDigits count (n * 16 + (← hexValue? c)) (s.past rest)

def readHexBraced : Nat → Option Nat → Cursor → Option (Nat × Cursor)
  | 0, _, _ => none
  | fuel + 1, n, s =>
    match s.rest with
    | [] => none
    | '\x7d' :: rest => n.map fun n => (n, s.past rest)
    | c :: rest => do readHexBraced fuel (some (n.getD 0 * 16 + (← hexValue? c))) (s.past rest)

/-- A character given by its code; `count` digits are expected without braces, and two of them may
mean a byte. -/
def readHex (count : Nat) (s : Cursor) : Option (Char × Bool × Cursor) := do
  let s := s.skip
  match s.rest with
  | '\x7b' :: rest =>
    let (n, s) ← readHexBraced (rest.length + 1) none (s.past rest)
    return (← charOfCode? n, false, s)
  | _ =>
    let (n, s) ← readHexDigits count 0 s
    return (← charOfCode? n, count == 2, s)

def readBraced : Nat → List Char → Cursor → Option (List Char × Cursor)
  | 0, _, _ => none
  | fuel + 1, done, s =>
    match s.rest with
    | [] => none
    | '\x7d' :: rest => some (done.reverse, s.at_ rest)
    | c :: rest => readBraced fuel (c :: done) (s.past rest)

def splitAt? (mark : List Char) : List Char → Option (List Char × List Char)
  | [] => none
  | c :: rest =>
    if mark.isPrefixOf (c :: rest) then some ([], (c :: rest).drop mark.length)
    else (splitAt? mark rest).map fun (a, b) => (c :: a, b)

def readProperty (negated : Bool) (s : Cursor) : Option (ClassTree × Cursor) :=
  let s := s.skip
  match s.rest with
  | [] => none
  | '\\' :: _ => none
  | '\x7b' :: rest => do
    let (text, s) ← readBraced (rest.length + 1) [] (s.past rest)
    let named (parts : List Char × List Char) (negated : Bool) : ClassTree :=
      .propertyValue (String.ofList parts.1) (String.ofList parts.2) negated
    match splitAt? ['!', '='] text, splitAt? [':'] text, splitAt? ['='] text with
    | some parts, _, _ => return (named parts !negated, s)
    | none, some parts, _ => return (named parts negated, s)
    | none, none, some parts => return (named parts negated, s)
    | none, none, none => return (.property (String.ofList text) negated, s)
  | c :: rest => some (.property (String.ofList [c]) negated, s.past rest)

inductive Primitive where
  | char (c : Char) (byte : Bool)
  | set (items : ClassTree)
  | assertion (tree : Tree)
  deriving Inhabited

/-- A name in braces after `\b`, unless the braces hold a count. -/
def readBoundaryName : Nat → List Char → Cursor → Option (List Char × Cursor)
  | 0, _, _ => none
  | fuel + 1, done, s =>
    match s.rest with
    | [] => none
    | '\x7d' :: rest => some (done.reverse, s.at_ rest)
    | c :: rest =>
      if c.isAlpha || c == '-' then readBoundaryName fuel (c :: done) (s.past rest) else none

def boundaryNamed? (name : List Char) : Option (Bool → Look) :=
  match String.ofList name with
  | "start" => some .wordStart
  | "end" => some .wordEnd
  | "start-half" => some .wordStartHalf
  | "end-half" => some .wordEndHalf
  | _ => none

def readBoundary (s : Cursor) : Option (Primitive × Cursor) :=
  match s.rest with
  | '\x7b' :: rest =>
    match (s.past rest).rest with
    | [] => none
    | c :: _ =>
      if c.isAlpha || c == '-' then do
        let (name, after) ← readBoundaryName (rest.length + 1) [] (s.past rest)
        return (.assertion (.look (← boundaryNamed? name)), after)
      else some (.assertion (.look .wordBoundary), s)
  | _ => some (.assertion (.look .wordBoundary), s)

def readEscape (s : Cursor) : Option (Primitive × Cursor) :=
  match s.rest with
  | [] => none
  | c :: rest =>
    let s := s.at_ rest
    let plain (c : Char) : Option (Primitive × Cursor) := some (.char c false, s)
    let hex (count : Nat) : Option (Primitive × Cursor) :=
      (readHex count s).map fun (c, byte, s) => (.char c byte, s)
    let perl (kind : PerlClass) (negated : Bool) : Option (Primitive × Cursor) :=
      some (.set (.perl kind negated), s)
    let assertion (tree : Tree) : Option (Primitive × Cursor) := some (.assertion tree, s)
    let property (negated : Bool) : Option (Primitive × Cursor) :=
      (readProperty negated s).map fun (items, s) => (.set items, s)
    match c with
    | 'x' => hex 2
    | 'u' => hex 4
    | 'U' => hex 8
    | 'p' => property false
    | 'P' => property true
    | 'd' => perl .digit false
    | 'D' => perl .digit true
    | 's' => perl .space false
    | 'S' => perl .space true
    | 'w' => perl .word false
    | 'W' => perl .word true
    | 'a' => plain '\x07'
    | 'f' => plain '\x0c'
    | 't' => plain '\t'
    | 'n' => plain '\n'
    | 'r' => plain '\r'
    | 'v' => plain '\x0b'
    | 'A' => assertion (.look fun _ => .textStart)
    | 'z' => assertion (.look fun _ => .textEnd)
    | 'b' => readBoundary s
    | 'B' => assertion (.look .notWordBoundary)
    | '<' => assertion (.look .wordStart)
    | '>' => assertion (.look .wordEnd)
    | c => if isEscapable c then plain c else none

/-! Sets in brackets. -/

def asciiClassNames : List String :=
  ["alnum", "alpha", "ascii", "blank", "cntrl", "digit", "graph", "lower", "print", "punct",
    "space", "upper", "word", "xdigit"]

def readAsciiClass? (cs : List Char) : Option (ClassTree × List Char) :=
  match cs with
  | ':' :: rest =>
    let (negated, rest) := match rest with
      | '^' :: rest => (true, rest)
      | rest => (false, rest)
    let (name, rest) := rest.span (· != ':')
    match rest with
    | ':' :: ']' :: after =>
      if asciiClassNames.contains (String.ofList name) then
        some (.ascii (String.ofList name) negated, after)
      else none
    | _ => none
  | _ => none

def readClassItem (s : Cursor) : Option (ClassTree × Cursor) :=
  match s.rest with
  | [] => none
  | '\\' :: rest =>
    match readEscape (s.at_ rest) with
    | some (.char c byte, s) => some (.char c byte, s)
    | some (.set items, s) => some (items, s)
    | _ => none
  | c :: rest => some (.char c false, s.at_ rest)

def rangeOf? : ClassTree → ClassTree → Option ClassTree
  | .char first _, .char last _ => if first ≤ last then some (.range first last) else none
  | _, _ => none

/-- An item of a set, or a range. A hyphen before a bracket or another hyphen is no range. -/
def readClassRange (s : Cursor) : Option (ClassTree × Cursor) := do
  let (first, s) ← readClassItem s
  let s := s.skip
  match s.rest with
  | [] => none
  | '-' :: rest =>
    match s.skipped rest with
    | ']' :: _ => return (first, s)
    | '-' :: _ => return (first, s)
    | [] => none
    | after =>
      let (last, s) ← readClassItem (s.at_ after)
      return (← rangeOf? first last, s)
  | _ => return (first, s)

def readHyphens : Nat → Cursor → List ClassTree × Cursor
  | 0, s => ([], s)
  | fuel + 1, s =>
    match s.rest with
    | '-' :: rest =>
      let (items, s) := readHyphens fuel (s.past rest)
      (.char '-' false :: items, s)
    | _ => ([], s)

/-- What stands between the opening bracket and the first item proper: a negation, hyphens, or a
closing bracket that means itself. -/
def readClassOpening (s : Cursor) : Option (Bool × List ClassTree × Cursor) :=
  let s := s.skip
  let (negated, s) := match s.rest with
    | '^' :: rest => (true, s.past rest)
    | _ => (false, s)
  let (hyphens, s) := readHyphens s.rest.length s
  match hyphens, s.rest with
  | _, [] => none
  | [], ']' :: rest =>
    let s := s.past rest
    if s.rest.isEmpty then none else some (negated, [.char ']' false], s)
  | hyphens, _ => some (negated, hyphens, s)

/-- Joins the items read since the last operator with what stands in front of it. -/
def closeOperand (left : Option (SetOp × ClassTree)) (items : List ClassTree) : ClassTree :=
  match left with
  | none => ClassTree.ofItems items.reverse
  | some (kind, tree) => .op kind tree (ClassTree.ofItems items.reverse)

mutual

def readClass : Nat → Cursor → Option (ClassTree × Cursor)
  | 0, _ => none
  | fuel + 1, s => do
    let (negated, items, s) ← readClassOpening s
    let (body, s) ← readClassItems fuel none items.reverse s
    return (.bracketed negated body, s)

/-- The items of a set up to its closing bracket; those already read stand last one first. -/
def readClassItems : Nat → Option (SetOp × ClassTree) → List ClassTree → Cursor →
    Option (ClassTree × Cursor)
  | 0, _, _, _ => none
  | fuel + 1, left, items, s =>
    let s := s.skip
    match s.rest with
    | [] => none
    | ']' :: rest => some (closeOperand left items, s.at_ rest)
    | '[' :: rest =>
      match readAsciiClass? rest with
      | some (item, after) => readClassItems fuel left (item :: items) (s.at_ after)
      | none => do
        let (item, s) ← readClass fuel (s.at_ rest)
        readClassItems fuel left (item :: items) s
    | '&' :: '&' :: rest =>
      readClassItems fuel (some (.intersection, closeOperand left items)) [] (s.at_ rest)
    | '-' :: '-' :: rest =>
      readClassItems fuel (some (.difference, closeOperand left items)) [] (s.at_ rest)
    | '~' :: '~' :: rest =>
      readClassItems fuel (some (.symmetricDifference, closeOperand left items)) [] (s.at_ rest)
    | _ => do
      let (item, s) ← readClassRange s
      readClassItems fuel left (item :: items) s

end

/-! Groups and repetitions. -/

def flagOf? : Char → Option Flag
  | 'i' => some .caseInsensitive
  | 'm' => some .multiLine
  | 's' => some .dotMatchesNewline
  | 'U' => some .swapGreed
  | 'u' => some .unicode
  | 'R' => some .crlf
  | 'x' => some .verbose
  | _ => none

/-- The flags of a group up to a colon or a closing bracket; each may be named once, and a minus
sign needs flags after it. -/
def readFlags (off : Bool) (change : FlagChange) : List Char → Option (FlagChange × Bool × List Char)
  | [] => none
  | ':' :: rest => if off && change.off.isEmpty then none else some (change, true, rest)
  | ')' :: rest => if off && change.off.isEmpty then none else some (change, false, rest)
  | '-' :: rest => if off then none else readFlags true change rest
  | c :: rest =>
    match flagOf? c with
    | none => none
    | some flag =>
      if change.on.contains flag || change.off.contains flag then none
      else readFlags off
        (if off then { change with off := flag :: change.off }
          else { change with on := flag :: change.on }) rest

def letters : CharSet := (Unicode.property? "alphabetic").getD CharSet.empty

def numerals : CharSet := (Unicode.category? "n").getD CharSet.empty

def isNameStart (c : Char) : Bool := c == '_' || letters.contains c

def isNameChar (c : Char) : Bool :=
  isNameStart c || c == '.' || c == '[' || c == ']' || numerals.contains c

def readGroupName (s : Cursor) : Option Cursor :=
  let (name, rest) := s.rest.span (· != '>')
  match name, rest with
  | first :: others, '>' :: rest =>
    let text := String.ofList name
    if isNameStart first && others.all isNameChar && !s.names.contains text then
      some { s with rest, names := text :: s.names }
    else none
  | _, _ => none

inductive Opening where
  | flags (change : FlagChange)
  | group (change : FlagChange)

def isLookAround (cs : List Char) : Bool :=
  [['?', '='], ['?', '!'], ['?', '<', '='], ['?', '<', '!']].any fun mark => mark.isPrefixOf cs

def readOpening (s : Cursor) : Option (Opening × Cursor) :=
  let s := s.skip
  if isLookAround s.rest then none
  else match s.rest with
    | '?' :: 'P' :: '<' :: rest =>
      (readGroupName (s.at_ rest)).map fun s => (.group FlagChange.none, s)
    | '?' :: '<' :: rest =>
      (readGroupName (s.at_ rest)).map fun s => (.group FlagChange.none, s)
    | '?' :: rest => do
      let (change, opens, rest) ← readFlags false FlagChange.none rest
      if opens then return (.group change, s.at_ rest)
      else if change.on.isEmpty && change.off.isEmpty then none
      else return (.flags change, s.at_ rest)
    | _ => some (.group FlagChange.none, s)

/-- Whether a part can be repeated: there has to be one, and it is not a change of flags. -/
def repeatable? : List Tree → Option (Tree × List Tree)
  | [] => none
  | .empty :: _ => none
  | .flags _ :: _ => none
  | part :: parts => some (part, parts)

/-- A decimal number below 2^32 between blanks. -/
def readCount (s : Cursor) : Option Nat × Cursor :=
  let s := { s with rest := Text.trimStart s.rest }
  let (digits, s) := digitsOf s.rest.length s
  let s := { s with rest := Text.trimStart s.rest }
  let n := digits.foldl (fun n c => n * 10 + (c.toNat - '0'.toNat)) 0
  (if digits.isEmpty || Nat.pow 2 32 ≤ n then none else some n, s)
where
  digitsOf : Nat → Cursor → List Char × Cursor
    | 0, s => ([], s)
    | fuel + 1, s =>
      match s.rest with
      | c :: rest =>
        if c.isDigit then
          let (digits, s) := digitsOf fuel (s.past rest)
          (c :: digits, s)
        else ([], s)
      | [] => ([], s)

def readBounds (s : Cursor) : Option (Nat × Option Nat × Cursor) :=
  let (least, s) := readCount s.skip
  match s.rest with
  | '\x7d' :: rest => least.map fun n => (n, some n, s.at_ rest)
  | ',' :: rest =>
    let s := s.past rest
    match s.rest with
    | '\x7d' :: rest => least.map fun n => (n, none, s.at_ rest)
    | _ => do
      let low ← least
      let (most, s) := readCount s
      let high ← most
      match s.rest with
      | '\x7d' :: rest => if low ≤ high then return (low, some high, s.at_ rest) else none
      | _ => none
  | _ => none

/-- A question mark after a repetition changes only which match is preferred. -/
def dropLazy (cs : List Char) : List Char :=
  match cs with
  | '?' :: rest => rest
  | other => other

def Primitive.tree : Primitive → Tree
  | .char c byte => .char c byte
  | .set items => .set items
  | .assertion tree => tree

/-- The body of a group, or the whole pattern, up to a closing bracket or the end. Parts and
branches already read stand last one first. -/
def readBody : Nat → List Tree → List Tree → Cursor → Option (Tree × Cursor)
  | 0, _, _, _ => none
  | fuel + 1, branches, parts, s =>
    let s := s.skip
    let finish : Option (Tree × Cursor) :=
      some (Tree.ofBranches (Tree.ofParts parts.reverse :: branches).reverse, s)
    let repeated (least : Nat) (most : Option Nat) (s : Cursor) : Option (Tree × Cursor) := do
      let (part, parts) ← repeatable? parts
      readBody fuel branches (.times part least most :: parts) s
    match s.rest with
    | [] => finish
    | ')' :: _ => finish
    | '|' :: rest => readBody fuel (Tree.ofParts parts.reverse :: branches) [] (s.at_ rest)
    | '(' :: rest => do
      match ← readOpening (s.at_ rest) with
      | (.flags change, after) =>
        readBody fuel branches (.flags change :: parts)
          { after with verbose := change.apply .verbose after.verbose }
      | (.group change, after) =>
        let (body, after) ← readBody fuel [] []
          { after with verbose := change.apply .verbose after.verbose }
        match after.rest with
        | ')' :: rest =>
          readBody fuel branches (.group change body :: parts)
            { after with rest, verbose := s.verbose }
        | _ => none
    | '[' :: rest => do
      let (items, s) ← readClass (rest.length + 1) (s.at_ rest)
      readBody fuel branches (.set items :: parts) s
    | '?' :: rest => repeated 0 (some 1) (s.at_ (dropLazy rest))
    | '*' :: rest => repeated 0 none (s.at_ (dropLazy rest))
    | '+' :: rest => repeated 1 none (s.at_ (dropLazy rest))
    | '\x7b' :: rest => do
      let (least, most, s) ← readBounds (s.at_ rest)
      repeated least most (s.at_ (dropLazy (s.skipped s.rest)))
    | '\\' :: rest => do
      let (part, s) ← readEscape (s.at_ rest)
      readBody fuel branches (part.tree :: parts) s
    | '.' :: rest => readBody fuel branches (.dot :: parts) (s.at_ rest)
    | '^' :: rest => readBody fuel branches (.lineStart :: parts) (s.at_ rest)
    | '$' :: rest => readBody fuel branches (.lineEnd :: parts) (s.at_ rest)
    | c :: rest => readBody fuel branches (.char c false :: parts) (s.at_ rest)

def nestLimit : Nat := 250

def Tree.ofText? (text : String) : Option Tree := do
  let cs := text.toList
  let (tree, s) ← readBody (cs.length + 1) [] [] ⟨cs, false, []⟩
  if s.rest.isEmpty && tree.depth ≤ nestLimit then return tree else none

end ModelForm.Regex
