import ModelForm.Regex.Tree
import ModelForm.Unicode.Script
import ModelForm.Unicode.Case
import ModelForm.Text.Units

/-!
From the tree of a pattern to the expression it stands for. Flags hold from where they
are set to the end of their group. Without the Unicode flag only sets of ASCII
characters are allowed, since texts are never cut inside a character.

Of the properties that have values, categories, scripts and script extensions are known.
Ages and the classes at boundaries of graphemes, words and sentences are left out, and a
pattern that names one of them counts as no pattern.
-/

namespace ModelForm.Regex

structure Flags where
  caseInsensitive : Bool := false
  multiLine : Bool := false
  dotMatchesNewline : Bool := false
  unicode : Bool := true
  crlf : Bool := false
  deriving DecidableEq, Repr, Inhabited

namespace Flags

def change (f : Flags) (c : FlagChange) : Flags where
  caseInsensitive := c.apply .caseInsensitive f.caseInsensitive
  multiLine := c.apply .multiLine f.multiLine
  dotMatchesNewline := c.apply .dotMatchesNewline f.dotMatchesNewline
  unicode := c.apply .unicode f.unicode
  crlf := c.apply .crlf f.crlf

end Flags

/-! Names of properties. -/

/-- Names are compared without blanks, hyphens, underscores and letter case, and without a
leading `is`. -/
def looseName (name : String) : String :=
  let cs := name.toList.map Char.toLower
  let (stripped, rest) := match cs with
    | 'i' :: 's' :: rest => (true, rest)
    | other => (false, other)
  let kept := rest.filter fun c =>
    c != ' ' && c != '_' && c != '-' && c.toNat < 0x80
  if stripped && kept == ['c'] then "isc" else String.ofList kept

/-- A category by its loose name, or one of the three sets that are no category proper. -/
def categoryNamed? (name : String) : Option CharSet :=
  match name with
  | "any" => some CharSet.full
  | "ascii" => some (CharSet.range 0 0x7F)
  | "assigned" => (Unicode.category? "cn").map CharSet.complement
  | name => Unicode.category? name

def propertyNamed? (name : String) : Option CharSet :=
  let name := looseName name
  let category := (categoryNamed? name).orElse fun _ => Unicode.script? name
  if name == "cf" || name == "sc" || name == "lc" then category
  else (Unicode.property? name).orElse fun _ => category

def propertyValueNamed? (name value : String) : Option CharSet :=
  let value := looseName value
  match looseName name with
  | "gc" => categoryNamed? value
  | "generalcategory" => categoryNamed? value
  | "sc" => Unicode.script? value
  | "script" => Unicode.script? value
  | "scx" => Unicode.scriptExtension? value
  | "scriptextensions" => Unicode.scriptExtension? value
  | _ => none

/-! Sets. -/

def blankAscii : CharSet := CharSet.ofRanges [(0x09, 0x0D), (0x20, 0x20)]

def digitAscii : CharSet := CharSet.range 0x30 0x39

def PerlClass.set (unicode : Bool) : PerlClass → CharSet
  | .digit => if unicode then Unicode.decimalDigits else digitAscii
  | .space => if unicode then ⟨Text.whiteSpaceRanges⟩ else blankAscii
  | .word => if unicode then Unicode.wordCharacters else asciiWord

def asciiClass (name : String) : CharSet :=
  CharSet.ofRanges <| match name with
    | "alnum" => [(0x30, 0x39), (0x41, 0x5A), (0x61, 0x7A)]
    | "alpha" => [(0x41, 0x5A), (0x61, 0x7A)]
    | "ascii" => [(0x00, 0x7F)]
    | "blank" => [(0x09, 0x09), (0x20, 0x20)]
    | "cntrl" => [(0x00, 0x1F), (0x7F, 0x7F)]
    | "digit" => [(0x30, 0x39)]
    | "graph" => [(0x21, 0x7E)]
    | "lower" => [(0x61, 0x7A)]
    | "print" => [(0x20, 0x7E)]
    | "punct" => [(0x21, 0x2F), (0x3A, 0x40), (0x5B, 0x60), (0x7B, 0x7E)]
    | "space" => [(0x09, 0x0D), (0x20, 0x20)]
    | "upper" => [(0x41, 0x5A)]
    | "word" => [(0x30, 0x39), (0x41, 0x5A), (0x5F, 0x5F), (0x61, 0x7A)]
    | "xdigit" => [(0x30, 0x39), (0x41, 0x46), (0x61, 0x66)]
    | _ => []

namespace Flags

def lastCode (f : Flags) : Nat := if f.unicode then CharSet.lastCode else 0xFF

def complement (f : Flags) (s : CharSet) : CharSet :=
  if f.unicode then s.complement else s.complement.intersect (CharSet.range 0 0xFF)

def negatedIf (f : Flags) (negated : Bool) (s : CharSet) : CharSet :=
  if negated then f.complement s else s

def asciiCounterparts (s : CharSet) (own other : Nat) : CharSet :=
  CharSet.ofRanges (((List.range 26).filter fun i => CharSet.holds s.ranges (other + i)).map
    fun i => (own + i, own + i))

def asciiCaseClosure (s : CharSet) : CharSet :=
  (s.union (asciiCounterparts s 0x41 0x61)).union (asciiCounterparts s 0x61 0x41)

/-- The set with its members of the other letter case, where the flags ask for them. -/
def fold (f : Flags) (s : CharSet) : CharSet :=
  if !f.caseInsensitive then s
  else if f.unicode then Unicode.closeUnderCase s
  else asciiCaseClosure s

def single? (f : Flags) (c : Char) : Option CharSet :=
  if f.unicode || c.toNat < 0x80 then some (CharSet.single c) else none

end Flags

def SetOp.apply (op : SetOp) (f : Flags) (s t : CharSet) : CharSet :=
  match op with
  | .intersection => s.intersect t
  | .difference => s.intersect (f.complement t)
  | .symmetricDifference => s.symmetricDifference t

mutual

/-- The characters of a written set; none if it uses what the flags forbid or an unknown name. -/
def ClassTree.set? (f : Flags) : ClassTree → Option CharSet
  | .nothing => some CharSet.empty
  | .char c _ => f.single? c
  | .range first last => do
    let _ ← f.single? first
    let _ ← f.single? last
    return CharSet.range first.toNat last.toNat
  | .perl kind negated => some (f.negatedIf negated (kind.set f.unicode))
  | .property name negated =>
    if f.unicode then (propertyNamed? name).map fun s => f.negatedIf negated (f.fold s) else none
  | .propertyValue name value negated =>
    if f.unicode then
      (propertyValueNamed? name value).map fun s => f.negatedIf negated (f.fold s)
    else none
  | .ascii name negated => some (f.negatedIf negated (f.fold (asciiClass name)))
  | .bracketed negated body => do
    let s ← body.set? f
    return f.negatedIf negated (f.fold s)
  | .union items => ClassTree.setItems? f items
  | .op kind left right => do
    let s ← left.set? f
    let t ← right.set? f
    return kind.apply f (f.fold s) (f.fold t)

def ClassTree.setItems? (f : Flags) : List ClassTree → Option CharSet
  | [] => some CharSet.empty
  | item :: rest => do
    let s ← item.set? f
    let t ← ClassTree.setItems? f rest
    return s.union t

end

/-- Without the Unicode flag a set may hold ASCII characters only. -/
def allowedSet? (f : Flags) (s : CharSet) : Option CharSet :=
  if f.unicode || (s.intersect (CharSet.range 0x80 CharSet.lastCode)).isEmpty then some s else none

def oneOf (s : CharSet) : Regex Atom := .leaf (.one s)

def dotSet (f : Flags) : CharSet :=
  if f.dotMatchesNewline then CharSet.full
  else if f.crlf then (CharSet.ofChars ['\n', '\r']).complement
  else (CharSet.single '\n').complement

mutual

/-- The expression of a tree, and the flags that hold after it. -/
def Tree.regex? (f : Flags) : Tree → Option (Regex Atom × Flags)
  | .empty => some (.empty, f)
  | .flags change => some (.empty, f.change change)
  | .char c byte =>
    if byte && !f.unicode && 0x80 ≤ c.toNat then none
    else some (oneOf (f.fold (CharSet.single c)), f)
  | .dot => if f.unicode then some (oneOf (dotSet f), f) else none
  | .lineStart =>
    some (.leaf (.look (if f.multiLine then .lineStart f.crlf else .textStart)), f)
  | .lineEnd => some (.leaf (.look (if f.multiLine then .lineEnd f.crlf else .textEnd)), f)
  | .look ofAscii => some (.leaf (.look (ofAscii !f.unicode)), f)
  | .set items => do
    let s ← items.set? f
    return (oneOf (← allowedSet? f s), f)
  | .group change body => do
    let (r, _) ← body.regex? (f.change change)
    return (r, f)
  | .concat parts => Tree.regexParts? f parts
  | .alternation branches => Tree.regexBranches? f branches
  | .times body least most => do
    let (r, f) ← body.regex? f
    return (.times r least most, f)

def Tree.regexParts? (f : Flags) : List Tree → Option (Regex Atom × Flags)
  | [] => some (.empty, f)
  | [part] => part.regex? f
  | part :: rest => do
    let (r, f) ← part.regex? f
    let (s, f) ← Tree.regexParts? f rest
    return (.concat r s, f)

def Tree.regexBranches? (f : Flags) : List Tree → Option (Regex Atom × Flags)
  | [] => some (.empty, f)
  | [branch] => branch.regex? f
  | branch :: rest => do
    let (r, f) ← branch.regex? f
    let (s, f) ← Tree.regexBranches? f rest
    return (.either r s, f)

end

end ModelForm.Regex
