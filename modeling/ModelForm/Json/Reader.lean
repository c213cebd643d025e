import ModelForm.Json.Document

/-!
From text to documents. Numbers keep as many leading digits as fit 64 bits and are
then scaled by powers of ten, at most 10^308 at a time; values nested deeper than
127 levels can only be passed over.
-/

namespace ModelForm

namespace Document

def isBlank (c : Char) : Bool :=
  c == ' ' || c == '\n' || c == '\t' || c == '\r'

def skipBlank (cs : List Char) : List Char := cs.dropWhile isBlank

def digitValue (c : Char) : Nat := c.toNat - '0'.toNat

def hexValue? (c : Char) : Option Nat :=
  if c.isDigit then some (digitValue c)
  else if 'a' ≤ c ∧ c ≤ 'f' then some (c.toNat - 'a'.toNat + 10)
  else if 'A' ≤ c ∧ c ≤ 'F' then some (c.toNat - 'A'.toNat + 10)
  else none

/-! Strings. -/

/-- The code of four hexadecimal digits and what follows them. Fewer than four bytes left are an
early end. -/
def hexCode (cs : List Char) : Except Fault (Nat × List Char) :=
  match cs with
  | a :: b :: c :: d :: rest =>
    match hexValue? a, hexValue? b, hexValue? c, hexValue? d with
    | some a, some b, some c, some d => .ok (((a * 16 + b) * 16 + c) * 16 + d, rest)
    | _, _, _, _ => .error .malformed
  | short =>
    if 4 ≤ short.foldl (fun n c => n + c.utf8Size) 0 then .error .malformed else .error .truncated

def escaped? : Char → Option Char
  | '"' => some '"'
  | '\\' => some '\\'
  | '/' => some '/'
  | 'b' => some '\x08'
  | 'f' => some '\x0c'
  | 'n' => some '\n'
  | 'r' => some '\r'
  | 't' => some '\t'
  | _ => none

def isHighSurrogate (code : Nat) : Bool := 0xD800 ≤ code && code ≤ 0xDBFF

def isLowSurrogate (code : Nat) : Bool := 0xDC00 ≤ code && code ≤ 0xDFFF

def pairedCode (high low : Nat) : Nat := 0x10000 + (high - 0xD800) * 0x400 + (low - 0xDC00)

/-- The character of a `\u` escape whose digits have been read, or the fault for those who want
it; a high surrogate takes the escape after it along. -/
def unicodeEscape (code : Nat) (rest : List Char) : Except Fault Char × List Char :=
  if isLowSurrogate code then (.error .malformed, rest)
  else if isHighSurrogate code then
    match rest with
    | '\\' :: 'u' :: digits =>
      match hexCode digits with
      | .ok (low, after) =>
        if isLowSurrogate low then (.ok (Char.ofNat (pairedCode code low)), after)
        else (.error .malformed, rest)
      | .error fault => (.error fault, rest)
    | [] => (.error .truncated, rest)
    | ['\\'] => (.error .truncated, rest)
    | _ => (.error .malformed, rest)
  else (.ok (Char.ofNat code), rest)

/-- A string after its opening quote: its text or the first fault for those who want it, the fault
that nobody can pass, and the rest. -/
structure StringRead where
  text : Except Fault String
  stuck : Option Fault
  rest : List Char

/-- Scans to the closing quote; `done` holds the characters read so far, last one first, and the
fuel exceeds the number of characters left. -/
def scanString : Nat → Except Fault (List Char) → List Char → StringRead
  | 0, done, cs => ⟨done.map fun d => String.ofList d.reverse, some .truncated, cs⟩
  | fuel + 1, done, cs =>
    let stuckAt (fault : Fault) (rest : List Char) : StringRead :=
      ⟨done.bind fun _ => .error fault, some fault, rest⟩
    match cs with
    | [] => stuckAt .truncated []
    | '"' :: rest => ⟨done.map fun d => String.ofList d.reverse, none, rest⟩
    | '\\' :: [] => stuckAt .truncated []
    | '\\' :: 'u' :: rest =>
      match hexCode rest with
      | .error fault => stuckAt fault rest
      | .ok (code, after) =>
        let (c, after) := unicodeEscape code after
        scanString fuel (do return (← c) :: (← done)) after
    | '\\' :: c :: rest =>
      match escaped? c with
      | none => stuckAt .malformed rest
      | some c => scanString fuel (done.map (c :: ·)) rest
    | c :: rest =>
      if c.toNat < 0x20 then stuckAt .malformed rest
      else scanString fuel (done.map (c :: ·)) rest

def StringRead.document (s : StringRead) : Document :=
  match s.text, s.stuck with
  | .ok text, none => .string text
  | .error fault, none => .flawed fault .null
  | .ok _, some fault => .unreadable fault
  | .error fault, some stuck => .flawed fault (.unreadable stuck)

/-! Numbers. -/

/-- The leading digits whose value fits 64 bits, and the digits left over. -/
def significant (start : Nat) : List Char → Nat × List Char
  | [] => (start, [])
  | c :: rest =>
    let next := start * 10 + digitValue c
    if next < Nat.pow 2 64 then significant next rest else (start, c :: rest)

/-- Scales by a power of ten, at most 10^308 at a time; nothing if it grows beyond all doubles. -/
def scaled? : Nat → Binary64 → Int → Option Binary64
  | 0, x, _ => some x
  | fuel + 1, x, exponent =>
    if exponent.natAbs ≤ 308 then
      let power := Binary64.ofDecimal false 1 exponent.natAbs
      if 0 ≤ exponent then
        let product := x.mul power
        if product.isFinite then some product else none
      else some (x.div power)
    else if x.isZero then some x
    else if 0 ≤ exponent then none
    else scaled? fuel (x.div (Binary64.ofDecimal false 1 308)) (exponent + 308)

def doubleOf? (negative : Bool) (whole fraction : List Char) (exponent : Int) : Option Binary64 :=
  let (lead, unused) := significant 0 whole
  let (digits, dropped) := significant lead fraction
  let scale : Int := exponent + unused.length - (fraction.length - dropped.length : Nat)
  let magnitude := scaled? 8 (Binary64.ofNat digits) scale
  if negative then magnitude.map Binary64.neg else magnitude

def decimalValue (digits : List Char) : Nat :=
  digits.foldl (fun n c => n * 10 + digitValue c) 0

/-- A number without point and exponent. It is an integer if it fits 64 bits; minus zero is a
double. -/
def integerOf? (negative : Bool) (whole : List Char) : Option Number :=
  let n := decimalValue whole
  if negative then
    if n ≠ 0 ∧ n ≤ Nat.pow 2 63 then some (.integer (-(n : Int)))
    else (doubleOf? true whole [] 0).map .double
  else if n < Nat.pow 2 64 then some (.integer n)
  else (doubleOf? false whole [] 0).map .double

def numberDocument : Option Number → Document
  | some n => .number n
  | none => .flawed .malformed .null

def doubleDocument (negative : Bool) (whole fraction : List Char) (exponent : Int) : Document :=
  numberDocument ((doubleOf? negative whole fraction exponent).map .double)

/-- A number broken off: who wants it meets an early end or a wrong character, and who passes over
it a wrong character. -/
def brokenNumber (rest : List Char) : Document × Option (List Char) :=
  (.flawed (if rest.isEmpty then .truncated else .malformed) (.unreadable .malformed), none)

def readExponent (negative : Bool) (whole fraction cs : List Char) :
    Document × Option (List Char) :=
  let (down, cs) := match cs with
    | '+' :: rest => (false, rest)
    | '-' :: rest => (true, rest)
    | other => (false, other)
  let (digits, rest) := cs.span Char.isDigit
  if digits.isEmpty then brokenNumber rest
  else
    let size : Int := decimalValue digits
    (doubleDocument negative whole fraction (if down then -size else size), some rest)

def readNumberTail (negative : Bool) (whole cs : List Char) : Document × Option (List Char) :=
  match cs with
  | '.' :: rest =>
    let (fraction, rest) := rest.span Char.isDigit
    if fraction.isEmpty then brokenNumber rest
    else match rest with
      | 'e' :: after => readExponent negative whole fraction after
      | 'E' :: after => readExponent negative whole fraction after
      | other => (doubleDocument negative whole fraction 0, some other)
  | 'e' :: rest => readExponent negative whole [] rest
  | 'E' :: rest => readExponent negative whole [] rest
  | other => (numberDocument (integerOf? negative whole), some other)

def readNumber (negative : Bool) (cs : List Char) : Document × Option (List Char) :=
  let (whole, rest) := cs.span Char.isDigit
  match whole with
  | [] => brokenNumber rest
  | '0' :: _ :: _ => (.unreadable .malformed, none)
  | whole => readNumberTail negative whole rest

/-! Values. -/

def readWord (word : List Char) (meaning : Document) (cs : List Char) :
    Document × Option (List Char) :=
  match word, cs with
  | [], rest => (meaning, some rest)
  | _ :: _, [] => (.unreadable .truncated, none)
  | w :: word, c :: rest =>
    if w = c then readWord word meaning rest else (.unreadable .malformed, none)

def faultAt (cs : List Char) : Fault :=
  if cs.isEmpty then .truncated else .malformed

def depthLimit : Nat := 127

def limited (depth : Nat) (d : Document) : Document :=
  if depthLimit < depth then .flawed .malformed d else d

mutual

/-- One value and what is left of the text, unless reading got stuck; `depth` counts the brackets
around the value. -/
def readValue : Nat → Nat → List Char → Document × Option (List Char)
  | 0, _, _ => (.unreadable .truncated, none)
  | fuel + 1, depth, cs =>
    match skipBlank cs with
    | [] => (.unreadable .truncated, none)
    | 'n' :: rest => readWord ['u', 'l', 'l'] .null rest
    | 't' :: rest => readWord ['r', 'u', 'e'] (.bool true) rest
    | 'f' :: rest => readWord ['a', 'l', 's', 'e'] (.bool false) rest
    | '"' :: rest =>
      let s := scanString fuel (.ok []) rest
      (s.document, if s.stuck.isSome then none else some s.rest)
    | '-' :: rest => readNumber true rest
    | '[' :: rest =>
      let (items, ending, rest?) := readItems fuel (depth + 1) true rest
      (limited (depth + 1) (.array items ending), rest?)
    | '\x7b' :: rest =>
      let (members, ending, rest?) := readMembers fuel (depth + 1) true rest
      (limited (depth + 1) (.object members ending), rest?)
    | c :: rest =>
      if c.isDigit then readNumber false (c :: rest) else (.unreadable .malformed, none)

/-- The items of an array up to its bracket; `first` before the first one. -/
def readItems : Nat → Nat → Bool → List Char →
    List Document × Option Fault × Option (List Char)
  | 0, _, _, _ => ([], some .truncated, none)
  | fuel + 1, depth, first, cs =>
    match skipBlank cs, first with
    | ']' :: rest, _ => ([], none, some rest)
    | [], _ => ([], some .truncated, none)
    | ',' :: rest, false => readItem fuel depth rest
    | other, true => readItem fuel depth other
    | _, false => ([], some .malformed, none)

def readItem : Nat → Nat → List Char → List Document × Option Fault × Option (List Char)
  | 0, _, _ => ([], some .truncated, none)
  | fuel + 1, depth, cs =>
    match readValue fuel depth cs with
    | (item, none) => ([item], none, none)
    | (item, some rest) =>
      let (items, ending, rest?) := readItems fuel depth false rest
      (item :: items, ending, rest?)

def readMembers : Nat → Nat → Bool → List Char →
    List (Except Fault String × Document) × Option Fault × Option (List Char)
  | 0, _, _, _ => ([], some .truncated, none)
  | fuel + 1, depth, first, cs =>
    match skipBlank cs, first with
    | '\x7d' :: rest, _ => ([], none, some rest)
    | [], _ => ([], some .truncated, none)
    | '"' :: rest, true => readMember fuel depth rest
    | ',' :: rest, false =>
      match skipBlank rest with
      | '"' :: rest => readMember fuel depth rest
      | other => ([], some (faultAt other), none)
    | _, _ => ([], some .malformed, none)

def readMember : Nat → Nat → List Char →
    List (Except Fault String × Document) × Option Fault × Option (List Char)
  | 0, _, _ => ([], some .truncated, none)
  | fuel + 1, depth, cs =>
    let key := scanString fuel (.ok []) cs
    match key.stuck with
    | some fault => ([(key.text, .unreadable fault)], none, none)
    | none =>
      match skipBlank key.rest with
      | ':' :: rest =>
        match readValue fuel depth rest with
        | (item, none) => ([(key.text, item)], none, none)
        | (item, some rest) =>
          let (members, ending, rest?) := readMembers fuel depth false rest
          ((key.text, item) :: members, ending, rest?)
      | other => ([(key.text, .unreadable (faultAt other))], none, none)

end

def ofText (text : String) : Document × Bool :=
  let cs := text.toList
  let (d, rest?) := readValue (3 * cs.length + 3) 0 cs
  (d, rest?.any fun rest => (skipBlank rest).isEmpty)

end Document

namespace Json

def ofText (text : String) : Except Fault Json := do
  let (d, complete) := Document.ofText text
  let v ← d.value
  if complete then return v else throw .malformed

end Json

end ModelForm
