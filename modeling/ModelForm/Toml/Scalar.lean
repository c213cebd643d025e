import ModelForm.Json.Reader
import ModelForm.Model.Instant
import ModelForm.Settings.Value

/-!
Words of settings files that are not quoted: truth values, whole numbers in four bases,
floats, dates and times. Digits may be grouped by single underscores. Dates and times
are kept as texts in one written form.
-/

namespace ModelForm.Toml

/-- Digits of a base without their underscores, which stand between digits only. -/
def ungroup (isDigit : Char → Bool) : List Char → Option (List Char)
  | [] => none
  | [c] => if isDigit c then some [c] else none
  | c :: '_' :: rest =>
    if isDigit c then (ungroup isDigit rest).map (c :: ·) else none
  | c :: rest => if isDigit c then (ungroup isDigit rest).map (c :: ·) else none

/-- Decimal digits that do not start with a zero, unless it is the only one. -/
def wholeDigits? (cs : List Char) : Option (List Char) :=
  match cs with
  | '0' :: _ :: _ => none
  | _ => ungroup Char.isDigit cs

def decimalInteger? (cs : List Char) : Option Int :=
  let (negative, rest) := Literal.readSign cs
  (wholeDigits? rest).bind fun digits =>
    Literal.fitting? (Literal.signed negative (Literal.digitsValue digits))

/-- A whole number in another base; it has no sign. -/
def basedInteger? (base : Nat) (cs : List Char) : Option Int :=
  let digit? (c : Char) : Option Nat := (Document.hexValue? c).filter (· < base)
  (ungroup (fun c => (digit? c).isSome) cs).bind fun digits =>
    Literal.fitting? (digits.foldl (fun n c => n * base + (digit? c).getD 0) 0)

def integer? : List Char → Option Int
  | '0' :: 'x' :: rest => basedInteger? 16 rest
  | '0' :: 'o' :: rest => basedInteger? 8 rest
  | '0' :: 'b' :: rest => basedInteger? 2 rest
  | cs => decimalInteger? cs

def exponent? : List Char → Option Int
  | mark :: rest =>
    if mark = 'e' ∨ mark = 'E' then
      let (negative, digits) := Literal.readSign rest
      (ungroup Char.isDigit digits).map fun ds => Literal.signed negative (Literal.digitsValue ds)
    else none
  | [] => none

def isMantissaChar (c : Char) : Bool := c.isDigit || c == '_'

/-- A float in digits: a point with digits on both sides, or an exponent, or both. -/
def digitsFloat? (negative : Bool) (cs : List Char) : Option Binary64 :=
  let whole := wholeDigits? (cs.takeWhile isMantissaChar)
  match whole, cs.dropWhile isMantissaChar with
  | some whole, '.' :: rest =>
    let fraction := ungroup Char.isDigit (rest.takeWhile isMantissaChar)
    let e := match rest.dropWhile isMantissaChar with
      | [] => some 0
      | marked => exponent? marked
    match fraction, e with
    | some fraction, some e =>
      some (Literal.nearest negative (Literal.digitsValue (whole ++ fraction)) (e - fraction.length))
    | _, _ => none
  | some whole, marked =>
    (exponent? marked).map fun e => Literal.nearest negative (Literal.digitsValue whole) e
  | none, _ => none

/-- A float; digits must not stand for a positive infinity. -/
def float? (cs : List Char) : Option Binary64 :=
  let (negative, rest) := Literal.readSign cs
  match rest with
  | ['i', 'n', 'f'] => some (.infinite negative)
  | ['n', 'a', 'n'] => some .nan
  | digits => (digitsFloat? negative digits).filter fun x => x != .infinite false

/-! Dates and times. -/

def readNumber (count low high : Nat) (cs : List Char) : Option (Nat × List Char) :=
  let digits := cs.take count
  let n := Literal.digitsValue digits
  if digits.length = count ∧ digits.all Char.isDigit ∧ low ≤ n ∧ n ≤ high then
    some (n, cs.drop count)
  else none

def readMark (mark : Char) : List Char → Option (List Char)
  | c :: rest => if c = mark then some rest else none
  | [] => none

def readDate (cs : List Char) : Option (String × List Char) := do
  let (year, cs) ← readNumber 4 0 9999 cs
  let (month, cs) ← readNumber 2 1 12 (← readMark '-' cs)
  let (day, cs) ← readNumber 2 1 (Instant.daysInMonth year month) (← readMark '-' cs)
  return (Instant.padded 4 year ++ "-" ++ Instant.padded 2 month ++ "-" ++ Instant.padded 2 day, cs)

/-- The written form of a fraction of a second: at most nine digits, no zeros at the end. -/
def fractionText (digits : List Char) : String :=
  match (((digits.take 9).reverse.dropWhile (· == '0')).reverse) with
  | [] => ""
  | kept => String.ofList ('.' :: kept)

def readTime (cs : List Char) : Option (String × List Char) := do
  let (hour, cs) ← readNumber 2 0 23 cs
  let (minute, cs) ← readNumber 2 0 59 (← readMark ':' cs)
  let (second, cs) ← readNumber 2 0 60 (← readMark ':' cs)
  let whole := Instant.padded 2 hour ++ ":" ++ Instant.padded 2 minute ++ ":" ++
    Instant.padded 2 second
  match cs with
  | '.' :: rest =>
    let digits := rest.takeWhile Char.isDigit
    if digits.isEmpty then none
    else return (whole ++ fractionText digits, rest.dropWhile Char.isDigit)
  | _ => return (whole, cs)

def offset? (cs : List Char) : Option String :=
  match cs with
  | [] => some ""
  | ['Z'] => some "Z"
  | ['z'] => some "Z"
  | sign :: rest => do
    let (hour, rest) ← readNumber 2 0 23 rest
    let (minute, rest) ← readNumber 2 0 59 (← readMark ':' rest)
    if !rest.isEmpty || (sign != '+' && sign != '-') then none
    else
      let written := if sign == '-' && (hour != 0 || minute != 0) then "-" else "+"
      return written ++ Instant.padded 2 hour ++ ":" ++ Instant.padded 2 minute

/-- The one written form of a date, a time, or both; an offset belongs to both only. -/
def instant? (cs : List Char) : Option String :=
  match readDate cs with
  | some (date, []) => some date
  | some (date, mark :: rest) =>
    if mark = 'T' ∨ mark = 't' then do
      let (time, rest) ← readTime rest
      return date ++ "T" ++ time ++ (← offset? rest)
    else none
  | none =>
    match readTime cs with
    | some (time, []) => some time
    | _ => none

def isWordChar (c : Char) : Bool := c.isAlphanum || c == '+' || c == '-' || c == '_' || c == '.' ||
  c == ':'

/-- A word: a run of its characters. A blank may stand between a date and a time. -/
def readWord (cs : List Char) : List Char × List Char :=
  let first := cs.takeWhile isWordChar
  let rest := cs.dropWhile isWordChar
  match (readDate first), rest with
  | some (_, []), ' ' :: later =>
    match readTime later with
    | some _ => (first ++ 'T' :: later.takeWhile isWordChar, later.dropWhile isWordChar)
    | none => (first, rest)
  | _, _ => (first, rest)

def scalar? (cs : List Char) : Option Setting :=
  if cs = ['t', 'r', 'u', 'e'] then some (.bool true)
  else if cs = ['f', 'a', 'l', 's', 'e'] then some (.bool false)
  else
    match instant? cs, float? cs, integer? cs with
    | some text, _, _ => some (.text text)
    | none, some x, _ => some (.float x)
    | none, none, some i => some (.integer i)
    | none, none, none => none

end ModelForm.Toml
