import ModelForm.Text.Units

/-!
Points in time as models carry them: a date and a time of day in UTC, down to the
nanosecond, with the extra second of a leap second written as 60. Texts may have an
offset of whole minutes, which reading removes, and blanks between their parts.
-/

namespace ModelForm

structure Instant where
  year : Int
  month : Nat
  day : Nat
  hour : Nat
  minute : Nat
  second : Nat
  nanos : Nat
  deriving DecidableEq, Repr, Inhabited

inductive InstantError where
  | outOfRange
  | invalid
  | tooShort
  | tooLong
  | impossible
  deriving DecidableEq, Repr, Inhabited

namespace InstantError

def message : InstantError → String
  | .outOfRange => "input is out of range"
  | .invalid => "input contains invalid characters"
  | .tooShort => "premature end of input"
  | .tooLong => "trailing input"
  | .impossible => "no possible date and time matching input"

end InstantError

namespace Instant

def isLeapYear (y : Int) : Bool :=
  y % 4 == 0 && (y % 100 != 0 || y % 400 == 0)

def daysInMonth (y : Int) (m : Nat) : Nat :=
  if m = 2 then (if isLeapYear y then 29 else 28)
  else if m = 4 ∨ m = 6 ∨ m = 9 ∨ m = 11 then 30
  else 31

def firstYear : Int := -262143

def lastYear : Int := 262142

def nextDay (t : Instant) : Instant :=
  if t.day < daysInMonth t.year t.month then { t with day := t.day + 1 }
  else if t.month < 12 then { t with month := t.month + 1, day := 1 }
  else { t with year := t.year + 1, month := 1, day := 1 }

def previousDay (t : Instant) : Instant :=
  if 1 < t.day then { t with day := t.day - 1 }
  else if 1 < t.month then
    { t with month := t.month - 1, day := daysInMonth t.year (t.month - 1) }
  else { t with year := t.year - 1, month := 12, day := 31 }

/-- The same point in time when the given one was read on a clock `offset` minutes ahead of UTC. -/
def removeOffset (t : Instant) (offset : Int) : Instant :=
  let minutes : Int := t.hour * 60 + t.minute - offset
  let ofDay := (minutes % 1440).toNat
  let moved := { t with hour := ofDay / 60, minute := ofDay % 60 }
  if minutes < 0 then previousDay moved
  else if 1440 ≤ minutes then nextDay moved
  else moved

/-! Reading. -/

def readDigits (width : Nat) (cs : List Char) : Except InstantError (Nat × List Char) :=
  match cs with
  | [] => .error .tooShort
  | c :: _ =>
    if c.isDigit then
      let digits := (cs.take width).takeWhile Char.isDigit
      .ok (digits.foldl (fun n d => n * 10 + (d.toNat - '0'.toNat)) 0, cs.drop digits.length)
    else .error .invalid

/-- A number of at most two digits between the given limits, after blanks. -/
def readField (low high : Nat) (cs : List Char) : Except InstantError (Nat × List Char) := do
  let (n, rest) ← readDigits 2 (Text.trimStart cs)
  if low ≤ n ∧ n ≤ high then return (n, rest) else throw .outOfRange

/-- A year of up to four digits, or of any number of digits after a sign. -/
def readYear (cs : List Char) : Except InstantError (Int × List Char) := do
  let inRange (y : Int) (rest : List Char) : Except InstantError (Int × List Char) :=
    if -2147483648 ≤ y ∧ y ≤ 2147483647 then .ok (y, rest) else .error .outOfRange
  match Text.trimStart cs with
  | '-' :: rest =>
    let (n, rest) ← readDigits rest.length rest
    inRange (-(n : Int)) rest
  | '+' :: rest =>
    let (n, rest) ← readDigits rest.length rest
    inRange n rest
  | other =>
    let (n, rest) ← readDigits 4 other
    inRange n rest

def readMark (mark : Char) (cs : List Char) : Except InstantError (List Char) :=
  match Text.trimStart cs with
  | [] => .error .tooShort
  | c :: rest => if c = mark then .ok rest else .error .invalid

/-- An optional fraction of a second; digits after the ninth are dropped. -/
def readNanos (cs : List Char) : Except InstantError (Nat × List Char) :=
  match cs with
  | '.' :: rest => do
    let (n, after) ← readDigits 9 rest
    return (n * Nat.pow 10 (9 - (rest.length - after.length)), after.dropWhile Char.isDigit)
  | other => .ok (0, other)

/-- Two characters that should be digits; anything shorter than two bytes is an early end. -/
def readPair (cs : List Char) : Except InstantError (Char × Char × List Char) :=
  match cs with
  | [] => .error .tooShort
  | [c] => if c.utf8Size < 2 then .error .tooShort else .error .invalid
  | a :: b :: rest => .ok (a, b, rest)

def pairValue (a b : Char) : Nat := (a.toNat - '0'.toNat) * 10 + (b.toNat - '0'.toNat)

def readOffsetDigits (cs : List Char) : Except InstantError (Nat × List Char) := do
  let (a, b, rest) ← readPair cs
  if !(a.isDigit && b.isDigit) then throw .invalid
  let (c, d, rest) ← readPair (rest.dropWhile fun c => c == ':' || Text.isWhiteSpace c)
  if !(c.isDigit && d.isDigit) then throw .invalid
  if '6' ≤ c then throw .outOfRange
  return (pairValue a b * 60 + pairValue c d, rest)

/-- The offset from UTC in minutes: `Z`, `UTC`, or a sign with hours and minutes. -/
def readOffset (cs : List Char) : Except InstantError (Int × List Char) :=
  match cs with
  | u :: t :: c :: rest =>
    if u.toLower = 'u' ∧ t.toLower = 't' ∧ c.toLower = 'c' then .ok (0, rest)
    else signed cs
  | _ => signed cs
where
  signed (cs : List Char) : Except InstantError (Int × List Char) :=
    match cs with
    | [] => .error .tooShort
    | 'Z' :: rest => .ok (0, rest)
    | 'z' :: rest => .ok (0, rest)
    | '+' :: rest => (readOffsetDigits rest).map fun (n, rest) => ((n : Int), rest)
    | '-' :: rest => (readOffsetDigits rest).map fun (n, rest) => (-(n : Int), rest)
    | '\u2212' :: rest => (readOffsetDigits rest).map fun (n, rest) => (-(n : Int), rest)
    | _ => .error .invalid

def readJoint (cs : List Char) : Except InstantError (List Char) :=
  match cs with
  | [] => .error .tooShort
  | c :: rest => if c = 't' ∨ c = 'T' ∨ c = ' ' then .ok rest else .error .invalid

def ofText (text : String) : Except InstantError Instant := do
  let (year, rest) ← readYear text.toList
  let rest ← readMark '-' rest
  let (month, rest) ← readField 1 12 rest
  let rest ← readMark '-' rest
  let (day, rest) ← readField 1 31 rest
  let rest ← readJoint rest
  let (hour, rest) ← readField 0 23 rest
  let rest ← readMark ':' rest
  let (minute, rest) ← readField 0 59 rest
  let rest ← readMark ':' rest
  let (second, rest) ← readField 0 60 rest
  let (nanos, rest) ← readNanos rest
  let (offset, rest) ← readOffset (Text.trimStart rest)
  if !(Text.trimStart rest).isEmpty then throw .tooLong
  if year < firstYear ∨ lastYear < year ∨ daysInMonth year month < day then throw .outOfRange
  if 1440 ≤ offset.natAbs then throw .outOfRange
  let t := removeOffset ⟨year, month, day, hour, minute, second, nanos⟩ offset
  if t.year < firstYear ∨ lastYear < t.year then throw .impossible
  return t

/-! Writing. -/

def padded (width n : Nat) : String :=
  let digits := Nat.toDigits 10 n
  String.ofList (List.replicate (width - digits.length) '0' ++ digits)

/-- Four digits; years outside of them carry a sign. -/
def yearText (y : Int) : String :=
  if 0 ≤ y ∧ y ≤ 9999 then padded 4 y.toNat
  else (if y < 0 then "-" else "+") ++ padded 4 y.natAbs

/-- No fraction, or one of three, six or nine digits, whichever suffices. -/
def fractionText (nanos : Nat) : String :=
  if nanos = 0 then ""
  else if nanos % 1000000 = 0 then "." ++ padded 3 (nanos / 1000000)
  else if nanos % 1000 = 0 then "." ++ padded 6 (nanos / 1000)
  else "." ++ padded 9 nanos

def text (t : Instant) : String :=
  yearText t.year ++ "-" ++ padded 2 t.month ++ "-" ++ padded 2 t.day ++ "T" ++
    padded 2 t.hour ++ ":" ++ padded 2 t.minute ++ ":" ++ padded 2 t.second ++
    fractionText t.nanos ++ "Z"

end Instant

end ModelForm
