import ModelForm.Number.Decimal

/-!
Numbers written by hand: whole numbers of 64 bits with a sign, and doubles in
positional or scientific notation. Doubles are rounded once, to the nearest.
-/

namespace ModelForm.Literal

def isDigit (c : Char) : Bool := c.isDigit

def digitsValue (digits : List Char) : Nat :=
  digits.foldl (fun n c => n * 10 + (c.toNat - '0'.toNat)) 0

def readSign : List Char → Bool × List Char
  | '-' :: rest => (true, rest)
  | '+' :: rest => (false, rest)
  | cs => (false, cs)

def signed (negative : Bool) (n : Nat) : Int := if negative then -(n : Int) else n

def fitting? (i : Int) : Option Int :=
  if -9223372036854775808 ≤ i ∧ i ≤ 9223372036854775807 then some i else none

def integer? (cs : List Char) : Option Int :=
  let (negative, digits) := readSign cs
  if digits.isEmpty || !digits.all isDigit then none
  else fitting? (signed negative (digitsValue digits))

/-- The double nearest to a decimal number. Far beyond the range there is nothing to compute. -/
def nearest (negative : Bool) (digits : Nat) (exponent : Int) : Binary64 :=
  if digits = 0 then .finite negative 0
  else
    let size := (Decimal.digitCount digits : Int) + exponent
    if 400 < size then .infinite negative
    else if size < -400 then .finite negative 0
    else Binary64.ofDecimal negative digits exponent

def exponent? : List Char → Option Int
  | [] => some 0
  | mark :: rest =>
    if mark = 'e' ∨ mark = 'E' then
      let (negative, digits) := readSign rest
      if digits.isEmpty || !digits.all isDigit then none
      else some (signed negative (digitsValue digits))
    else none

/-- The double that digits with a point and an exponent stand for; one side of the point may be
empty. -/
def positional? (negative : Bool) (cs : List Char) : Option Binary64 :=
  let whole := cs.takeWhile isDigit
  let (fraction, rest) := match cs.dropWhile isDigit with
    | '.' :: rest => (rest.takeWhile isDigit, rest.dropWhile isDigit)
    | rest => ([], rest)
  if whole.isEmpty && fraction.isEmpty then none
  else (exponent? rest).map fun e =>
    nearest negative (digitsValue (whole ++ fraction)) (e - fraction.length)

def double? (cs : List Char) : Option Binary64 :=
  let (negative, rest) := readSign cs
  let name := String.ofList (rest.map Char.toLower)
  if name == "inf" || name == "infinity" then some (.infinite negative)
  else if name == "nan" then some .nan
  else positional? negative rest

end ModelForm.Literal
