import ModelForm.Number.Binary64

/-!
Doubles in decimal. The digits are the fewest that read back as the same double,
and among those the nearest; the two layouts are the one of numbers inside
sentences and the one of numbers inside documents.
-/

namespace ModelForm

/-- Where a value exactly between two shortest decimals goes. -/
inductive Tie where
  | toEven
  | up
  deriving DecidableEq, Repr

structure Decimal where
  digits : Nat
  exponent : Int
  deriving DecidableEq, Repr, Inhabited

namespace Decimal

def fraction (d : Decimal) : Nat × Nat :=
  if 0 ≤ d.exponent then (d.digits * Nat.pow 10 d.exponent.toNat * Binary64.unitsPerOne, 1)
  else (d.digits * Binary64.unitsPerOne, Nat.pow 10 (-d.exponent).toNat)

def readsBack (units : Nat) (d : Decimal) : Bool :=
  Binary64.roundUnits d.fraction.1 d.fraction.2 == units

def digitCount (n : Nat) : Nat := (Nat.toDigits 10 n).length

/-- The least `e` with `units < 10 ^ e` ones, by search upward from a lower estimate. -/
def magnitudeFrom (units : Nat) : Nat → Int → Int
  | 0, e => e
  | fuel + 1, e =>
    let big := if 0 ≤ e then decide (units < Nat.pow 10 e.toNat * Binary64.unitsPerOne)
      else decide (units * Nat.pow 10 (-e).toNat < Binary64.unitsPerOne)
    if big then e else magnitudeFrom units fuel (e + 1)

def magnitude (units : Nat) : Int :=
  let estimate := ((Nat.log2 units : Int) - 1074) * 30103 / 100000 - 1
  magnitudeFrom units 5 estimate

def gridBelow (units : Nat) (exponent : Int) : Nat × Nat × Nat :=
  let num := if 0 ≤ exponent then units else units * Nat.pow 10 (-exponent).toNat
  let den := if 0 ≤ exponent then Nat.pow 10 exponent.toNat * Binary64.unitsPerOne
    else Binary64.unitsPerOne
  (num / den, num % den, den)

/-- The nearer of the two neighbours on one decimal grid that read back. -/
def onGrid? (tie : Tie) (units : Nat) (exponent : Int) : Option Decimal :=
  let (below, rest, den) := gridBelow units exponent
  let low : Decimal := ⟨below, exponent⟩
  let high : Decimal := ⟨below + 1, exponent⟩
  let lowFits := readsBack units low
  let highFits := rest != 0 && readsBack units high
  match lowFits, highFits with
  | false, false => none
  | true, false => some low
  | false, true => some high
  | true, true =>
    if 2 * rest < den then some low
    else if den < 2 * rest then some high
    else match tie with
      | .up => some high
      | .toEven => some (if below % 2 = 0 then low else high)

def shortestFrom (tie : Tie) (units : Nat) (top : Int) : Nat → Nat → Decimal
  | 0, count => ⟨(gridBelow units (top - count)).1, top - count⟩
  | fuel + 1, count =>
    match onGrid? tie units (top - count) with
    | some d => d
    | none => shortestFrom tie units top fuel (count + 1)

def trim : Nat → Decimal → Decimal
  | 0, d => d
  | fuel + 1, d =>
    if d.digits % 10 = 0 ∧ d.digits ≠ 0 then trim fuel ⟨d.digits / 10, d.exponent + 1⟩ else d

/-- The fewest digits that read back as the magnitude. -/
def shortest (tie : Tie) (units : Nat) : Decimal :=
  if units = 0 then ⟨0, 0⟩
  else trim 20 (shortestFrom tie units (magnitude units) 17 1)

/-- The digits without exponent: a point is written only before digits that need one. -/
def positional (d : Decimal) : String :=
  let text := Nat.toDigits 10 d.digits
  if 0 ≤ d.exponent then
    String.ofList (text ++ List.replicate (if d.digits = 0 then 0 else d.exponent.toNat) '0')
  else
    let places := (-d.exponent).toNat
    let padded := List.replicate (places + 1 - text.length) '0' ++ text
    String.ofList (padded.take (padded.length - places) ++ '.' :: padded.drop (padded.length - places))

def scientific (d : Decimal) : String :=
  let text := Nat.toDigits 10 d.digits
  let e : Int := d.exponent + (text.length : Int) - 1
  let mantissa := match text with
    | first :: second :: rest => first :: '.' :: second :: rest
    | short => short
  String.ofList mantissa ++ "e" ++ (if e < 0 then "-" else "+") ++ toString e.natAbs

end Decimal

namespace Binary64

/-- A number inside a sentence: never an exponent, and no point without digits after it. -/
def inSentence : Binary64 → String
  | .nan => "NaN"
  | .infinite s => if s then "-inf" else "inf"
  | .finite s u => (if s then "-" else "") ++ (Decimal.shortest .up u).positional

/-- A finite number inside a document: always a point or an exponent, the latter from 10^16 on
and below 10^-5. -/
def magnitudeInDocument (units : Nat) : String :=
  let d := Decimal.shortest .toEven units
  let top : Int := d.exponent + (Decimal.digitCount d.digits : Int) - 1
  if units = 0 then "0.0"
  else if top < -5 ∨ 16 ≤ top then d.scientific
  else if 0 ≤ d.exponent then d.positional ++ ".0"
  else d.positional

/-- What is not finite has no number in a document and is written as null. -/
def inDocument : Binary64 → String
  | .finite s u => (if s then "-" else "") ++ magnitudeInDocument u
  | _ => "null"

end Binary64

end ModelForm
