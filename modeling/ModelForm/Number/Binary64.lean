/-!
Double-precision numbers as exact values. A finite double is a sign and a whole
number of units of 2^-1074, so order is order of whole numbers and every
operation is one exact quotient followed by one rounding.
-/

namespace ModelForm

/-- A double: a signed multiple of 2^-1074, an infinity, or not a number. -/
inductive Binary64 where
  | finite (negative : Bool) (units : Nat)
  | infinite (negative : Bool)
  | nan
  deriving DecidableEq, Repr, Inhabited

namespace Binary64

def unitsPerOne : Nat := Nat.pow 2 1074

/-- The first magnitude, in units, that is beyond every finite double. -/
def unitsOverflow : Nat := Nat.pow 2 2098

/-- The distance between neighbouring doubles whose magnitude has whole part `q` units. -/
def spacing (q : Nat) : Nat := Nat.pow 2 (Nat.log2 q - 52)

/-- The multiple of `step` nearest to `num / den`; a tie goes to the even multiple. -/
def roundTo (step num den : Nat) : Nat :=
  let q := num / (den * step)
  let r := num % (den * step)
  if den * step < 2 * r ∨ (den * step = 2 * r ∧ q % 2 = 1) then (q + 1) * step else q * step

/-- The quotient `num / den` in units, kept to 53 significant bits. -/
def roundUnits (num den : Nat) : Nat :=
  roundTo (spacing (num / den)) num den

def ofUnits (negative : Bool) (units : Nat) : Binary64 :=
  if units < unitsOverflow then .finite negative units else .infinite negative

def ofRatio (negative : Bool) (num den : Nat) : Binary64 :=
  ofUnits negative (roundUnits (num * unitsPerOne) den)

def ofNat (n : Nat) : Binary64 := ofRatio false n 1

/-- The double nearest to an integer; zero has no sign. -/
def ofInt (i : Int) : Binary64 := ofRatio (decide (i < 0)) i.natAbs 1

def ofDecimal (negative : Bool) (digits : Nat) (exponent : Int) : Binary64 :=
  if 0 ≤ exponent then ofRatio negative (digits * Nat.pow 10 exponent.toNat) 1
  else ofRatio negative digits (Nat.pow 10 (-exponent).toNat)

def neg : Binary64 → Binary64
  | .finite s u => .finite (!s) u
  | .infinite s => .infinite (!s)
  | .nan => .nan

def mul : Binary64 → Binary64 → Binary64
  | .finite s u, .finite t v => ofUnits (s != t) (roundUnits (u * v) unitsPerOne)
  | .infinite s, .finite t v => if v = 0 then .nan else .infinite (s != t)
  | .finite s u, .infinite t => if u = 0 then .nan else .infinite (s != t)
  | .infinite s, .infinite t => .infinite (s != t)
  | _, _ => .nan

def div : Binary64 → Binary64 → Binary64
  | .finite s u, .finite t v =>
    if v = 0 then (if u = 0 then .nan else .infinite (s != t))
    else ofUnits (s != t) (roundUnits (u * unitsPerOne) v)
  | .infinite s, .finite t _ => .infinite (s != t)
  | .finite s _, .infinite t => .finite (s != t) 0
  | _, _ => .nan

def isFinite : Binary64 → Bool
  | .finite _ _ => true
  | _ => false

def isZero : Binary64 → Bool
  | .finite _ 0 => true
  | _ => false

def signedUnits (negative : Bool) (units : Nat) : Int :=
  if negative then -(units : Int) else units

/-- The strict order; nothing is below or above what is not a number. -/
def lt : Binary64 → Binary64 → Bool
  | .finite s u, .finite t v => decide (signedUnits s u < signedUnits t v)
  | .infinite s, .infinite t => s && !t
  | .infinite s, .finite _ _ => s
  | .finite _ _, .infinite t => !t
  | _, _ => false

/-- Equality of values: the two zeros are equal, and `nan` equals nothing. -/
def same : Binary64 → Binary64 → Bool
  | .finite s u, .finite t v => decide (signedUnits s u = signedUnits t v)
  | .infinite s, .infinite t => s == t
  | _, _ => false

/-- The least natural number that is not below a finite value; negative values give zero. -/
def ceilNat? : Binary64 → Option Nat
  | .finite s u => some (if s then 0 else (u + (unitsPerOne - 1)) / unitsPerOne)
  | _ => none

def floorNat? : Binary64 → Option Nat
  | .finite s u => if s && decide (u ≠ 0) then none else some (u / unitsPerOne)
  | _ => none

def isEven : Binary64 → Bool
  | .finite _ u => u % (2 * unitsPerOne) == 0
  | _ => false

theorem lt_irrefl (x : Binary64) : lt x x = false := by
  cases x with
  | finite s u => simp [lt]
  | infinite s => cases s <;> rfl
  | nan => rfl

theorem isFinite_ofUnits (s : Bool) (u : Nat) :
    (ofUnits s u).isFinite = decide (u < unitsOverflow) := by
  unfold ofUnits
  split <;> simp_all [isFinite]

end Binary64

end ModelForm
