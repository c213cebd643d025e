import ModelForm.Regex.Basic

/-!
How large an expression becomes as a machine that reads UTF-8 bytes. Patterns whose
machine would take more than ten mebibytes are refused. A state takes 32 bytes, and
some states take more for each of their transitions. This is an estimate: groups are not
counted, and what matches nothing is repeated like anything else. So close to the limit,
or with many groups in each other, a machine may be larger or smaller than it says.
-/

namespace ModelForm.Regex

def encoded (n : Nat) : List Nat :=
  if n < 0x80 then [n]
  else if n < 0x800 then [0xC0 + n / 0x40, 0x80 + n % 0x40]
  else if n < 0x10000 then [0xE0 + n / 0x1000, 0x80 + n / 0x40 % 0x40, 0x80 + n % 0x40]
  else [0xF0 + n / 0x40000, 0x80 + n / 0x1000 % 0x40, 0x80 + n / 0x40 % 0x40, 0x80 + n % 0x40]

def cutByLength (first last : Nat) : List (Nat × Nat) :=
  [(0, 0x7F), (0x80, 0x7FF), (0x800, 0xD7FF), (0xE000, 0xFFFF), (0x10000, 0x10FFFF)].filterMap
    fun (low, high) =>
      if max first low ≤ min last high then some (max first low, min last high) else none

/-- Cuts a range at multiples of `64 ^ level` until every byte runs through a full interval. -/
def cutAligned : Nat → Nat → Nat → Nat → List (Nat × Nat)
  | 0, _, first, last => [(first, last)]
  | fuel + 1, level, first, last =>
    if level = 0 ∨ first / Nat.pow 64 level = last / Nat.pow 64 level then
      if level = 0 then [(first, last)] else cutAligned fuel (level - 1) first last
    else if first % Nat.pow 64 level ≠ 0 then
      let middle := first / Nat.pow 64 level * Nat.pow 64 level + Nat.pow 64 level
      cutAligned fuel level first (middle - 1) ++ cutAligned fuel level middle last
    else if last % Nat.pow 64 level ≠ Nat.pow 64 level - 1 then
      let middle := last / Nat.pow 64 level * Nat.pow 64 level
      cutAligned fuel level first (middle - 1) ++ cutAligned fuel level middle last
    else [(first, last)]

def byteSequences (first last : Nat) : List (List (Nat × Nat)) :=
  (cutByLength first last).flatMap fun (low, high) =>
    (cutAligned 64 ((encoded low).length - 1) low high).map fun (a, b) =>
      (encoded a).zip (encoded b)

def beginnings (sequences : List (List (Nat × Nat))) : Nat :=
  let step := fun (acc : Nat × List (Nat × Nat)) (s : List (Nat × Nat)) =>
    let shared := ((acc.2.zip s).takeWhile fun (x, y) => x == y).length
    (acc.1 + (s.length - shared), s)
  (sequences.foldl step (0, [])).1

def setBytes (s : CharSet) : Nat :=
  if s.ranges.all fun range => range.2 < 0x80 then 64 + 8 * s.ranges.length
  else
    let sequences := s.ranges.flatMap fun range => byteSequences range.1 range.2
    64 + 32 * beginnings sequences + 4 * sequences.length

def Atom.bytes : Atom → Nat
  | .one s =>
    match s.ranges with
    | [(a, b)] => if a = b then 32 * (encoded a).length else setBytes s
    | _ => setBytes s
  | .look _ => 32

/-- The bytes that an expression takes; what repeats nothing at all is not repeated. -/
def bytes : Regex Atom → Nat
  | .empty => 32
  | .leaf a => a.bytes
  | .concat r s => r.bytes + s.bytes
  | .either r s => r.bytes + s.bytes + 72
  | .times r least most =>
    match most with
    | none => max least 1 * r.bytes + 40
    | some most =>
      if most = 0 then 32 else most * r.bytes + (most - least) * 40 + 32

def sizeLimit : Nat := 10 * Nat.pow 2 20

def fits (r : Regex Atom) : Bool := r.bytes ≤ sizeLimit

end ModelForm.Regex
