import ModelForm.Regex.Basic

/-!
Searching a text. A set of places is a natural number whose bit `i` stands for place
`i`; an expression moves all places at once. What its leaves can do at which places is
found out once for every text.
-/

namespace ModelForm.Regex

/-- A leaf at one text: at the places of the set it takes a character, or holds. -/
inductive Mask where
  | take (places : Nat)
  | check (places : Nat)
  deriving DecidableEq, Repr, Inhabited

def placesFrom (p : Option Char → Option Char → Bool) (before : Option Char) (i : Nat) :
    List Char → Nat
  | [] => if p before none then Nat.pow 2 i else 0
  | c :: rest =>
    (if p before (some c) then Nat.pow 2 i else 0) ||| placesFrom p (some c) (i + 1) rest

def places (p : Option Char → Option Char → Bool) (text : List Char) : Nat :=
  placesFrom p none 0 text

def Atom.mask (text : List Char) : Atom → Mask
  | .one set => .take (places (fun _ after => after.any set.contains) text)
  | .look l => .check (places (fun before after => l.holds before after) text)

def Mask.move (m : Mask) (from_ : Nat) : Nat :=
  match m with
  | .take places => (from_ &&& places) <<< 1
  | .check places => from_ &&& places

def exactly (move : Nat → Nat) : Nat → Nat → Nat
  | 0, from_ => from_
  | n + 1, from_ => if from_ = 0 then 0 else exactly move n (move from_)

/-- Moves at most `n` times, unless nothing new is reached. -/
def upTo (move : Nat → Nat) : Nat → Nat → Nat
  | 0, from_ => from_
  | n + 1, from_ =>
    let reached := from_ ||| move from_
    if reached = from_ then from_ else upTo move n reached

/-- The places reached from a set of places; `size` exceeds the length of the text. -/
def run (size : Nat) : Regex Mask → Nat → Nat
  | .empty, from_ => from_
  | .leaf m, from_ => m.move from_
  | .concat r s, from_ => s.run size (r.run size from_)
  | .either r s, from_ => r.run size from_ ||| s.run size from_
  | .times r least most, from_ =>
    let start := exactly (r.run size) least from_
    match most with
    | none => upTo (r.run size) size start
    | some most => upTo (r.run size) (most - least) start

def occurs (r : Regex Atom) (text : List Char) : Bool :=
  let size := text.length + 1
  (r.map (Atom.mask text)).run size (Nat.pow 2 size - 1) != 0

end ModelForm.Regex
