import ModelForm.Unicode.Property

/-!
Regular expressions and what they match. A match runs between two places of a text,
and place `i` lies before the character with index `i`. Assertions look at the
characters on both sides of a place.
-/

namespace ModelForm

/-- A regular expression over leaves that either take one character or assert something. -/
inductive Regex (α : Type) where
  | empty
  | leaf (a : α)
  | concat (r s : Regex α)
  | either (r s : Regex α)
  | times (r : Regex α) (least : Nat) (most : Option Nat)
  deriving Repr, Inhabited

namespace Regex

def map {α β : Type} (f : α → β) : Regex α → Regex β
  | .empty => .empty
  | .leaf a => .leaf (f a)
  | .concat r s => .concat (r.map f) (s.map f)
  | .either r s => .either (r.map f) (s.map f)
  | .times r least most => .times (r.map f) least most

inductive Look where
  | textStart
  | textEnd
  | lineStart (crlf : Bool)
  | lineEnd (crlf : Bool)
  | wordBoundary (ascii : Bool)
  | notWordBoundary (ascii : Bool)
  | wordStart (ascii : Bool)
  | wordEnd (ascii : Bool)
  | wordStartHalf (ascii : Bool)
  | wordEndHalf (ascii : Bool)
  deriving DecidableEq, Repr, Inhabited

inductive Atom where
  | one (set : CharSet)
  | look (look : Look)
  deriving DecidableEq, Repr, Inhabited

def asciiWord : CharSet :=
  CharSet.ofRanges [(0x30, 0x39), (0x41, 0x5A), (0x5F, 0x5F), (0x61, 0x7A)]

def isWordChar (ascii : Bool) (c : Option Char) : Bool :=
  c.any fun c => (if ascii then asciiWord else Unicode.wordCharacters).contains c

/-- Whether the assertion holds between these two characters; at an end of the text there is
none. -/
def Look.holds (before after : Option Char) : Look → Bool
  | .textStart => before.isNone
  | .textEnd => after.isNone
  | .lineStart false => before.isNone || before == some '\n'
  | .lineEnd false => after.isNone || after == some '\n'
  | .lineStart true =>
    before.isNone || before == some '\n' || (before == some '\r' && after != some '\n')
  | .lineEnd true =>
    after.isNone || after == some '\r' || (after == some '\n' && before != some '\r')
  | .wordBoundary ascii => isWordChar ascii before != isWordChar ascii after
  | .notWordBoundary ascii => isWordChar ascii before == isWordChar ascii after
  | .wordStart ascii => !isWordChar ascii before && isWordChar ascii after
  | .wordEnd ascii => isWordChar ascii before && !isWordChar ascii after
  | .wordStartHalf ascii => !isWordChar ascii before
  | .wordEndHalf ascii => !isWordChar ascii after

def charBefore (text : List Char) (i : Nat) : Option Char :=
  if i = 0 then none else text[i - 1]?

inductive Atom.Matches (text : List Char) : Atom → Nat → Nat → Prop where
  | one {set : CharSet} {c : Char} {i : Nat} :
    text[i]? = some c → set.contains c = true → Matches text (.one set) i (i + 1)
  | look {l : Look} {i : Nat} :
    i ≤ text.length → l.holds (charBefore text i) text[i]? = true → Matches text (.look l) i i

/-- What an expression matches from one place to another, given what its leaves match. -/
inductive Matches {α : Type} (leaf : α → Nat → Nat → Prop) : Regex α → Nat → Nat → Prop where
  | empty {i : Nat} : Matches leaf .empty i i
  | leaf {a : α} {i j : Nat} : leaf a i j → Matches leaf (.leaf a) i j
  | concat {r s : Regex α} {i j k : Nat} :
    Matches leaf r i j → Matches leaf s j k → Matches leaf (.concat r s) i k
  | left {r s : Regex α} {i j : Nat} : Matches leaf r i j → Matches leaf (.either r s) i j
  | right {r s : Regex α} {i j : Nat} : Matches leaf s i j → Matches leaf (.either r s) i j
  | stop {r : Regex α} {most : Option Nat} {i : Nat} : Matches leaf (.times r 0 most) i i
  | again {r : Regex α} {least : Nat} {most : Option Nat} {i j k : Nat} :
    most ≠ some 0 → Matches leaf r i j →
      Matches leaf (.times r (least - 1) (most.map (· - 1))) j k →
      Matches leaf (.times r least most) i k

def Occurs (r : Regex Atom) (text : List Char) : Prop :=
  ∃ i j, i ≤ text.length ∧ Matches (Atom.Matches text) r i j

end Regex

end ModelForm
