/-!
Lengths of text as form inputs count them, in units of sixteen bits, and the
characters of white space.
-/

namespace ModelForm.Text

def units (c : Char) : Nat := if c.toNat < 0x10000 then 1 else 2

def length16 (s : String) : Nat := s.toList.foldr (fun c n => units c + n) 0

def whiteSpaceRanges : List (Nat × Nat) :=
  [(0x09, 0x0D), (0x20, 0x20), (0x85, 0x85), (0xA0, 0xA0), (0x1680, 0x1680), (0x2000, 0x200A),
    (0x2028, 0x2029), (0x202F, 0x202F), (0x205F, 0x205F), (0x3000, 0x3000)]

def isWhiteSpace (c : Char) : Bool :=
  whiteSpaceRanges.any fun range => range.1 ≤ c.toNat && c.toNat ≤ range.2

def trimStart (cs : List Char) : List Char := cs.dropWhile isWhiteSpace

end ModelForm.Text
