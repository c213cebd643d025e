/-!
Text from bytes that may not be text. Characters are encoded by one to four bytes; what cannot
be a part of any character has a mark in its place, one for every run of bytes that could have
begun a character.
-/

namespace ModelForm.Text

/-- A character that was begun: how many of its bytes are missing, between which bounds the next
one lies, and its code so far. -/
structure Begun where
  missing : Nat
  low : Nat := 0x80
  high : Nat := 0xBF
  code : Nat
  deriving DecidableEq, Repr, Inhabited

def mark : Char := '\ufffd'

def begun? (b : Nat) : Option Begun :=
  if b < 0xC2 then none
  else if b < 0xE0 then some { missing := 1, code := b - 0xC0 }
  else if b = 0xE0 then some { missing := 2, low := 0xA0, code := b - 0xE0 }
  else if b = 0xED then some { missing := 2, high := 0x9F, code := b - 0xE0 }
  else if b < 0xF0 then some { missing := 2, code := b - 0xE0 }
  else if b = 0xF0 then some { missing := 3, low := 0x90, code := b - 0xF0 }
  else if b < 0xF4 then some { missing := 3, code := b - 0xF0 }
  else if b = 0xF4 then some { missing := 3, high := 0x8F, code := b - 0xF0 }
  else none

/-- The characters that a first byte gives at once, and what it begins. -/
def opening (b : Nat) : List Char × Option Begun :=
  if b < 0x80 then ([Char.ofNat b], none)
  else
    match begun? b with
    | some begun => ([], some begun)
    | none => ([mark], none)

def remainsFrom : Option Begun → List UInt8 → List Char
  | none, [] => []
  | some _, [] => [mark]
  | none, b :: rest => (opening b.toNat).1 ++ remainsFrom (opening b.toNat).2 rest
  | some begun, b :: rest =>
    if begun.low ≤ b.toNat ∧ b.toNat ≤ begun.high then
      let code := begun.code * 0x40 + (b.toNat - 0x80)
      if begun.missing = 1 then Char.ofNat code :: remainsFrom none rest
      else remainsFrom (some { missing := begun.missing - 1, code }) rest
    else mark :: (opening b.toNat).1 ++ remainsFrom (opening b.toNat).2 rest

def remains (bytes : List UInt8) : String := String.ofList (remainsFrom none bytes)

example : remains [0x61, 0xE2, 0x82, 0xAC, 0xE2, 0x82, 0x62, 0xC0, 0x80] =
    "a\u20ac\ufffdb\ufffd\ufffd" := by decide

end ModelForm.Text
