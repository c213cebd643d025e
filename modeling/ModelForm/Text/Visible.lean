import ModelForm.Text.Units
import ModelForm.Unicode.Property

/-!
Quoting a text for a reader: what cannot be seen, or would join the character in
front of it, is written by its code.
-/

namespace ModelForm.Text

/-- Characters that show nothing of their own, the blank apart. -/
def invisible : CharSet :=
  ((Unicode.category? "c").getD CharSet.empty).union
    ((Unicode.category? "z").getD CharSet.empty) |>.difference (CharSet.single ' ')

def visibleChar (c : Char) : List Char :=
  match c with
  | '\x00' => ['\\', '0']
  | '\t' => ['\\', 't']
  | '\n' => ['\\', 'n']
  | '\r' => ['\\', 'r']
  | '"' => ['\\', '"']
  | '\\' => ['\\', '\\']
  | c =>
    if c.toNat < 0x7f ∧ 0x20 ≤ c.toNat then [c]
    else if Unicode.graphemeExtend.contains c || invisible.contains c then
      '\\' :: 'u' :: '\x7b' :: Nat.toDigits 16 c.toNat ++ ['\x7d']
    else [c]

def visible (s : String) : String :=
  String.ofList ('"' :: s.toList.flatMap visibleChar ++ ['"'])

end ModelForm.Text
