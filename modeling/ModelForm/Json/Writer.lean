import ModelForm.Json.Value

/-!
Values as text, on one line or indented by two blanks. Only the quote, the
backslash and control characters are escaped.
-/

namespace ModelForm

namespace Json

def hexDigit (n : Nat) : Char :=
  (Nat.toDigits 16 n).headD '0'

def escapeChar (c : Char) : List Char :=
  match c with
  | '"' => ['\\', '"']
  | '\\' => ['\\', '\\']
  | '\x08' => ['\\', 'b']
  | '\x0c' => ['\\', 'f']
  | '\n' => ['\\', 'n']
  | '\r' => ['\\', 'r']
  | '\t' => ['\\', 't']
  | c =>
    if c.toNat < 0x20 then
      ['\\', 'u', '0', '0', hexDigit (c.toNat / 16), hexDigit (c.toNat % 16)]
    else [c]

def quoted (s : String) : String :=
  String.ofList ('"' :: s.toList.flatMap escapeChar ++ ['"'])

mutual

def compact : Json → String
  | .null => "null"
  | .bool b => if b then "true" else "false"
  | .number n => n.text
  | .string s => quoted s
  | .array [] => "[]"
  | .array (item :: rest) => "[" ++ item.compact ++ compactItems rest ++ "]"
  | .object [] => "\x7b\x7d"
  | .object ((key, item) :: rest) =>
    "\x7b" ++ quoted key ++ ":" ++ item.compact ++ compactMembers rest ++ "\x7d"

def compactItems : List Json → String
  | [] => ""
  | item :: rest => "," ++ item.compact ++ compactItems rest

def compactMembers : List (String × Json) → String
  | [] => ""
  | (key, item) :: rest => "," ++ quoted key ++ ":" ++ item.compact ++ compactMembers rest

end

def indentation (depth : Nat) : String :=
  "\n" ++ String.ofList (List.replicate (2 * depth) ' ')

mutual

def indented (depth : Nat) : Json → String
  | .null => "null"
  | .bool b => if b then "true" else "false"
  | .number n => n.text
  | .string s => quoted s
  | .array [] => "[]"
  | .array (item :: rest) =>
    "[" ++ indentation (depth + 1) ++ item.indented (depth + 1) ++
      indentedItems (depth + 1) rest ++ indentation depth ++ "]"
  | .object [] => "\x7b\x7d"
  | .object ((key, item) :: rest) =>
    "\x7b" ++ indentation (depth + 1) ++ quoted key ++ ": " ++ item.indented (depth + 1) ++
      indentedMembers (depth + 1) rest ++ indentation depth ++ "\x7d"

def indentedItems (depth : Nat) : List Json → String
  | [] => ""
  | item :: rest =>
    "," ++ indentation depth ++ item.indented depth ++ indentedItems depth rest

def indentedMembers (depth : Nat) : List (String × Json) → String
  | [] => ""
  | (key, item) :: rest =>
    "," ++ indentation depth ++ quoted key ++ ": " ++ item.indented depth ++
      indentedMembers depth rest

end

def pretty (v : Json) : String := v.indented 0

end Json

end ModelForm
