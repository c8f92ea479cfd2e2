import ConstructorAction.Text.Invisible

namespace ConstructorAction.Text

/-!
A text as messages quote it: between double quotes, with backslash escapes for quotes, backslashes
and the common controls, and the code point in braces for every other character that does not show.
-/

/-- Digits of a number in base sixteen, lower case. -/
def hex (n : Nat) : List Char := Nat.toDigits 16 n

def quotedChar (c : Char) : List Char :=
  match c with
  | '"' => ['\\', '"']
  | '\\' => ['\\', '\\']
  | '\n' => ['\\', 'n']
  | '\r' => ['\\', 'r']
  | '\t' => ['\\', 't']
  | '\x00' => ['\\', '0']
  | c => if isInvisible c then ['\\', 'u', '\x7b'] ++ hex c.toNat ++ ['\x7d'] else [c]

def quoted (text : String) : String :=
  String.ofList ('"' :: text.toList.flatMap quotedChar ++ ['"'])

end ConstructorAction.Text
