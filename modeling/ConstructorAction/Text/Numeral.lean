namespace ConstructorAction.Text

/-!
Numerals: the values of digits, and texts of digits alone.
-/

/-- The first number that does not fit into 64 bits. -/
def wordLimit : Nat := 18446744073709551616

/-- The first number that does not fit into 64 bits with a sign. -/
def signedLimit : Nat := 9223372036854775808

/-- The value of decimal digits, the most significant first. -/
def decimalValue (digits : List Char) : Nat :=
  digits.foldl (fun value c => value * 10 + (c.toNat - 48)) 0

/-- The value of a text that consists of decimal digits, of which there is at least one. -/
def numeral? (text : List Char) : Option Nat :=
  if text.isEmpty || !text.all Char.isDigit then none else some (decimalValue text)

/-- The value of a digit in base sixteen, in upper or lower case. -/
def hexDigit? (c : Char) : Option Nat :=
  if c.isDigit then some (c.toNat - 48)
  else if 'a' ≤ c ∧ c ≤ 'f' then some (c.toNat - 87)
  else if 'A' ≤ c ∧ c ≤ 'F' then some (c.toNat - 55)
  else none

end ConstructorAction.Text
