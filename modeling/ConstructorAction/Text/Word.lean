import ConstructorAction.Text.Alphabetic
import ConstructorAction.Text.Mark
import ConstructorAction.Text.Number

namespace ConstructorAction.Text

/-!
Two classes of word characters. Identifiers are made of letters, decimal digits, marks, connectors
and join controls (`isWordChar`); names are cut into words at what is neither alphanumeric nor an
underscore (`isNameChar`). They differ on marks (`é` written with U+0301), on connectors other than
the underscore, and on numbers such as `²`. They also differ in age: identifiers are judged by
Unicode 16.0, names by 17.0.
-/

/-- Letters and digits that version 17.0 of Unicode added. -/
def laterAlphanumericRanges : CodeRanges :=
  [(0x88F, 0x88F), (0xC5C, 0xC5C), (0xCDC, 0xCDC), (0xA7CE, 0xA7CF), (0xA7D2, 0xA7D2),
   (0xA7D4, 0xA7D4), (0xA7F1, 0xA7F1), (0x10940, 0x10959), (0x10EC5, 0x10EC7), (0x11B60, 0x11B67),
   (0x11DB0, 0x11DDB), (0x11DE0, 0x11DE9), (0x16EA0, 0x16EB8), (0x16EBB, 0x16ED3),
   (0x16FF2, 0x16FF6), (0x187F8, 0x187FF), (0x18D09, 0x18D1E), (0x18D80, 0x18DF2),
   (0x1E6C0, 0x1E6DE), (0x1E6E0, 0x1E6F5), (0x1E6FE, 0x1E6FF), (0x2B73A, 0x2B73F),
   (0x2CEA2, 0x2CEAD), (0x323B0, 0x33479)]

/-- Characters that may stand inside an identifier, as of Unicode 16.0. -/
def isWordChar (c : Char) : Bool :=
  if c.toNat < 128 then c.isAlphanum || c == '_'
  else isAlphabetic c || isDecimalDigit c || isJoining c

/-- Letters and numbers of every kind, as of Unicode 17.0. -/
def isAlphanumeric (c : Char) : Bool :=
  if c.toNat < 128 then c.isAlphanum
  else
    isAlphabetic c || isDecimalDigit c || isOtherNumber c ||
      laterAlphanumericRanges.contains c.toNat

/-- Characters that belong to a word of a name. -/
def isNameChar (c : Char) : Bool := isAlphanumeric c || c == '_'

/-- Characters that may start an identifier: the letters of ASCII and the underscore. -/
def isNameStart (c : Char) : Bool := c.isAlpha || c == '_'

/-- An identifier: a letter of ASCII or an underscore, then word characters. -/
def isIdentifier : List Char → Bool
  | [] => false
  | c :: rest => isNameStart c && rest.all isWordChar

theorem toNat_lt_of_isNameStart {c : Char} (start : isNameStart c = true) : c.toNat < 128 := by
  simp only [isNameStart, Bool.or_eq_true, beq_iff_eq] at start
  rcases start with letter | rfl
  · rcases Bool.or_eq_true_iff.mp (letter : (c.isUpper || c.isLower) = true) with upper | lower
    · have bounds : c.val ≥ 'A'.val ∧ c.val ≤ 'Z'.val := of_decide_eq_true upper
      exact Nat.lt_of_le_of_lt (UInt32.le_iff_toNat_le.mp bounds.2) (by decide)
    · have bounds := Bool.and_eq_true_iff.mp
        (lower : (decide (c.val ≥ 'a'.val) && decide (c.val ≤ 'z'.val)) = true)
      have high : c.val ≤ 'z'.val := of_decide_eq_true bounds.2
      exact Nat.lt_of_le_of_lt (UInt32.le_iff_toNat_le.mp high) (by decide)
  · decide

theorem isWordChar_of_isNameStart {c : Char} (start : isNameStart c = true) :
    isWordChar c = true := by
  have ascii := toNat_lt_of_isNameStart start
  simp only [isNameStart, Bool.or_eq_true] at start
  simp only [isWordChar, ascii, if_true, Char.isAlphanum, Bool.or_eq_true]
  rcases start with letter | underscore
  · exact Or.inl (Or.inl letter)
  · exact Or.inr underscore

end ConstructorAction.Text
