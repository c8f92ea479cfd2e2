import ConstructorAction.Tools.ByteText

namespace ConstructorAction.Tools.LineSort

open ConstructorAction.Text

/-!
Numbers at the start of sort keys: plain decimals, decimals with a unit, and the numbers of general
numeric order, which have exponents and may be infinite.
-/

/-- Blanks in front of numbers; a line feed is one, too. -/
def isBlankInKeys (c : Char) : Bool := isBlankByte c || c == '\n'

/-- A decimal fraction. -/
structure Decimal where
  negative : Bool := false
  whole : ByteText := []
  fraction : ByteText := []
  deriving DecidableEq, Repr, Inhabited

namespace Decimal

/-- The decimal at the start of a text, and what follows it. Missing digits count as none. -/
def read (text : ByteText) : Decimal × ByteText :=
  let (negative, digits) := match text with
    | '-' :: rest => (true, rest)
    | text => (false, text)
  let whole := digits.takeWhile Char.isDigit
  match digits.drop whole.length with
  | '.' :: rest =>
      let fraction := rest.takeWhile Char.isDigit
      (⟨negative, whole, fraction⟩, rest.drop fraction.length)
  | rest => (⟨negative, whole, []⟩, rest)

/-- The value in units of the decimal place `places`. -/
def scaled (number : Decimal) (places : Nat) : Int :=
  let digits := number.whole ++ number.fraction ++
    List.replicate (places - number.fraction.length) '0'
  let size : Int := valueInBase 10 digits
  if number.negative then -size else size

def order (left right : Decimal) : Ordering :=
  let places := max left.fraction.length right.fraction.length
  compare (left.scaled places) (right.scaled places)

def isZero (number : Decimal) : Bool := number.scaled number.fraction.length == 0

end Decimal

def numericOrder (left right : ByteText) : Ordering :=
  (Decimal.read (left.dropWhile isBlankInKeys)).1.order
    (Decimal.read (right.dropWhile isBlankInKeys)).1

def unitRank (unit : Option Char) : Int :=
  match unit with
  | some 'k' | some 'K' => 1
  | some 'M' => 2
  | some 'G' => 3
  | some 'T' => 4
  | some 'P' => 5
  | some 'E' => 6
  | some 'Z' => 7
  | some 'Y' => 8
  | some 'R' => 9
  | some 'Q' => 10
  | _ => 0

/-- The rank of the unit behind a number; that of a negative number is below zero, and a zero has
none. -/
def rankOfNumber (text : ByteText) : Int :=
  let (number, rest) := Decimal.read text
  if number.isZero then 0
  else if number.negative then -unitRank rest.head? else unitRank rest.head?

def humanOrder (left right : ByteText) : Ordering :=
  let left := left.dropWhile isBlankInKeys
  let right := right.dropWhile isBlankInKeys
  (compare (rankOfNumber left) (rankOfNumber right)).then
    ((Decimal.read left).1.order (Decimal.read right).1)

/-- A number in general numeric order; texts without one come first, and then what is no number. -/
inductive General where
  | missing
  | undefined (negative : Bool)
  | infinite (negative : Bool)
  /-- `numerator / denominator`. -/
  | finite (numerator : Int) (denominator : Nat)
  deriving DecidableEq, Repr, Inhabited

namespace General

def bitLength (n : Nat) : Nat := if n = 0 then 0 else n.log2 + 1

def rounded (numerator denominator : Nat) : Nat × Nat :=
  if numerator = 0 then (0, 1)
  else
    let size : Int := bitLength numerator - bitLength denominator
    let divide := fun shift : Int =>
      if 0 ≤ shift then (numerator * Nat.pow 2 shift.toNat, denominator)
      else (numerator, denominator * Nat.pow 2 (-shift).toNat)
    let shift : Int :=
      let (above, under) := divide (64 - size)
      if Text.wordLimit ≤ above / under then 63 - size else 64 - size
    let (above, under) := divide shift
    let quotient := above / under
    let twice := 2 * (above % under)
    let up := under < twice || (under = twice && quotient % 2 = 1)
    let quotient := if up then quotient + 1 else quotient
    if 0 ≤ shift then (quotient, Nat.pow 2 shift.toNat)
    else (quotient * Nat.pow 2 (-shift).toNat, 1)

/-- The power of two that is too large to be told from infinity. -/
def largestExponent : Nat := 16384

/-- The power of one half that is too small to be told from zero. -/
def smallestExponent : Nat := 16446

def ofFraction (negative : Bool) (numerator denominator : Nat) : General :=
  let (above, under) := rounded numerator denominator
  if Nat.pow 2 largestExponent * under ≤ above then .infinite negative
  else if above * Nat.pow 2 smallestExponent ≤ under then .finite 0 1
  else .finite (if negative then -(above : Int) else above) under

/-- An exponent behind one of two letters, if digits follow it. -/
def readExponent (letter : Char) (text : ByteText) : Int :=
  match text with
  | c :: rest =>
      if c.toLower != letter then 0
      else
        let (negative, digits) := match rest with
          | '-' :: rest => (true, rest)
          | '+' :: rest => (false, rest)
          | rest => (false, rest)
        let value : Int := valueInBase 10 (digits.takeWhile Char.isDigit)
        if negative then -value else value
  | [] => 0

/-- The size of exponents beyond which every number is zero or infinite, however many digits. -/
def exponentBound (digits : Nat) : Int := 40000 + 4 * digits

/-- `digits` in a base, with a point before the last `places`, times a power. -/
def ofDigits (negative : Bool) (base : Nat) (digits : ByteText) (places power : Nat)
    (exponent : Int) : General :=
  let value := valueInBase base digits
  let bound := exponentBound digits.length
  if value = 0 then .finite 0 1
  else if bound < exponent then .infinite negative
  else if exponent < -bound then .finite 0 1
  else
    let under := Nat.pow base places
    if 0 ≤ exponent then ofFraction negative (value * Nat.pow power exponent.toNat) under
    else ofFraction negative value (under * Nat.pow power (-exponent).toNat)

/-- Whether a text starts with a word, however it is written. -/
def startsWith (word : String) (text : ByteText) : Bool :=
  word.toList.isPrefixOf (text.map Char.toLower)

def readDigits (isMember : Char → Bool) (text : ByteText) : ByteText × ByteText × ByteText :=
  let whole := text.takeWhile isMember
  match text.drop whole.length with
  | '.' :: rest =>
      let fraction := rest.takeWhile isMember
      if whole.isEmpty && fraction.isEmpty then ([], [], text)
      else (whole, fraction, rest.drop fraction.length)
  | rest => (whole, [], rest)

def readUnsigned (negative : Bool) (text : ByteText) : General :=
  let decimal :=
    let (whole, fraction, rest) := readDigits Char.isDigit text
    let digits := whole ++ fraction
    if digits.isEmpty then .missing
    else ofDigits negative 10 digits fraction.length 10 (readExponent 'e' rest)
  if startsWith "inf" text then .infinite negative
  else if startsWith "nan" text then .undefined negative
  else
    match text with
    | '0' :: x :: rest =>
        if x.toLower = 'x' then
          let (whole, fraction, rest) := readDigits isHexDigit rest
          let digits := whole ++ fraction
          if digits.isEmpty then .finite 0 1
          else ofDigits negative 16 digits fraction.length 2 (readExponent 'p' rest)
        else decimal
    | _ => decimal

def read (text : ByteText) : General :=
  match text.dropWhile isSpaceByte with
  | '-' :: rest => readUnsigned true rest
  | '+' :: rest => readUnsigned false rest
  | text => readUnsigned false text

def rank : General → Nat
  | .missing => 0
  | .undefined true => 1
  | .undefined false => 2
  | .infinite true => 3
  | .finite _ _ => 4
  | .infinite false => 5

def order : General → General → Ordering
  | .finite left under, .finite right under' => compare (left * under') (right * under)
  | left, right => compare left.rank right.rank

end General

def generalOrder (left right : ByteText) : Ordering :=
  (General.read left).order (General.read right)

end ConstructorAction.Tools.LineSort
