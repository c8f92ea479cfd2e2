import ConstructorAction.Tools.ByteText

namespace ConstructorAction.Tools.Shell

/-!
Numbers with a fraction, as far as formatted output needs them: read to the nearest number that has
53 bits, and written in the notations with and without an exponent. A half is rounded to the even
side.
-/

/-- A number without sign: the integer times a power of two, or one that is too large. -/
inductive Magnitude where
  | finite (integer : Nat) (exponent : Int)
  | infinite
  | notANumber
  deriving DecidableEq, Repr, Inhabited

def roundedQuotient (numerator denominator : Nat) : Nat :=
  let quotient := numerator / denominator
  let rest := numerator % denominator
  if denominator < 2 * rest ∨ (2 * rest = denominator ∧ quotient % 2 = 1) then quotient + 1
  else quotient

def scaled (base : Nat) (exponent : Int) (numerator denominator : Nat) : Nat × Nat :=
  if 0 ≤ exponent then (numerator * Nat.pow base exponent.toNat, denominator)
  else (numerator, denominator * Nat.pow base (-exponent).toNat)

/-- The nearest number of 53 bits. Small ones have fewer bits, and large ones are infinite. -/
def nearest (numerator denominator : Nat) : Magnitude :=
  if numerator = 0 then .finite 0 0
  else
    let estimate : Int := (Nat.log2 numerator : Int) - (Nat.log2 denominator : Int) - 52
    let fitting := fun exponent : Int =>
      let (n, d) := scaled 2 (-exponent) numerator denominator
      (roundedQuotient n d, n / d)
    let exponent := if (fitting estimate).2 < Nat.pow 2 52 then estimate - 1 else estimate
    let exponent := max exponent (-1074)
    let integer := (fitting exponent).1
    let (integer, exponent) :=
      if integer = Nat.pow 2 53 then (Nat.pow 2 52, exponent + 1) else (integer, exponent)
    if 971 < exponent then .infinite else .finite integer exponent

/-- Digits with a point among them: their value as an integer, and how many are behind the point. -/
def readDigits (isDigit : Char → Bool) (text : ByteText) : ByteText × Nat × ByteText :=
  let whole := text.takeWhile isDigit
  match text.drop whole.length with
  | '.' :: rest =>
      let fraction := rest.takeWhile isDigit
      (whole ++ fraction, fraction.length, rest.drop fraction.length)
  | rest => (whole, 0, rest)

/-- An exponent behind one of two letters; zero if there are no digits. -/
def readExponent (lower upper : Char) (text : ByteText) : Int × ByteText :=
  match text with
  | letter :: rest =>
      if letter = lower ∨ letter = upper then
        let (isNegative, digits) := match rest with
          | '-' :: digits => (true, digits)
          | '+' :: digits => (false, digits)
          | digits => (false, digits)
        let found := digits.takeWhile Char.isDigit
        if found.isEmpty then (0, text)
        else
          let value : Int := min (valueInBase 10 found) 100000
          (if isNegative then -value else value, digits.drop found.length)
      else (0, text)
  | [] => (0, text)

/-- A number at the start of a text: whether it is negative, its size and what follows; none if
there is no number. -/
def readFloating? (text : ByteText) : Option (Bool × Magnitude × ByteText) :=
  let text := text.dropWhile isSpaceByte
  let (isNegative, unsigned) := match text with
    | '-' :: rest => (true, rest)
    | '+' :: rest => (false, rest)
    | rest => (false, rest)
  let startsWith := fun word : String =>
    unsigned.length ≥ word.length &&
      (unsigned.take word.length).map Char.toLower == word.toList
  let hexadecimal := fun rest : ByteText =>
    let (digits, behind, rest) := readDigits isHexDigit rest
    if digits.isEmpty then none
    else
      let (exponent, rest) := readExponent 'p' 'P' rest
      let (n, d) := scaled 2 (exponent - 4 * behind) (valueInBase 16 digits) 1
      some (nearest n d, rest)
  let decimal := fun rest : ByteText =>
    let (digits, behind, rest) := readDigits Char.isDigit rest
    if digits.isEmpty then none
    else
      let (exponent, rest) := readExponent 'e' 'E' rest
      let (n, d) := scaled 10 (exponent - behind) (valueInBase 10 digits) 1
      some (nearest n d, rest)
  let found :=
    if startsWith "infinity" then some (Magnitude.infinite, unsigned.drop 8)
    else if startsWith "inf" then some (.infinite, unsigned.drop 3)
    else if startsWith "nan" then some (.notANumber, unsigned.drop 3)
    else if startsWith "0x" then
      match hexadecimal (unsigned.drop 2) with
      | some found => some found
      | none => decimal unsigned
    else decimal unsigned
  found.map fun (value, rest) => (isNegative, value, rest)

/-- Decimal digits, at least `count` of them. -/
def paddedDigits (count value : Nat) : ByteText :=
  let digits := Nat.toDigits 10 value
  List.replicate (count - digits.length) '0' ++ digits

def withPoint (keepsPoint : Bool) (behind : Nat) (digits : ByteText) : ByteText :=
  let whole := digits.take (digits.length - behind)
  if behind = 0 then (if keepsPoint then whole ++ ['.'] else whole)
  else whole ++ '.' :: digits.drop (digits.length - behind)

def fixedText (keepsPoint : Bool) (precision : Nat) (integer : Nat) (exponent : Int) : ByteText :=
  let (n, d) := scaled 2 exponent (integer * Nat.pow 10 precision) 1
  withPoint keepsPoint precision (paddedDigits (precision + 1) (roundedQuotient n d))

/-- The digits of a number in front of an exponent, and the exponent. -/
def significant (precision : Nat) (integer : Nat) (exponent : Int) : Nat × Int :=
  if integer = 0 then (0, 0)
  else
    let (n, d) := scaled 2 exponent integer 1
    let size := fun value : Nat => ((Nat.toDigits 10 value).length : Int)
    let guess := size n - size d
    let isBelow := fun power : Int =>
      let (a, b) := scaled 10 (-power) n d
      a < b
    let power := if isBelow guess then guess - 1 else guess
    let (a, b) := scaled 10 ((precision : Int) - power) n d
    let digits := roundedQuotient a b
    if digits = Nat.pow 10 (precision + 1) then (Nat.pow 10 precision, power + 1)
    else (digits, power)

def exponentText (letter : Char) (exponent : Int) : ByteText :=
  letter :: (if exponent < 0 then '-' else '+') :: paddedDigits 2 exponent.natAbs

def exponentialText (letter : Char) (keepsPoint : Bool) (precision : Nat) (integer : Nat)
    (exponent : Int) : ByteText :=
  let (digits, power) := significant precision integer exponent
  withPoint keepsPoint precision (paddedDigits (precision + 1) digits) ++
    exponentText letter power

def withoutFinalZeros (text : ByteText) : ByteText :=
  if text.contains '.' then
    let kept := (text.reverse.dropWhile (· == '0')).reverse
    if kept.getLast? = some '.' then kept.dropLast else kept
  else text

def generalText (letter : Char) (keepsZeros : Bool) (precision : Nat) (integer : Nat)
    (exponent : Int) : ByteText :=
  let precision := max precision 1
  let (digits, power) := significant (precision - 1) integer exponent
  let trim := fun text : ByteText => if keepsZeros then text else withoutFinalZeros text
  if -4 ≤ power ∧ power < precision then
    trim (fixedText keepsZeros ((precision : Int) - 1 - power).toNat integer exponent)
  else
    trim (withPoint keepsZeros (precision - 1) (paddedDigits precision digits)) ++
      exponentText letter power

def floatingText (letter : Char) (keepsPoint : Bool) (precision : Option Nat)
    (value : Magnitude) : ByteText :=
  let places := precision.getD 6
  let upper := letter.isUpper
  match value with
  | .infinite => if upper then "INF".toList else "inf".toList
  | .notANumber => if upper then "NAN".toList else "nan".toList
  | .finite integer exponent =>
      match letter.toLower with
      | 'f' => fixedText keepsPoint places integer exponent
      | 'e' => exponentialText letter keepsPoint places integer exponent
      | _ =>
          generalText (if upper then 'E' else 'e') keepsPoint places integer exponent

end ConstructorAction.Tools.Shell
