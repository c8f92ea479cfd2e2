import ConstructorAction.Text.Numeral

namespace ConstructorAction.Decimal

/-!
The fewest decimal digits that read back as a given double, and the ways they are written down.

A finite positive double is `m * 2 ^ q`. Every real between the midpoints to its two neighbours
rounds to it, the midpoints themselves when `m` is even. For one digit, two digits and so on up to
seventeen, the two decimals next to the value are tried; the first that lies in that interval is the
answer, of two the nearer one.
-/

/-- The value `0.d₁d₂d₃… * 10 ^ exponent`. -/
structure Digits where
  digits : List Char
  exponent : Int
  deriving DecidableEq, Repr

/-- The bit of a significand that is not stored, `2 ^ 52`. -/
def leadingBit : Nat := 4503599627370496

/-- The significand and the binary exponent of a finite double, its sign left out. -/
def decompose (x : Float) : Nat × Int :=
  let bits := x.toBits.toNat % Text.signedLimit
  let fraction := bits % leadingBit
  let exponent : Nat := bits / leadingBit
  if exponent = 0 then (fraction, -1074) else (fraction + leadingBit, Int.ofNat exponent - 1075)

/-- The reals that round to a double, as numerators over `scale`. -/
structure Interval where
  low : Nat
  value : Nat
  high : Nat
  scale : Nat
  closed : Bool
  deriving DecidableEq, Repr

/-- Below a power of two the neighbour is half as far as above it. -/
def Interval.ofParts (m : Nat) (q : Int) : Interval :=
  let unit := Nat.pow 2 q.toNat
  let below := if m = leadingBit ∧ q ≠ -1074 then unit else 2 * unit
  { low := 4 * m * unit - below
    value := 4 * m * unit
    high := 4 * m * unit + 2 * unit
    scale := 4 * Nat.pow 2 (-q).toNat
    closed := m % 2 = 0 }

/-- The least `k` with `value < 10 ^ k`, counting down from zero for values below one. -/
def Interval.magnitude (interval : Interval) : Int :=
  if interval.scale ≤ interval.value then
    ((Nat.toDigits 10 (interval.value / interval.scale)).length : Int)
  else descend 400 0 interval.value
where
  descend : Nat → Int → Nat → Int
    | 0, k, _ => k
    | fuel + 1, k, scaled =>
        if interval.scale ≤ scaled * 10 then k else descend fuel (k - 1) (scaled * 10)

/-- The decimal with `count` digits that reads back as the value, if there is one. -/
def Interval.withDigits? (interval : Interval) (magnitude : Int) (count : Nat) : Option Digits :=
  let up := Nat.pow 10 (magnitude - count).toNat * interval.scale
  let down := Nat.pow 10 (count - magnitude).toNat
  let inside := fun candidate : Nat =>
    if interval.closed then
      interval.low * down ≤ candidate * up ∧ candidate * up ≤ interval.high * down
    else interval.low * down < candidate * up ∧ candidate * up < interval.high * down
  let floor := interval.value * down / up
  let nearer := if 2 * (interval.value * down) ≤ (2 * floor + 1) * up then floor else floor + 1
  let further := if nearer = floor then floor + 1 else floor
  let written := fun candidate : Nat =>
    let digits := Nat.toDigits 10 candidate
    Digits.mk (digits.reverse.dropWhile (· == '0')).reverse (digits.length + magnitude - count)
  if inside nearer then some (written nearer)
  else if inside further then some (written further)
  else none

/-- The shortest digits of a finite positive double; seventeen always suffice. -/
def shortest (x : Float) : Digits :=
  let (m, q) := decompose x
  let interval := Interval.ofParts m q
  let magnitude := interval.magnitude
  ((List.range 17).findSome? fun n => interval.withDigits? magnitude (n + 1)).getD ⟨['0'], 1⟩

/-- Whether the sign bit is set. -/
def isNegative (x : Float) : Bool := Text.signedLimit ≤ x.toBits.toNat

/-- Without an exponent, and without a point where there is no fraction. -/
def Digits.positional (decimal : Digits) : String :=
  let count := decimal.digits.length
  if decimal.exponent ≤ 0 then
    "0." ++ "".pushn '0' (-decimal.exponent).toNat ++ String.ofList decimal.digits
  else if (count : Int) ≤ decimal.exponent then
    String.ofList decimal.digits ++ "".pushn '0' (decimal.exponent - count).toNat
  else
    String.ofList (decimal.digits.take decimal.exponent.toNat) ++ "." ++
      String.ofList (decimal.digits.drop decimal.exponent.toNat)

/-- An exponent with its sign, a plus included. -/
def exponentText (power : Int) : String := if 0 ≤ power then s!"+{power}" else toString power

/-- A point and a fraction of at least one digit up to 16 places before the point and 4 zeros after
it; beyond that one digit before the point and an exponent. -/
def Digits.exponential (decimal : Digits) : String :=
  let count : Int := decimal.digits.length
  if count ≤ decimal.exponent ∧ decimal.exponent ≤ 16 then decimal.positional ++ ".0"
  else if -5 < decimal.exponent ∧ decimal.exponent ≤ 16 then decimal.positional
  else
    let power := exponentText (decimal.exponent - 1)
    match decimal.digits with
    | [] => "0.0"
    | [digit] => String.ofList [digit] ++ "e" ++ power
    | digit :: fraction => String.ofList [digit] ++ "." ++ String.ofList fraction ++ "e" ++ power

/-- Sign and magnitude of a double that is neither infinite nor NaN. -/
def signed (write : Digits → String) (zero : String) (x : Float) : String :=
  let magnitude := if x == 0 then zero else write (shortest x)
  if isNegative x then "-" ++ magnitude else magnitude

/-- The digits of a double without an exponent; `inf` and `NaN` for the rest. -/
def plain (x : Float) : String :=
  if x.isNaN then "NaN"
  else if x.isInf then if isNegative x then "-inf" else "inf"
  else signed Digits.positional "0" x

/-- With an exponent where the magnitude asks for one; `null` stands for what is no number. -/
def scientific (x : Float) : String :=
  if x.isNaN || x.isInf then "null" else signed Digits.exponential "0.0" x

/-- As `plain`, and with a fraction in any case. -/
def withPoint (x : Float) : String :=
  let text := plain x
  if text.contains '.' then text else text ++ ".0"

/-- The power of ten with a natural exponent; beyond 308 it is infinite. -/
def powerOfTen (exponent : Nat) : Float :=
  if exponent ≤ 308 then Float.ofScientific 1 false exponent else 1 / 0

/-- The double nearest to `m * 10 ^ exponent`. -/
def nearest (m : Nat) (exponent : Int) : Float :=
  let places : Int := (Nat.toDigits 10 m).length
  if m = 0 then 0
  else if 400 < places + exponent then 1 / 0
  else if places + exponent < -400 then 0
  else if exponent < 0 then Float.ofScientific m true exponent.natAbs
  else Float.ofScientific m false exponent.natAbs

end ConstructorAction.Decimal
