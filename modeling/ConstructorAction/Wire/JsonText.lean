import ConstructorAction.Decimal.Shortest
import ConstructorAction.Text.Numeral
import ConstructorAction.Text.Quoted
import ConstructorAction.Wire.Json

namespace ConstructorAction.Wire

open ConstructorAction.Decimal ConstructorAction.Text

/-!
JSON text: written on one line or over several, and read back. The reader takes the grammar of the
format literally; it refuses text after the value.
-/

namespace Json

def escapedChar (c : Char) : List Char :=
  match c with
  | '"' => ['\\', '"']
  | '\\' => ['\\', '\\']
  | '\n' => ['\\', 'n']
  | '\r' => ['\\', 'r']
  | '\t' => ['\\', 't']
  | '\x08' => ['\\', 'b']
  | '\x0c' => ['\\', 'f']
  | c =>
      if c.toNat < 32 then
        '\\' :: 'u' :: List.replicate (4 - (hex c.toNat).length) '0' ++ hex c.toNat
      else [c]

def stringText (text : String) : String :=
  String.ofList ('"' :: text.toList.flatMap escapedChar ++ ['"'])

/-- A double as a JSON number; there is none for infinities and NaN. -/
def doubleText (x : Float) : String := scientific x

mutual

/-- The value without any blanks. -/
def compact : Json → String
  | .null => "null"
  | .bool true => "true"
  | .bool false => "false"
  | .integer value => toString value
  | .double value => doubleText value
  | .string value => stringText value
  | .array elements => "[" ++ ",".intercalate (compactElements elements) ++ "]"
  | .object members => "\x7b" ++ ",".intercalate (compactMembers members) ++ "\x7d"

def compactElements : List Json → List String
  | [] => []
  | element :: later => compact element :: compactElements later

def compactMembers : List (String × Json) → List String
  | [] => []
  | (key, value) :: later => (stringText key ++ ":" ++ compact value) :: compactMembers later

end

/-- Items one to a line, two blanks deeper than the brackets around them. -/
def block (depth : Nat) (opening closing : String) (items : List String) : String :=
  if items.isEmpty then opening ++ closing
  else
    let inner := "".pushn ' ' (2 * (depth + 1))
    opening ++ "\n" ++ ",\n".intercalate (items.map (inner ++ ·)) ++ "\n" ++
      "".pushn ' ' (2 * depth) ++ closing

mutual

/-- The value over several lines, nested by two blanks. -/
def indented (depth : Nat) : Json → String
  | .array elements => block depth "[" "]" (indentedElements (depth + 1) elements)
  | .object members => block depth "\x7b" "\x7d" (indentedMembers (depth + 1) members)
  | other => compact other

def indentedElements (depth : Nat) : List Json → List String
  | [] => []
  | element :: later => indented depth element :: indentedElements depth later

def indentedMembers (depth : Nat) : List (String × Json) → List String
  | [] => []
  | (key, value) :: later =>
      (stringText key ++ ": " ++ indented depth value) :: indentedMembers depth later

end

def pretty (value : Json) : String := indented 0 value

def isSpace (c : Char) : Bool := c == ' ' || c == '\n' || c == '\r' || c == '\t'

def hexUnit? : List Char → Option (Nat × List Char)
  | a :: b :: c :: d :: rest => do
      let high := (← hexDigit? a) * 16 + (← hexDigit? b)
      let low := (← hexDigit? c) * 16 + (← hexDigit? d)
      let unit := high * 256 + low
      some (unit, rest)
  | _ => none

/-- The character behind `\u`: one unit, or two that form a pair. -/
def escapedUnits? (text : List Char) : Option (Char × List Char) := do
  let (unit, rest) ← hexUnit? text
  if 0xD800 ≤ unit ∧ unit < 0xDC00 then
    match rest with
    | '\\' :: 'u' :: more =>
        let (low, rest) ← hexUnit? more
        if 0xDC00 ≤ low ∧ low < 0xE000 then
          some (Char.ofNat (0x10000 + (unit - 0xD800) * 0x400 + (low - 0xDC00)), rest)
        else none
    | _ => none
  else if 0xDC00 ≤ unit ∧ unit < 0xE000 then none
  else some (Char.ofNat unit, rest)

/-- The characters up to the closing quote. -/
def readString : Nat → List Char → Option (List Char × List Char)
  | 0, _ => none
  | _ + 1, [] => none
  | _ + 1, '"' :: rest => some ([], rest)
  | fuel + 1, '\\' :: c :: rest => do
      let (decoded, rest) ← match c with
        | '"' => some ('"', rest)
        | '\\' => some ('\\', rest)
        | '/' => some ('/', rest)
        | 'b' => some ('\x08', rest)
        | 'f' => some ('\x0c', rest)
        | 'n' => some ('\n', rest)
        | 'r' => some ('\r', rest)
        | 't' => some ('\t', rest)
        | 'u' => escapedUnits? rest
        | _ => none
      let (text, rest) ← readString fuel rest
      some (decoded :: text, rest)
  | fuel + 1, c :: rest => do
      if c.toNat < 32 || c = '\\' then none
      else
        let (text, rest) ← readString fuel rest
        some (c :: text, rest)

/-- The longest start of a numeral whose value fits in 64 bits, and the number of digits left. -/
def leadingValue : Nat → List Char → Nat × Nat
  | value, [] => (value, 0)
  | value, c :: rest =>
      let next := value * 10 + (c.toNat - 48)
      if next < wordLimit then leadingValue next rest else (value, rest.length + 1)

/-- A significand of at most 64 bits, rounded to a double and scaled by powers of ten up to 308. -/
def scaled (significand : Nat) (exponent : Int) : Option Float :=
  go 8 (Float.ofNat significand) exponent
where
  go : Nat → Float → Int → Option Float
    | 0, _, _ => none
    | fuel + 1, x, exponent =>
        if 308 < exponent then if x == 0 then some x else none
        else if 0 ≤ exponent then
          let product := x * powerOfTen exponent.toNat
          if product.isInf then none else some product
        else if -308 ≤ exponent then some (x / powerOfTen (-exponent).toNat)
        else if x == 0 then some x
        else go fuel (x / powerOfTen 308) (exponent + 308)

/-- An exponent after `e`, with a sign or without. -/
def exponent? : List Char → Option (Int × List Char)
  | 'e' :: rest | 'E' :: rest =>
      let (negative, rest) := match rest with
        | '-' :: more => (true, more)
        | '+' :: more => (false, more)
        | _ => (false, rest)
      let digits := rest.takeWhile Char.isDigit
      if digits.isEmpty then none
      else
        let value : Int := decimalValue digits
        some (if negative then -value else value, rest.dropWhile Char.isDigit)
  | rest => some (0, rest)

/-- A number. An integer that fits in 64 bits stays one; every other number is a double made from
the digits that fit in 64 bits. -/
def readNumber (text : List Char) : Option (Json × List Char) := do
  let (negative, text) := match text with
    | '-' :: more => (true, more)
    | _ => (false, text)
  let whole := text.takeWhile Char.isDigit
  let rest := text.dropWhile Char.isDigit
  if whole.isEmpty || (whole.head? == some '0' && 1 < whole.length) then none
  let (fraction, rest, pointed) ← match rest with
    | '.' :: more =>
        let digits := more.takeWhile Char.isDigit
        if digits.isEmpty then none else some (digits, more.dropWhile Char.isDigit, true)
    | _ => some ([], rest, false)
  let exponential := rest.head? == some 'e' || rest.head? == some 'E'
  let (power, rest) ← exponent? rest
  let value := decimalValue whole
  if !pointed && !exponential && !negative && value < wordLimit then some (.integer value, rest)
  else if !pointed && !exponential && negative && value ≠ 0 && value ≤ signedLimit then
    some (.integer (-value), rest)
  else
    let (significand, dropped) := leadingValue 0 (whole ++ fraction)
    let power : Int := power + dropped - fraction.length
    let x ← scaled significand (max (-3000) power)
    some (.double (if negative then -x else x), rest)

def skipSpaces (text : List Char) : List Char := text.dropWhile isSpace

mutual

def readValue : Nat → List Char → Option (Json × List Char)
  | 0, _ => none
  | fuel + 1, text =>
      match skipSpaces text with
      | 'n' :: 'u' :: 'l' :: 'l' :: rest => some (.null, rest)
      | 't' :: 'r' :: 'u' :: 'e' :: rest => some (.bool true, rest)
      | 'f' :: 'a' :: 'l' :: 's' :: 'e' :: rest => some (.bool false, rest)
      | '"' :: rest => do
          let (text, rest) ← readString (rest.length + 1) rest
          some (.string (String.ofList text), rest)
      | '[' :: rest =>
          match skipSpaces rest with
          | ']' :: rest => some (.array [], rest)
          | rest => do
              let (elements, rest) ← readElements fuel rest
              some (.array elements, rest)
      | '\x7b' :: rest =>
          match skipSpaces rest with
          | '\x7d' :: rest => some (.object [], rest)
          | rest => do
              let (members, rest) ← readMembers fuel rest
              some (ofMembers members, rest)
      | text => readNumber text

def readElements : Nat → List Char → Option (List Json × List Char)
  | 0, _ => none
  | fuel + 1, text => do
      let (element, rest) ← readValue fuel text
      match skipSpaces rest with
      | ']' :: rest => some ([element], rest)
      | ',' :: rest =>
          let (elements, rest) ← readElements fuel rest
          some (element :: elements, rest)
      | _ => none

def readMembers : Nat → List Char → Option (List (String × Json) × List Char)
  | 0, _ => none
  | fuel + 1, text =>
      match skipSpaces text with
      | '"' :: rest => do
          let (key, rest) ← readString (rest.length + 1) rest
          match skipSpaces rest with
          | ':' :: rest =>
              let (value, rest) ← readValue fuel rest
              match skipSpaces rest with
              | '\x7d' :: rest => some ([(String.ofList key, value)], rest)
              | ',' :: rest =>
                  let (members, rest) ← readMembers fuel rest
                  some ((String.ofList key, value) :: members, rest)
              | _ => none
          | _ => none
      | _ => none

end

/-- The value that a whole text stands for. -/
def parse? (text : String) : Option Json := do
  let chars := text.toList
  let (value, rest) ← readValue (chars.length + 1) chars
  if (skipSpaces rest).isEmpty then some value else none

end Json

end ConstructorAction.Wire
