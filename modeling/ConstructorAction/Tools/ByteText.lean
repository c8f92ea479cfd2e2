import ConstructorAction.Text.Numeral
import ConstructorAction.Text.Utf8

namespace ConstructorAction.Tools

/-!
Bytes as text of one character for each byte, U+0000 to U+00FF. Text tools take their input apart
byte by byte; in this form they can be written with character literals.
-/

abbrev ByteText := List Char

def ofBytes (bytes : List UInt8) : ByteText := bytes.map fun byte => Char.ofNat byte.toNat

def toBytes (text : ByteText) : List UInt8 := text.map fun c => c.toNat.toUInt8

def ofString (text : String) : ByteText := ofBytes (Text.toUtf8 text.toList)

/-- The text that bytes are in UTF-8; what is not gives replacement characters. -/
def asString (text : ByteText) : String := String.ofList (Text.ofUtf8Lossy (toBytes text))

def allBytes : ByteText := (List.range 256).map Char.ofNat

/-- Pieces of a text that end in `delimiter`; the last one may lack it. -/
def recordsBy (delimiter : Char) (text : ByteText) : List ByteText :=
  go [] text
where
  go (line : ByteText) : ByteText → List ByteText
    | [] => if line.isEmpty then [] else [line.reverse]
    | c :: rest =>
        if c = delimiter then (c :: line).reverse :: go [] rest else go (c :: line) rest

def records (text : ByteText) : List ByteText := recordsBy '\n' text

def contentBy (delimiter : Char) (record : ByteText) : ByteText :=
  if record.getLast? = some delimiter then record.dropLast else record

def content (record : ByteText) : ByteText := contentBy '\n' record

def isOctalDigit (c : Char) : Bool := '0' ≤ c && c ≤ '7'

def isHexDigit (c : Char) : Bool :=
  c.isDigit || ('a' ≤ c && c ≤ 'f') || ('A' ≤ c && c ≤ 'F')

def digitValue (c : Char) : Nat :=
  if c.isDigit then c.toNat - 48
  else if 'a' ≤ c ∧ c ≤ 'f' then c.toNat - 87
  else if 'A' ≤ c ∧ c ≤ 'F' then c.toNat - 55
  else 0

def valueInBase (base : Nat) (digits : ByteText) : Nat :=
  digits.foldl (fun value c => value * base + digitValue c) 0

/-- Up to `count` octal digits: their value and what follows them. -/
def octal (count : Nat) (text : ByteText) : Nat × ByteText :=
  let digits := (text.take count).takeWhile isOctalDigit
  (valueInBase 8 digits, text.drop digits.length)

def isBlankByte (c : Char) : Bool := c == ' ' || c == '\t'

def isSpaceByte (c : Char) : Bool := c == ' ' || ('\t' ≤ c && c ≤ '\r')

def isPrintable (c : Char) : Bool := ' ' ≤ c && c ≤ '~'

def isPunctuation (c : Char) : Bool := isPrintable c && c != ' ' && !c.isAlphanum

def isControl (c : Char) : Bool := c < ' ' || c == '\x7f'

/-- The members of a class such as `[:alpha:]`. -/
def characterClass? (name : String) : Option (Char → Bool) :=
  match name with
  | "alpha" => some Char.isAlpha
  | "digit" => some Char.isDigit
  | "alnum" => some Char.isAlphanum
  | "upper" => some Char.isUpper
  | "lower" => some Char.isLower
  | "space" => some isSpaceByte
  | "blank" => some isBlankByte
  | "punct" => some isPunctuation
  | "print" => some isPrintable
  | "graph" => some fun c => isPrintable c && c != ' '
  | "cntrl" => some isControl
  | "xdigit" => some isHexDigit
  | _ => none

end ConstructorAction.Tools
