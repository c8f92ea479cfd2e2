import ConstructorAction.Decimal.Shortest
import ConstructorAction.Text.Quoted

namespace ConstructorAction.Toml

open ConstructorAction.Decimal

/-!
Values of a configuration file, and how messages write them: on one line, with tables in braces and
the simplest kind of quotes that a string can stand in.
-/

structure Date where
  year : Nat
  month : Nat
  day : Nat
  deriving DecidableEq, Repr, Inhabited

structure Time where
  hour : Nat
  minute : Nat
  second : Nat
  nanosecond : Nat
  deriving DecidableEq, Repr, Inhabited

inductive Offset where
  | utc
  | minutes (count : Int)
  deriving DecidableEq, Repr, Inhabited

structure Datetime where
  date : Option Date
  time : Option Time
  offset : Option Offset
  deriving DecidableEq, Repr, Inhabited

inductive Value where
  | string (text : String)
  | integer (value : Int)
  | float (value : Float)
  | boolean (value : Bool)
  | datetime (value : Datetime)
  | array (elements : List Value)
  | table (entries : List (String × Value))
  deriving Inhabited, Repr

/-- The entries of a table, in the order of their keys. -/
abbrev Table := List (String × Value)

def paddedNumber (width value : Nat) : String :=
  let digits := Nat.toDigits 10 value
  String.ofList (List.replicate (width - digits.length) '0' ++ digits)

def Date.write (date : Date) : String :=
  s!"{paddedNumber 4 date.year}-{paddedNumber 2 date.month}-{paddedNumber 2 date.day}"

/-- Without the zeros at the end of a fraction. -/
def Time.write (time : Time) : String :=
  let whole :=
    s!"{paddedNumber 2 time.hour}:{paddedNumber 2 time.minute}:{paddedNumber 2 time.second}"
  if time.nanosecond = 0 then whole
  else
    whole ++ "." ++
      String.ofList ((paddedNumber 9 time.nanosecond).toList.reverse.dropWhile (· == '0')).reverse

def Offset.write : Offset → String
  | .utc => "Z"
  | .minutes count =>
      let sign := if count < 0 then "-" else "+"
      s!"{sign}{paddedNumber 2 (count.natAbs / 60)}:{paddedNumber 2 (count.natAbs % 60)}"

def Datetime.write (moment : Datetime) : String :=
  (moment.date.map Date.write).getD "" ++
    (if moment.date.isSome && moment.time.isSome then "T" else "") ++
    (moment.time.map Time.write).getD "" ++ (moment.offset.map Offset.write).getD ""

/-- A float has a fraction in any case, and NaN no sign. -/
def floatText (x : Float) : String :=
  if x.isNaN then "nan"
  else if x.isInf then if isNegative x then "-inf" else "inf"
  else withPoint x

/-- The length of the longest run of a character. -/
def longestRun (c : Char) (text : List Char) : Nat :=
  go 0 text
where
  go (current : Nat) : List Char → Nat
    | [] => current
    | d :: rest => if d = c then go (current + 1) rest else max current (go 0 rest)

/-- Whether a character can only be written by an escape. -/
def needsEscape (c : Char) : Bool := c.toNat < 9 || (10 < c.toNat && c.toNat < 32) || c.toNat == 127

/-- A text between double quotes; `multiline` leaves line feeds and up to two quotes in a row as
they are. -/
def escapedText (multiline : Bool) (quotes : Nat) : List Char → List Char
  | [] => []
  | c :: rest =>
      let quotes := if c = '"' then quotes + 1 else 0
      if c = '"' then
        if (if multiline then 2 else 0) < quotes then
          '\\' :: '"' :: escapedText multiline 0 rest
        else '"' :: escapedText multiline quotes rest
      else
        let written : List Char := match c with
          | '\x08' => ['\\', 'b']
          | '\t' => ['\\', 't']
          | '\n' => if multiline then ['\n'] else ['\\', 'n']
          | '\x0c' => ['\\', 'f']
          | '\r' => ['\\', 'r']
          | '\\' => ['\\', '\\']
          | c =>
              if needsEscape c then
                let digits := (Nat.toDigits 16 c.toNat).map Char.toUpper
                '\\' :: 'u' :: List.replicate (4 - digits.length) '0' ++ digits
              else [c]
        written ++ escapedText multiline quotes rest

/-- A string in the first of these forms that it can stand in without an escape: double quotes,
single quotes, three double quotes, three single quotes; else in double quotes with escapes. -/
def stringText (text : String) : String :=
  let chars := text.toList
  let escapes := chars.any needsEscape
  let backslash := chars.contains '\\'
  let feeds := chars.contains '\n'
  let singles := longestRun '\'' chars
  let doubles := longestRun '"' chars
  let opening := fun quotes : String => if feeds then quotes ++ "\n" else quotes
  let escaped := fun multiline => String.ofList (escapedText multiline 0 chars)
  if !escapes && !backslash && doubles = 0 && !feeds then "\"" ++ escaped false ++ "\""
  else if !escapes && singles = 0 && !feeds then "'" ++ text ++ "'"
  else if !escapes && !backslash && doubles ≤ 2 then
    opening "\"\"\"" ++ escaped true ++ "\"\"\""
  else if !escapes && singles ≤ 2 then opening "'''" ++ text ++ "'''"
  else if feeds then opening "\"\"\"" ++ escaped true ++ "\"\"\""
  else "\"" ++ escaped false ++ "\""

def isBareKeyChar (c : Char) : Bool :=
  c.toNat < 128 && (c.isAlphanum || c == '_' || c == '-')

/-- A key without quotes if it can stand so. -/
def keyText (key : String) : String :=
  let chars := key.toList
  if !chars.isEmpty && chars.all isBareKeyChar then key
  else
    let escapes := chars.any fun c => needsEscape c || c == '\n'
    if !escapes && !chars.contains '\\' && !chars.contains '"' then
      "\"" ++ String.ofList (escapedText false 0 chars) ++ "\""
    else if !escapes && !chars.contains '\'' then "'" ++ key ++ "'"
    else "\"" ++ String.ofList (escapedText false 0 chars) ++ "\""

mutual

def Value.write : Value → String
  | .string text => stringText text
  | .integer value => toString value
  | .float value => floatText value
  | .boolean true => "true"
  | .boolean false => "false"
  | .datetime value => value.write
  | .array elements => "[" ++ ", ".intercalate (writeElements elements) ++ "]"
  | .table [] => "\x7b\x7d"
  | .table entries => "\x7b " ++ ", ".intercalate (writeEntries entries) ++ " \x7d"

def writeElements : List Value → List String
  | [] => []
  | element :: later => element.write :: writeElements later

def writeEntries : List (String × Value) → List String
  | [] => []
  | (key, value) :: later => (keyText key ++ " = " ++ value.write) :: writeEntries later

end

/-- The key of a table that stands for a moment. -/
def momentKey : String := "$__toml_private_datetime"

/-- A value as a message shows it. A moment that is no part of another value is shown as the table
that stands for it. -/
def Value.display : Value → String
  | .datetime value => (Value.table [(momentKey, .string value.write)]).write
  | value => value.write

end ConstructorAction.Toml
