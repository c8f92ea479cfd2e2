import ConstructorAction.Text.Numeral
import ConstructorAction.Toml.Document

namespace ConstructorAction.Toml

open ConstructorAction.Decimal ConstructorAction.Text

/-!
Reading a configuration file, version 1.0 of the format. A file is read as a whole or not at all.
Lists and tables may nest 79 deep, and a dotted key may have 79 parts. What reads a piece of the
text answers with the piece and the text behind it.
-/

def nestingLimit : Nat := 80

def isSpace (c : Char) : Bool := c == ' ' || c == '\t'

def skipSpaces (text : List Char) : List Char := text.dropWhile isSpace

/-- Characters that may stand in comments and in quotes as they are. -/
def isPlain (c : Char) : Bool := c == '\t' || (32 ≤ c.toNat && c.toNat ≠ 127)

/-- What follows a line end. -/
def afterFeed? : List Char → Option (List Char)
  | '\n' :: rest => some rest
  | '\r' :: '\n' :: rest => some rest
  | _ => none

/-- What follows a comment, which may be absent. -/
def afterComment : List Char → List Char
  | '#' :: rest => rest.dropWhile isPlain
  | text => text

/-- What follows the end of a line: blanks, a comment, and a line feed or the end of the file. -/
def afterLine? (text : List Char) : Option (List Char) :=
  match afterComment (skipSpaces text) with
  | [] => some []
  | rest => afterFeed? rest

/-- Blanks, comments and line ends between the elements of a list. -/
def skipFiller : Nat → List Char → List Char
  | 0, text => text
  | fuel + 1, text =>
      let text := skipSpaces text
      match afterFeed? text with
      | some rest => skipFiller fuel rest
      | none =>
          match text with
          | '#' :: rest => skipFiller fuel (rest.dropWhile isPlain)
          | text => text

def hexNumber? (digits : List Char) : Option Nat :=
  digits.foldl (fun value c => do some ((← value) * 16 + (← hexDigit? c))) (some 0)

/-- The character with a code point of `count` hexadecimal digits. -/
def codePoint (count : Nat) (text : List Char) : Option (Char × List Char) := do
  let digits := text.take count
  if digits.length < count then none
  let code ← hexNumber? digits
  if code < 0xD800 ∨ (0xDFFF < code ∧ code < 0x110000) then
    some (Char.ofNat code, text.drop count)
  else none

/-- The character behind a backslash. -/
def escape : List Char → Option (Char × List Char)
  | 'b' :: rest => some ('\x08', rest)
  | 't' :: rest => some ('\t', rest)
  | 'n' :: rest => some ('\n', rest)
  | 'f' :: rest => some ('\x0c', rest)
  | 'r' :: rest => some ('\r', rest)
  | '"' :: rest => some ('"', rest)
  | '\\' :: rest => some ('\\', rest)
  | 'u' :: rest => codePoint 4 rest
  | 'U' :: rest => codePoint 8 rest
  | _ => none

/-- The inside of double quotes. -/
def basicString : Nat → List Char → Option (List Char × List Char)
  | 0, _ => none
  | _ + 1, [] => none
  | _ + 1, '"' :: rest => some ([], rest)
  | fuel + 1, '\\' :: rest => do
      let (c, rest) ← escape rest
      let (text, rest) ← basicString fuel rest
      some (c :: text, rest)
  | fuel + 1, c :: rest =>
      if isPlain c then (basicString fuel rest).map fun (text, rest) => (c :: text, rest) else none

/-- The inside of single quotes. -/
def literalString : List Char → Option (List Char × List Char)
  | [] => none
  | '\'' :: rest => some ([], rest)
  | c :: rest =>
      if isPlain c then (literalString rest).map fun (text, rest) => (c :: text, rest) else none

/-- Blanks and line ends, as a backslash at the end of a line skips them. -/
def skipBreaks : Nat → List Char → List Char
  | 0, text => text
  | fuel + 1, text =>
      let text := skipSpaces text
      match afterFeed? text with
      | some rest => skipBreaks fuel rest
      | none => text

/-- The inside of three quotes of a kind. Up to two quotes may stand before the closing three. -/
def multilineString (quote : Char) (escapes : Bool) :
    Nat → List Char → Option (List Char × List Char)
  | 0, _ => none
  | fuel + 1, text =>
      let continueWith := fun (c : Char) (rest : List Char) =>
        (multilineString quote escapes fuel rest).map fun (text, rest) => (c :: text, rest)
      let run := (text.takeWhile (· == quote)).length
      if 3 ≤ run then
        if run ≤ 5 then some (List.replicate (run - 3) quote, text.drop run) else none
      else
        match afterFeed? text with
        | some rest => continueWith '\n' rest
        | none =>
            match text with
            | [] => none
            | '\\' :: rest =>
                if escapes then
                  match afterFeed? (skipSpaces rest) with
                  | some rest => multilineString quote escapes fuel (skipBreaks rest.length rest)
                  | none => do
                      let (c, rest) ← escape rest
                      continueWith c rest
                else continueWith '\\' rest
            | c :: rest => if isPlain c then continueWith c rest else none

/-- What follows a line end directly behind the opening quotes. -/
def afterOpening (text : List Char) : List Char := (afterFeed? text).getD text

def readString (text : List Char) : Option (List Char × List Char) :=
  match text with
  | '"' :: '"' :: '"' :: rest => multilineString '"' true (rest.length + 1) (afterOpening rest)
  | '\'' :: '\'' :: '\'' :: rest => multilineString '\'' false (rest.length + 1) (afterOpening rest)
  | '"' :: rest => basicString (rest.length + 1) rest
  | '\'' :: rest => literalString rest
  | _ => none

/-- A key on its own: bare, or in quotes on one line. -/
def readSimpleKey (text : List Char) : Option (String × List Char) :=
  match text with
  | '"' :: rest =>
      (basicString (rest.length + 1) rest).map fun (key, rest) => (String.ofList key, rest)
  | '\'' :: rest => (literalString rest).map fun (key, rest) => (String.ofList key, rest)
  | text =>
      let key := text.takeWhile isBareKeyChar
      if key.isEmpty then none else some (String.ofList key, text.drop key.length)

/-- The parts of a key that dots join. -/
def readKeyParts : Nat → List Char → Option (List String × List Char)
  | 0, _ => none
  | fuel + 1, text => do
      let (part, rest) ← readSimpleKey (skipSpaces text)
      match skipSpaces rest with
      | '.' :: rest =>
          let (parts, rest) ← readKeyParts fuel rest
          some (part :: parts, rest)
      | rest => some ([part], rest)

/-- A dotted key as the path to its last part, and that part. -/
def readKey (text : List Char) : Option ((List String × String) × List Char) := do
  let (parts, rest) ← readKeyParts (text.length + 1) text
  if nestingLimit ≤ parts.length then none
  let last ← parts.getLast?
  some ((parts.dropLast, last), rest)

/-- Digits with single underscores between them. -/
def isGrouped (isDigit : Char → Bool) : List Char → Bool
  | [] => false
  | [c] => isDigit c
  | c :: '_' :: rest => isDigit c && isGrouped isDigit rest
  | c :: rest => isDigit c && isGrouped isDigit rest

def withoutGroups (digits : List Char) : List Char := digits.filter (· != '_')

def groupedValue (digits : List Char) : Nat := decimalValue (withoutGroups digits)

/-- Digits of a number without a leading zero. -/
def isWhole (digits : List Char) : Bool :=
  isGrouped Char.isDigit digits && (digits.length == 1 || digits.head? != some '0')

def signOf : List Char → Bool × List Char
  | '-' :: rest => (true, rest)
  | '+' :: rest => (false, rest)
  | text => (false, text)

/-- A number in base 16, 8 or 2. -/
def radixInteger? (base : Nat) (digits : List Char) : Option Int := do
  let isDigit := fun c : Char => match hexDigit? c with
    | some value => value < base
    | none => false
  if !isGrouped isDigit digits then none
  let value := (withoutGroups digits).foldl (fun value c => value * base + (hexDigit? c).getD 0) 0
  if value < signedLimit then some value else none

/-- An integer of 64 bits. -/
def integer? (token : List Char) : Option Int :=
  match token with
  | '0' :: 'x' :: digits => radixInteger? 16 digits
  | '0' :: 'o' :: digits => radixInteger? 8 digits
  | '0' :: 'b' :: digits => radixInteger? 2 digits
  | token =>
      let (negative, digits) := signOf token
      if !isWhole digits then none
      else
        let value := groupedValue digits
        if negative then if value ≤ signedLimit then some (-value) else none
        else if value < signedLimit then some value else none

/-- A float; one that is too great for a double is refused unless it is negative. -/
def float? (token : List Char) : Option Float :=
  let (negative, text) := signOf token
  let signed := fun x : Float => if negative then -x else x
  if text = ['i', 'n', 'f'] then some (signed (1 / 0))
  else if text = ['n', 'a', 'n'] then some (0 / 0)
  else
    let isMark := fun c : Char => c == '.' || c == 'e' || c == 'E'
    let whole := text.takeWhile fun c => !isMark c
    let rest := text.drop whole.length
    let (fraction, rest, pointed) := match rest with
      | '.' :: more =>
          let digits := more.takeWhile fun c => !isMark c
          (digits, more.drop digits.length, true)
      | rest => ([], rest, false)
    let exponent : Option (Int × Bool) := match rest with
      | [] => some (0, false)
      | 'e' :: more | 'E' :: more =>
          let (below, digits) := signOf more
          if isGrouped Char.isDigit digits then
            let value : Int := groupedValue digits
            some (if below then -value else value, true)
          else none
      | _ => none
    match exponent with
    | none => none
    | some (power, exponential) =>
        if !isWhole whole || !(pointed || exponential) then none
        else if pointed && !isGrouped Char.isDigit fraction then none
        else
          let places : Int := (withoutGroups fraction).length
          let x := nearest (groupedValue (whole ++ fraction)) (power - places)
          if x.isInf && !negative then none else some (signed x)

/-- A number of exactly `count` digits within bounds. -/
def digits? (count least most : Nat) (text : List Char) : Option (Nat × List Char) :=
  let digits := text.take count
  if digits.length = count ∧ digits.all Char.isDigit then
    let value := decimalValue digits
    if least ≤ value ∧ value ≤ most then some (value, text.drop count) else none
  else none

def sign? (sign : Char) : List Char → Option (List Char)
  | [] => none
  | c :: rest => if c = sign then some rest else none

def daysIn (year month : Nat) : Nat :=
  if month = 2 then if year % 4 = 0 ∧ (year % 100 ≠ 0 ∨ year % 400 = 0) then 29 else 28
  else if month = 4 ∨ month = 6 ∨ month = 9 ∨ month = 11 then 30
  else 31

def date? (text : List Char) : Option (Date × List Char) := do
  let (year, rest) ← digits? 4 0 9999 text
  let (month, rest) ← digits? 2 1 12 (← sign? '-' rest)
  let (day, rest) ← digits? 2 1 (daysIn year month) (← sign? '-' rest)
  some (⟨year, month, day⟩, rest)

/-- Fractions beyond nine digits are cut. -/
def time? (lastHour : Nat) (text : List Char) : Option (Time × List Char) := do
  let (hour, rest) ← digits? 2 0 lastHour text
  let (minute, rest) ← digits? 2 0 59 (← sign? ':' rest)
  let (second, rest) ← digits? 2 0 60 (← sign? ':' rest)
  match rest with
  | '.' :: more =>
      let digits := more.takeWhile Char.isDigit
      if digits.isEmpty then none
      let kept := digits.take 9
      let nanosecond := decimalValue kept * Nat.pow 10 (9 - kept.length)
      some (⟨hour, minute, second, nanosecond⟩, more.drop digits.length)
  | rest => some (⟨hour, minute, second, 0⟩, rest)

def offset? (text : List Char) : Option (Option Offset × List Char) :=
  match text with
  | 'Z' :: rest | 'z' :: rest => some (some .utc, rest)
  | c :: rest =>
      if c = '+' ∨ c = '-' then do
        let (hours, rest) ← digits? 2 0 23 rest
        let (minutes, rest) ← digits? 2 0 59 (← sign? ':' rest)
        let count : Int := hours * 60 + minutes
        some (some (.minutes (if c = '-' then -count else count)), rest)
      else some (none, text)
  | [] => some (none, [])

/-- A date, a time, or both with or without an offset. -/
def datetime? (text : List Char) : Option (Datetime × List Char) :=
  match date? text with
  | none => (time? 23 text).map fun (time, rest) => (⟨none, some time, none⟩, rest)
  | some (date, rest) =>
      let alone := some (⟨some date, none, none⟩, rest)
      match rest with
      | c :: more =>
          if c = 'T' ∨ c = 't' ∨ c = ' ' then
            match time? 23 more with
            | none => alone
            | some (time, rest) =>
                (offset? rest).map fun (offset, rest) => (⟨some date, some time, offset⟩, rest)
          else alone
      | [] => alone

/-- An offset at the end of a text: up to a whole day, its minutes not limited to 59. -/
def wideOffset? (text : List Char) : Option (Option Offset) :=
  match text with
  | [] => some none
  | ['Z'] | ['z'] => some (some .utc)
  | c :: rest =>
      if c = '+' ∨ c = '-' then do
        let (hours, rest) ← digits? 2 0 99 rest
        let (minutes, rest) ← digits? 2 0 99 (← sign? ':' rest)
        let count : Int := hours * 60 + minutes
        if rest.isEmpty ∧ count ≤ 24 * 60 then
          some (some (.minutes (if c = '-' then -count else count)))
        else none
      else none

/-- The moment that a text of its own gives. Here a day may have an hour 24. -/
def moment? (text : String) : Option Datetime :=
  match date? text.toList with
  | none => do
      let (time, rest) ← time? 24 text.toList
      if rest.isEmpty then some ⟨none, some time, none⟩ else none
  | some (date, []) => some ⟨some date, none, none⟩
  | some (date, c :: rest) =>
      if c = 'T' ∨ c = 't' ∨ c = ' ' then do
        let (time, rest) ← time? 24 rest
        some ⟨some date, some time, ← wideOffset? rest⟩
      else none

def isTokenChar (c : Char) : Bool :=
  c.toNat < 128 && (c.isAlphanum || c == '_' || c == '-' || c == '+' || c == '.')

/-- A number, or a moment if it starts like one. -/
def readNumber (text : List Char) : Option (Value × List Char) :=
  match datetime? text with
  | some (moment, rest) => some (.datetime moment, rest)
  | none =>
      let token := text.takeWhile isTokenChar
      let rest := text.drop token.length
      match integer? token with
      | some value => some (.integer value, rest)
      | none => (float? token).map fun value => (.float value, rest)

/-- Reads a word that stands for a value. -/
def readWord (word : List Char) (value : Value) (text : List Char) : Option (Value × List Char) :=
  if word.isPrefixOf text then some (value, text.drop word.length) else none

mutual

/-- A value inside `depth` lists and tables. -/
def readValue : Nat → Nat → List Char → Option (Value × List Char)
  | 0, _, _ => none
  | fuel + 1, depth, text =>
      match text with
      | [] => none
      | '[' :: rest =>
          if nestingLimit ≤ depth + 1 then none
          else
            (readElements fuel (depth + 1) rest).map fun (elements, rest) => (.array elements, rest)
      | '\x7b' :: rest =>
          if nestingLimit ≤ depth + 1 then none
          else do
            let (entries, rest) ← match skipSpaces rest with
              | '\x7d' :: rest => some ([], rest)
              | rest => readInline fuel (depth + 1) [] rest
            let value ← Value.ofEntries? moment? (← toEntries? moment? entries)
            some (value, rest)
      | '"' :: _ | '\'' :: _ =>
          (readString text).map fun (text, rest) => (.string (String.ofList text), rest)
      | 't' :: _ => readWord ['t', 'r', 'u', 'e'] (.boolean true) text
      | 'f' :: _ => readWord ['f', 'a', 'l', 's', 'e'] (.boolean false) text
      | text => readNumber text

/-- The elements of a list up to its closing bracket. -/
def readElements : Nat → Nat → List Char → Option (List Value × List Char)
  | 0, _, _ => none
  | fuel + 1, depth, text =>
      match skipFiller (text.length + 1) text with
      | ']' :: rest => some ([], rest)
      | text => do
          let (element, rest) ← readValue fuel depth text
          match skipFiller (rest.length + 1) rest with
          | ']' :: rest => some ([element], rest)
          | ',' :: rest =>
              let (elements, rest) ← readElements fuel depth rest
              some (element :: elements, rest)
          | _ => none

/-- The entries of a table in braces, of which there is at least one, up to its closing brace. -/
def readInline : Nat → Nat → Entries → List Char → Option (Entries × List Char)
  | 0, _, _, _ => none
  | fuel + 1, depth, entries, text => do
      let ((path, key), rest) ← readKey text
      let rest ← sign? '=' (skipSpaces rest)
      let (value, rest) ← readValue fuel depth (skipSpaces rest)
      let entries ← entries.addValue path key value .byHeader
      match skipSpaces rest with
      | '\x7d' :: rest => some (entries, rest)
      | ',' :: rest => readInline fuel depth entries rest
      | _ => none

end

/-- The tables read so far, and the path of the one that entries are added to. -/
structure Progress where
  entries : Entries := []
  current : List String := []
  deriving Repr, Inhabited

/-- A header in single brackets, or in double ones. -/
def readHeader (progress : Progress) (text : List Char) : Option (Progress × List Char) :=
  match text with
  | '[' :: rest => do
      let ((path, key), rest) ← readKey rest
      match skipSpaces rest with
      | ']' :: ']' :: rest =>
          let entries ← progress.entries.addTable path key
          some (⟨entries, path ++ [key]⟩, rest)
      | _ => none
  | text => do
      let ((path, key), rest) ← readKey text
      match skipSpaces rest with
      | ']' :: rest =>
          let entries ← progress.entries.openTable path key
          some (⟨entries, path ++ [key]⟩, rest)
      | _ => none

/-- An entry of the current table. -/
def readEntry (progress : Progress) (text : List Char) : Option (Progress × List Char) := do
  let ((path, key), rest) ← readKey text
  let rest ← sign? '=' (skipSpaces rest)
  let (value, rest) ← readValue (rest.length + 1) 0 (skipSpaces rest)
  let entries ← Entries.changeAt false
    (fun opened inner => inner.addValue path key value opened) progress.current .byHeader
    progress.entries
  some (⟨entries, progress.current⟩, rest)

/-- The lines of a file, one after the other. -/
def readLines : Nat → Progress → List Char → Option Entries
  | 0, _, _ => none
  | fuel + 1, progress, text =>
      match skipSpaces text with
      | [] => some progress.entries
      | '[' :: rest => do
          let (progress, rest) ← readHeader progress rest
          readLines fuel progress (← afterLine? rest)
      | text =>
          match afterLine? text with
          | some rest => readLines fuel progress rest
          | none => do
              let (progress, rest) ← readEntry progress text
              readLines fuel progress (← afterLine? rest)

/-- The table that a file holds; a byte order mark in front of it is skipped. -/
def parse? (text : List Char) : Option Table :=
  let text := match text with
    | '\uFEFF' :: rest => rest
    | text => text
  do
    let entries ← readLines (text.length + 1) {} text
    some (sortEntries (← toEntries? moment? entries))

end ConstructorAction.Toml
