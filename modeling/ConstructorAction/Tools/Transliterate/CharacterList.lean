import ConstructorAction.Tools.Quotation

namespace ConstructorAction.Tools.Transliterate

/-!
Lists of characters as they are written for transliteration: characters and escapes, intervals,
classes, and characters that are repeated.
-/

inductive ListError where
  | noClassName
  | noEquivalent
  | unknownClass (name : ByteText)
  | longEquivalent (text : ByteText)
  | badRepeat (count : ByteText)
  | reversed (first last : Char)
  | tooLong
  /-- A character repeated as often as needed, where that is not known. -/
  | openRepeatInFirst
  | severalOpenRepeats
  | openRepeatOutside
  | equivalentInSecond
  | classInSecond
  | misaligned
  | emptySecond
  | endsInClass
  | complementedClass
  deriving DecidableEq, Repr

def shownCharacter (c : Char) : ByteText :=
  if isPrintable c then [c] else '\\' :: threeOctal c

def shownText (text : ByteText) : ByteText :=
  text.flatMap fun c =>
    if c = '\\' then ['\\'] else if isPrintable c then [c] else escapedByte c

def ListError.message : ListError → ByteText
  | .noClassName => ofString "missing character class name '[::]'"
  | .noEquivalent => ofString "missing equivalence class character '[==]'"
  | .unknownClass name => ofString "invalid character class " ++ quotedValue (shownText name)
  | .longEquivalent text =>
      shownText text ++ ofString ": equivalence class operand must be a single character"
  | .badRepeat count =>
      ofString "invalid repeat count " ++ quotedValue (shownText count) ++
        ofString " in [c*n] construct"
  | .reversed first last =>
      ofString "range-endpoints of '" ++ shownCharacter first ++ ['-'] ++ shownCharacter last ++
        ofString "' are in reverse collating sequence order"
  | .tooLong => ofString "too many characters in set"
  | .openRepeatInFirst => ofString "the [c*] repeat construct may not appear in string1"
  | .severalOpenRepeats => ofString "only one [c*] repeat construct may appear in string2"
  | .openRepeatOutside =>
      ofString "the [c*] construct may appear in string2 only when translating"
  | .equivalentInSecond =>
      ofString "[=c=] expressions may not appear in string2 when translating"
  | .classInSecond =>
      ofString ("when translating, the only character classes that may appear in\n" ++
        "string2 are 'upper' and 'lower'")
  | .misaligned => ofString "misaligned [:upper:] and/or [:lower:] construct"
  | .emptySecond => ofString "when not truncating set1, string2 must be non-empty"
  | .endsInClass =>
      ofString ("when translating with string1 longer than string2,\n" ++
        "the latter string must not end with a character class")
  | .complementedClass =>
      ofString ("when translating with complemented character classes,\n" ++
        "string2 must map all characters in the domain to one")

/-- A character of a list, with the note whether it was behind a backslash and so has no special
meaning. -/
structure Mark where
  char : Char
  escaped : Bool := false
  deriving DecidableEq, Repr, Inhabited

def Mark.is (mark : Mark) (c : Char) : Bool := mark.char == c && !mark.escaped

/-- The control character that a letter behind a backslash stands for. -/
def controlOf? (letter : Char) : Option Char :=
  match letter with
  | 'a' => some '\x07'
  | 'b' => some '\x08'
  | 'f' => some '\x0c'
  | 'n' => some '\n'
  | 'r' => some '\r'
  | 't' => some '\t'
  | 'v' => some '\x0b'
  | _ => none

/-- The character that up to three octal digits stand for. A third digit is left out if the value
would not fit into a byte. -/
def octalMark (digits : ByteText) : Char × Nat :=
  let three := digits.take 3 |>.takeWhile isOctalDigit
  let used := if 255 < valueInBase 8 three then three.take 2 else three
  (Char.ofNat (valueInBase 8 used), used.length)

/-- Resolves the escapes of a text. Warnings are returned beside the characters. -/
def readMarks : Nat → ByteText → List Mark × List ByteText
  | 0, _ => ([], [])
  | fuel + 1, text =>
      let step := fun (mark : Mark) (rest : ByteText) (warning : List ByteText) =>
        let (marks, warnings) := readMarks fuel rest
        (mark :: marks, warning ++ warnings)
      match text with
      | [] => ([], [])
      | ['\\'] =>
          step ⟨'\\', false⟩ []
            [ofString "warning: an unescaped backslash at end of string is not portable"]
      | '\\' :: c :: rest =>
          if isOctalDigit c then
            let (char, used) := octalMark (c :: rest)
            let three := (c :: rest).take 3 |>.takeWhile isOctalDigit
            let warning :=
              if used < three.length then
                [ofString "warning: the ambiguous octal escape \\" ++ three ++
                  ofString " is being\n\tinterpreted as the 2-byte sequence \\0" ++
                  three.take 2 ++ ofString ", " ++ three.drop 2]
              else []
            step ⟨char, true⟩ ((c :: rest).drop used) warning
          else step ⟨(controlOf? c).getD c, true⟩ rest []
      | c :: rest => step ⟨c, false⟩ rest []

inductive Element where
  | char (c : Char)
  | interval (first last : Char)
  | members (name : String)
  | equivalent (c : Char)
  /-- A character a number of times; zero means as often as needed. -/
  | repeated (c : Char) (count : Nat)
  deriving DecidableEq, Repr, Inhabited

def repeatLimit : Nat := Text.wordLimit - 3

/-- The marks in front of a closing pair such as `:]`, and those behind it. -/
def insideUntil (closing : Char) : List Mark → Option (List Mark × List Mark)
  | first :: second :: later =>
      if first.is closing && second.is ']' then some ([], later)
      else (insideUntil closing (second :: later)).map fun (inside, rest) =>
        (first :: inside, rest)
  | _ => none

/-- Whether a star comes next, and then digits up to a closing bracket. -/
def isStarredCount : List Mark → Bool
  | star :: rest =>
      star.is '*' &&
        ((rest.dropWhile fun mark => mark.char.isDigit && !mark.escaped).head?.any (·.is ']'))
  | [] => false

/-- The count in front of a closing bracket: octal if it starts with a zero. -/
def repeatCount? (digits : ByteText) : Option Nat :=
  if digits.isEmpty then some 0
  else
    let base := if digits.head? = some '0' then 8 else 10
    let body := digits.dropWhile isSpaceByte
    let body := if body.head? = some '+' then body.tail else body
    let isMember := if base = 8 then isOctalDigit else Char.isDigit
    let value := valueInBase base body
    if body.isEmpty || !body.all isMember || repeatLimit < value then none else some value

/-- A repeated character behind an opening bracket, as in `[x*3]`. -/
def readRepeat (marks : List Mark) : Except ListError (Option (Element × List Mark)) :=
  match marks with
  | c :: star :: later =>
      if !star.is '*' then .ok none
      else
        let inside := later.takeWhile fun mark => !mark.escaped && mark.char != ']'
        match later.drop inside.length with
        | closing :: rest =>
            if !closing.is ']' then .ok none
            else
              let digits := inside.map (·.char)
              match repeatCount? digits with
              | none => .error (.badRepeat digits)
              | some count => .ok (some (.repeated c.char count, rest))
        | [] => .ok none
  | _ => .ok none

def readNamed (marks : List Mark) : Except ListError (Option (Element × List Mark)) :=
  match marks with
  | mark :: later =>
      if !(mark.is ':' || mark.is '=') then .ok none
      else
        match insideUntil mark.char later with
        | none => .ok none
        | some (inside, rest) =>
            let name := inside.map (·.char)
            if name.isEmpty then
              .error (if mark.char = ':' then .noClassName else .noEquivalent)
            else if mark.char = ':' then
              if (characterClass? (String.ofList name)).isSome then
                .ok (some (.members (String.ofList name), rest))
              else if isStarredCount later then .ok none
              else .error (.unknownClass name)
            else
              match name with
              | [c] => .ok (some (.equivalent c, rest))
              | _ => if isStarredCount later then .ok none else .error (.longEquivalent name)
  | [] => .ok none

/-- The elements of a list. Nothing shorter than three characters has a special meaning. -/
def readElements : Nat → List Mark → Except ListError (List Element)
  | 0, _ => .ok []
  | fuel + 1, marks =>
      match marks with
      | first :: second :: third :: later => do
          let inner := second :: third :: later
          let found ←
            if first.is '[' then
              match readNamed inner with
              | .ok none => readRepeat inner
              | found => found
            else .ok none
          match found with
          | some (element, rest) => .ok (element :: (← readElements fuel rest))
          | none =>
              if second.is '-' then
                if third.char < first.char then .error (.reversed first.char third.char)
                else .ok (.interval first.char third.char :: (← readElements fuel later))
              else .ok (.char first.char :: (← readElements fuel inner))
      | marks => .ok (marks.map fun mark => .char mark.char)

/-- A list as it is written, with the warnings that reading it gives. -/
def parseList (text : ByteText) : Except ListError (List Element) × List ByteText :=
  let (marks, warnings) := readMarks (text.length + 1) text
  (readElements (marks.length + 1) marks, warnings)

def interval (first last : Char) : ByteText :=
  (List.range (last.toNat + 1 - first.toNat)).map fun offset => Char.ofNat (first.toNat + offset)

namespace Element

def expand : Element → ByteText
  | .char c | .equivalent c => [c]
  | .interval first last => Transliterate.interval first last
  | .members name =>
      match characterClass? name with
      | some isMember => allBytes.filter isMember
      | none => []
  | .repeated c count => List.replicate count c

def size : Element → Nat
  | .repeated _ count => count
  | element => element.expand.length

def isOpenRepeat : Element → Bool
  | .repeated _ 0 => true
  | _ => false

def isEquivalent : Element → Bool
  | .equivalent _ => true
  | _ => false

def isClass : Element → Bool
  | .members _ => true
  | _ => false

def isCaseClass (element : Element) : Bool :=
  element == .members "upper" || element == .members "lower"

/-- Lets a repetition that is as long as needed be of a given length, and shortens longer ones. -/
def withLength (length limit : Nat) : Element → Element
  | .repeated c 0 => .repeated c length
  | .repeated c count => .repeated c (min count limit)
  | element => element

end Element

def totalSize (elements : List Element) : Nat :=
  elements.foldr (fun element total => element.size + total) 0

def openRepeats (elements : List Element) : Nat := elements.countP Element.isOpenRepeat

def isIn (elements : List Element) (c : Char) : Bool :=
  elements.any fun element =>
    match element with
    | .repeated d count => count != 0 && c == d
    | element => element.expand.contains c

end ConstructorAction.Tools.Transliterate
