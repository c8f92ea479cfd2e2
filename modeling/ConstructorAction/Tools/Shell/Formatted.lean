import ConstructorAction.Tools.Shell.Arithmetic
import ConstructorAction.Tools.Shell.Floating

namespace ConstructorAction.Tools.Shell

/-!
Text with escapes, and text made from a format and arguments. The format is used again as long as
it takes arguments and some are left.
-/

/-- The character that a letter behind a backslash stands for. -/
def escapeLetter? (c : Char) : Option Char :=
  match c with
  | 'a' => some '\x07'
  | 'b' => some '\x08'
  | 'e' => some '\x1b'
  | 'f' => some '\x0c'
  | 'n' => some '\n'
  | 'r' => some '\r'
  | 't' => some '\t'
  | 'v' => some '\x0b'
  | '\\' => some '\\'
  | _ => none

def charOfCode (code : Nat) : Char := Char.ofNat (code % 256)

/-- Replaces escapes; an octal one starts with a zero. The second value tells that output stops
here. -/
def unescaped : Nat → ByteText → ByteText × Bool
  | 0, _ => ([], false)
  | _ + 1, [] => ([], false)
  | fuel + 1, '\\' :: rest =>
      let put := fun (c : Char) (rest : ByteText) =>
        let (text, stops) := unescaped fuel rest
        (c :: text, stops)
      match rest with
      | 'c' :: _ => ([], true)
      | '0' :: rest =>
          let (code, rest) := octal 3 rest
          put (charOfCode code) rest
      | c :: after =>
          match escapeLetter? c with
          | some c => put c after
          | none =>
              if isOctalDigit c then
                let (code, after) := octal 3 rest
                put (charOfCode code) after
              else put '\\' rest
      | [] => put '\\' []
  | fuel + 1, c :: rest =>
      let (text, stops) := unescaped fuel rest
      (c :: text, stops)

def unescape (text : ByteText) : ByteText × Bool := unescaped (text.length + 1) text

/-- Arguments with blanks between them and a line feed at the end, unless `-n` comes first. -/
def echoText (arguments : List ByteText) : ByteText :=
  let (ending, arguments) : ByteText × List ByteText := match arguments with
    | ['-', 'n'] :: later => ([], later)
    | arguments => (['\n'], arguments)
  let (text, stops) := unescape (([' '] : ByteText).intercalate arguments)
  if stops then text else text ++ ending

/-- A conversion in a format. -/
structure Conversion where
  /-- The text from the percent sign to the letter. -/
  written : ByteText
  flags : ByteText
  width : Nat := 0
  precision : Option Nat := none
  letter : Char
  deriving DecidableEq, Repr, Inhabited

def Conversion.has (conversion : Conversion) (flag : Char) : Bool := conversion.flags.contains flag

/-- A text in a field of the width. Zeros go behind the sign or what else is in front. -/
def Conversion.field (conversion : Conversion) (zeros : Bool) (front body : ByteText) :
    ByteText :=
  let missing := conversion.width - (front.length + body.length)
  if conversion.has '-' then front ++ body ++ List.replicate missing ' '
  else if zeros && conversion.has '0' then front ++ List.replicate missing '0' ++ body
  else List.replicate missing ' ' ++ front ++ body

def Conversion.text (conversion : Conversion) (text : ByteText) : ByteText :=
  conversion.field false []
    (match conversion.precision with
      | some count => text.take count
      | none => text)

def Conversion.sign (conversion : Conversion) (isNegative : Bool) : ByteText :=
  if isNegative then ['-'] else if conversion.has '+' then ['+']
  else if conversion.has ' ' then [' '] else []

/-- Digits with as many zeros in front as the precision asks for. -/
def Conversion.digits (conversion : Conversion) (digits : ByteText) : ByteText :=
  match conversion.precision with
  | none => digits
  | some count =>
      if count = 0 ∧ digits = ['0'] then []
      else List.replicate (count - digits.length) '0' ++ digits

def Conversion.signed (conversion : Conversion) (value : Int) : ByteText :=
  conversion.field conversion.precision.isNone (conversion.sign (value < 0))
    (conversion.digits (Nat.toDigits 10 value.natAbs))

def Conversion.unsigned (conversion : Conversion) (value : Nat) : ByteText :=
  let zeros := conversion.precision.isNone
  match conversion.letter with
  | 'o' =>
      let digits := conversion.digits (Nat.toDigits 8 value)
      let digits := if conversion.has '#' ∧ digits.head? ≠ some '0' then '0' :: digits else digits
      conversion.field zeros [] digits
  | 'x' =>
      conversion.field zeros (if conversion.has '#' ∧ value ≠ 0 then ['0', 'x'] else [])
        (conversion.digits (Nat.toDigits 16 value))
  | 'X' =>
      conversion.field zeros (if conversion.has '#' ∧ value ≠ 0 then ['0', 'X'] else [])
        (conversion.digits ((Nat.toDigits 16 value).map Char.toUpper))
  | _ => conversion.field zeros [] (conversion.digits (Nat.toDigits 10 value))

def Conversion.floating (conversion : Conversion) (isNegative : Bool) (value : Magnitude) :
    ByteText :=
  let isFinite := match value with
    | .finite _ _ => true
    | _ => false
  conversion.field isFinite (conversion.sign isNegative)
    (floatingText conversion.letter (conversion.has '#') conversion.precision value)

/-- A formatted text in the making. -/
structure Formatting where
  arguments : List ByteText
  /-- The text so far, the last part first. -/
  parts : List ByteText := []
  /-- What is wrong with arguments. -/
  complaints : List ByteText := []
  stops : Bool := false
  deriving Repr, Inhabited

namespace Formatting

def put (state : Formatting) (text : ByteText) : Formatting :=
  { state with parts := text :: state.parts }

def takeArgument (state : Formatting) : Option ByteText × Formatting :=
  match state.arguments with
  | [] => (none, state)
  | argument :: arguments => (some argument, { state with arguments })

def complain (state : Formatting) (argument : ByteText) (problem : String) : Formatting :=
  { state with complaints := state.complaints ++ [argument ++ ofString s!": {problem}"] }

/-- Complains if a number is only a part of its argument, or too large. -/
def check (state : Formatting) (argument rest : ByteText) (isFound isInRange : Bool) :
    Formatting :=
  if !isFound then
    if argument.isEmpty then state else state.complain argument "expected numeric value"
  else if !rest.isEmpty then state.complain argument "not completely converted"
  else if !isInRange then state.complain argument "Numerical result out of range"
  else state

def quotedCode? (argument : ByteText) : Option Int :=
  match argument with
  | '"' :: rest | '\'' :: rest => some ((rest.head?.map fun c => (c.toNat : Int)).getD 0)
  | _ => none

def takeNumber (state : Formatting) (isSigned : Bool) : Int × Formatting :=
  match state.takeArgument with
  | (none, state) => (0, state)
  | (some argument, state) =>
      match quotedCode? argument with
      | some code => (code, state)
      | none =>
          match readNumber? true argument with
          | none => (0, state.check argument argument false true)
          | some (value, rest) =>
              if isSigned then
                (clamped value, state.check argument rest true (clamped value = value))
              else
                let isInRange := decide (value.natAbs < 18446744073709551616)
                let unsigned := if isInRange then value % 18446744073709551616
                  else 18446744073709551615
                (unsigned, state.check argument rest true isInRange)

def takeFloating (state : Formatting) : (Bool × Magnitude) × Formatting :=
  match state.takeArgument with
  | (none, state) => ((false, .finite 0 0), state)
  | (some argument, state) =>
      match quotedCode? argument with
      | some code => ((false, nearest code.toNat 1), state)
      | none =>
          match readFloating? argument with
          | none => ((false, .finite 0 0), state.check argument argument false true)
          | some (isNegative, value, rest) =>
              ((isNegative, value), state.check argument rest true true)

end Formatting

/-- Reads a width or a precision; a star stands for the next argument. -/
def readCount (state : Formatting) (format : ByteText) : Option Int × ByteText × Formatting :=
  match format with
  | '*' :: rest =>
      let (value, state) := state.takeNumber true
      (some value, rest, state)
  | format =>
      let digits := format.takeWhile fun c => c.isDigit || c == '*'
      (if digits.isEmpty then none else some (valueInBase 10 (digits.takeWhile Char.isDigit)),
        format.drop digits.length, state)

def readConversion (state : Formatting) (format : ByteText) :
    Except ByteText (Conversion × ByteText × Formatting) :=
  let flags := format.takeWhile fun c => "#-+ 0".contains c
  let rest := format.drop flags.length
  let (width, rest, state) := readCount state rest
  let (precision, rest, state) := match rest with
    | '.' :: rest =>
        let (precision, rest, state) := readCount state rest
        (some (precision.getD 0), rest, state)
    | rest => (none, rest, state)
  match rest with
  | [] => .error (ofString "missing format character")
  | letter :: rest =>
      let written := '%' :: format.take (format.length - rest.length)
      let width := width.getD 0
      let flags := if width < 0 then '-' :: flags else flags
      let precision := precision.bind fun count => if count < 0 then none else some count.toNat
      .ok (⟨written, flags, width.natAbs, precision, letter⟩, rest, state)

def convert (state : Formatting) (conversion : Conversion) : Except ByteText Formatting :=
  match conversion.letter with
  | 's' =>
      let (argument, state) := state.takeArgument
      .ok (state.put (conversion.text (argument.getD [])))
  | 'b' =>
      let (argument, state) := state.takeArgument
      let (text, stops) := unescape (argument.getD [])
      .ok { state.put (conversion.text text) with stops }
  | 'c' =>
      let (argument, state) := state.takeArgument
      let c := ((argument.getD []).head?).getD '\x00'
      .ok (state.put (conversion.field false [] [c]))
  | 'd' | 'i' =>
      let (value, state) := state.takeNumber true
      .ok (state.put (conversion.signed value))
  | 'o' | 'u' | 'x' | 'X' =>
      let (value, state) := state.takeNumber false
      .ok (state.put (conversion.unsigned value.toNat))
  | 'e' | 'E' | 'f' | 'F' | 'g' | 'G' =>
      let ((isNegative, value), state) := state.takeFloating
      .ok (state.put (conversion.floating isNegative value))
  | _ => .error (conversion.written ++ ofString ": invalid directive")

def formatOnce : Nat → ByteText → Formatting → Except ByteText Formatting
  | 0, _, state => .ok state
  | _ + 1, [], state => .ok state
  | fuel + 1, '\\' :: rest, state =>
      match rest with
      | [] => .ok (state.put ['\\'])
      | c :: after =>
          match escapeLetter? c with
          | some c => formatOnce fuel after (state.put [c])
          | none =>
              if isOctalDigit c then
                let (code, after) := octal 3 rest
                formatOnce fuel after (state.put [charOfCode code])
              else formatOnce fuel rest (state.put ['\\'])
  | fuel + 1, '%' :: rest, state =>
      match rest with
      | '%' :: rest => formatOnce fuel rest (state.put ['%'])
      | rest =>
          match readConversion state rest with
          | .error problem => .error problem
          | .ok (conversion, rest, state) =>
              match convert state conversion with
              | .error problem => .error problem
              | .ok state => if state.stops then .ok state else formatOnce fuel rest state
  | fuel + 1, c :: rest, state => formatOnce fuel rest (state.put [c])

def formatAll (format : ByteText) : Nat → Formatting → Except ByteText Formatting
  | 0, state => .ok state
  | fuel + 1, state =>
      match formatOnce (format.length + 1) format state with
      | .error problem => .error problem
      | .ok next =>
          if next.stops || next.arguments.isEmpty ||
              next.arguments.length == state.arguments.length then .ok next
          else formatAll format fuel next

/-- The text that a format and its arguments give, and complaints about arguments. -/
def formatted (format : ByteText) (arguments : List ByteText) :
    Except ByteText (ByteText × List ByteText) :=
  match formatAll format (arguments.length + 1) { arguments } with
  | .error problem => .error problem
  | .ok state => .ok (state.parts.reverse.flatten, state.complaints)

end ConstructorAction.Tools.Shell
