import ConstructorAction.Tools.ByteText

namespace ConstructorAction.Tools

/-!
How complaints of text tools quote what they complain about. Values are put between single quotes
with backslash escapes. File names are written so that a command interpreter reads them back, and
without quotes where they need none.
-/

def threeOctal (c : Char) : ByteText :=
  let digits := Nat.toDigits 8 c.toNat
  List.replicate (3 - digits.length) '0' ++ digits

/-- The letter that stands for a control character behind a backslash. -/
def controlLetter? (c : Char) : Option Char :=
  match c with
  | '\x07' => some 'a'
  | '\x08' => some 'b'
  | '\x0c' => some 'f'
  | '\n' => some 'n'
  | '\r' => some 'r'
  | '\t' => some 't'
  | '\x0b' => some 'v'
  | _ => none

def escapedByte (c : Char) : ByteText :=
  match controlLetter? c with
  | some letter => ['\\', letter]
  | none => '\\' :: threeOctal c

def quotedValue (text : ByteText) : ByteText :=
  '\'' :: (text.flatMap fun c =>
    if c = '\'' ∨ c = '\\' then ['\\', c]
    else if isPrintable c then [c]
    else escapedByte c) ++ ['\'']

/-- Characters that a command interpreter takes as they are. -/
def isPlainInNames (c : Char) : Bool :=
  c.isAlphanum || "%+,-./@]_\x7b\x7d#~".contains c

def needsQuotes (name : ByteText) : Bool :=
  match name with
  | [] | ['\x7b'] | ['\x7d'] => true
  | c :: rest => c == '#' || c == '~' || !(c :: rest).all isPlainInNames

/-- The inside of single quotes; they are interrupted for controls and for single quotes. -/
def quotedNameParts (inControls : Bool) : ByteText → ByteText
  | [] => []
  | c :: rest =>
      if isPrintable c then
        let opening : ByteText := if inControls then ['\'', '\''] else []
        let written : ByteText := if c = '\'' then ['\'', '\\', '\'', '\''] else [c]
        opening ++ written ++ quotedNameParts false rest
      else
        let opening : ByteText := if inControls then [] else ['\'', '$', '\'']
        opening ++ escapedByte c ++ quotedNameParts true rest

def quotedName (name : ByteText) : ByteText :=
  let special := name.any fun c => c != '\'' && !(isPlainInNames c || c == ' ')
  if name.contains '\'' && !special then '"' :: name ++ ['"']
  else '\'' :: quotedNameParts false name ++ ['\'']

def shownName (name : ByteText) : ByteText :=
  if needsQuotes name then quotedName name else name

end ConstructorAction.Tools
