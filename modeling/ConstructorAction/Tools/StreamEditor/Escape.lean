import ConstructorAction.Tools.StreamEditor.Script

namespace ConstructorAction.Tools.StreamEditor

/-!
Escapes in scripts: control characters, character codes, and what a backslash does in each kind of
text.
-/

/-- The kind of text that escapes are in. -/
inductive EscapeContext where
  | pattern
  | other
  deriving DecidableEq, Repr

/-- The base and the largest number of digits of a character code. -/
def codeForm? (letter : Char) : Option (Nat × Nat) :=
  match letter with
  | 'd' => some (10, 3)
  | 'o' => some (8, 3)
  | 'x' => some (16, 2)
  | _ => none

def isDigitIn (base : Nat) (c : Char) : Bool := isHexDigit c && digitValue c < base

def controlCharacter (c : Char) : Char := Char.ofNat (c.toUpper.toNat ^^^ 64)

/-- Replaces escapes by the characters they stand for. Every other backslash stays with the
character behind it; a backslash that results from a code gets one in front, except in patterns. -/
def resolveEscapes (context : EscapeContext) : Nat → ByteText → Except ScriptError ByteText
  | 0, text => .ok text
  | fuel + 1, text =>
      let continueWith := fun (front : ByteText) (rest : ByteText) =>
        (resolveEscapes context fuel rest).map (front ++ ·)
      match text with
      | [] => .ok []
      | ['\\', 'c'] => .ok ['\\']
      | '\\' :: 'c' :: '\\' :: rest =>
          match rest with
          | '\\' :: rest => continueWith [controlCharacter '\\'] rest
          | _ => .error .nestedControl
      | '\\' :: 'c' :: c :: rest => continueWith [controlCharacter c] rest
      | '\\' :: '\n' :: rest | '\\' :: 'n' :: rest => continueWith ['\n'] rest
      | '\\' :: c :: rest =>
          match codeForm? c with
          | some (base, most) =>
              let digits := (rest.take most).takeWhile (isDigitIn base)
              if digits.isEmpty then continueWith [c] rest
              else
                let code := Char.ofNat (valueInBase base digits % 256)
                let guarded := context != .pattern && (code == '\\' || code == '&')
                continueWith (if guarded then ['\\', code] else [code]) (rest.drop digits.length)
          | none =>
              match c with
              | 'a' => continueWith ['\x07'] rest
              | 'f' => continueWith ['\x0c'] rest
              | 'r' => continueWith ['\r'] rest
              | 't' => continueWith ['\t'] rest
              | 'v' => continueWith ['\x0b'] rest
              | c => continueWith ['\\', c] rest
      | c :: rest => continueWith [c] rest

def resolve (context : EscapeContext) (text : ByteText) : Except ScriptError ByteText :=
  resolveEscapes context (text.length + 1) text

def withoutBackslashes : ByteText → ByteText
  | '\\' :: c :: rest => c :: withoutBackslashes rest
  | c :: rest => c :: withoutBackslashes rest
  | [] => []

/-- Takes a replacement apart. `style` holds for what comes next, and `usual` after that. -/
def replacementParts (style usual : CaseStyle) (text : ByteText) :
    ByteText → List ReplacementPart
  | [] => if text.isEmpty then [] else [⟨text.reverse, none, style⟩]
  | ['\\'] => [⟨(('\\' :: text)).reverse, none, style⟩]
  | '\\' :: c :: rest =>
      let close := fun (group : Option Nat) (next usual : CaseStyle) =>
        (⟨text.reverse, group, style⟩ : ReplacementPart) :: replacementParts next usual [] rest
      match c with
      | 'L' => close none { all := .lower } { all := .lower }
      | 'U' => close none { all := .upper } { all := .upper }
      | 'E' => close none {} {}
      | 'l' => close none { usual with first := .lower } usual
      | 'u' => close none { usual with first := .upper } usual
      | c =>
          if c.isDigit then close (some (digitValue c)) usual usual
          else ⟨(c :: text).reverse, none, style⟩ :: replacementParts usual usual [] rest
  | '&' :: rest => ⟨text.reverse, some 0, style⟩ :: replacementParts usual usual [] rest
  | c :: rest => replacementParts style usual (c :: text) rest

/-- Where one is in a set of a pattern. -/
inductive SetState where
  | plain
  | bracket
  | named (mark : Char)
  | closing (mark : Char)
  deriving DecidableEq, Repr

/-- The rest of a set up to its closing bracket, or none if the line ends before it. -/
def setRest : SetState → ByteText → Option (ByteText × ByteText)
  | _, [] => none
  | state, c :: rest =>
      let step := fun state : SetState =>
        (setRest state rest).map fun (inside, rest) => (c :: inside, rest)
      let usual := match state with
        | .closing mark => step (.named mark)
        | .bracket => step .plain
        | state => step state
      if c = '\n' then none
      else if c = '.' ∨ c = ':' ∨ c = '=' then
        match state with
        | .bracket => step (.named c)
        | .named mark => if c = mark then step (.closing mark) else usual
        | _ => usual
      else if c = '[' then
        match state with
        | .plain => step .bracket
        | state => step state
      else if c = ']' then
        match state with
        | .plain | .bracket => some ([c], rest)
        | .closing _ => step .plain
        | _ => usual
      else usual

/-- A set behind its opening bracket; a closing bracket in front of all others is a member. -/
def wholeSet (text : ByteText) : Option (ByteText × ByteText) :=
  let (start, rest) : ByteText × ByteText := match text with
    | '^' :: ']' :: rest => (['^', ']'], rest)
    | '^' :: rest => (['^'], rest)
    | ']' :: rest => ([']'], rest)
    | rest => ([], rest)
  (setRest .plain rest).map fun (inside, rest) => (start ++ inside, rest)

/-- What is left where a set is not closed: all from the end of the line on. -/
def lineRest (text : ByteText) : ByteText := text.dropWhile (· != '\n')

/-- The text up to a delimiter, which loses its backslash if it has one. In patterns, delimiters
inside of sets do not count. If the line ends before it, what is left is returned as an error. -/
def delimited (delimiter : Char) (inPattern : Bool) :
    Nat → ByteText → Except ByteText (ByteText × ByteText)
  | 0, text => .error text
  | fuel + 1, text =>
      let continueWith := fun (front : ByteText) (rest : ByteText) =>
        (delimited delimiter inPattern fuel rest).map fun (text, rest) => (front ++ text, rest)
      match text with
      | [] => .error []
      | '\n' :: rest => .error ('\n' :: rest)
      | c :: rest =>
          if c = delimiter then .ok ([], rest)
          else if c = '\\' then
            match rest with
            | [] => .error []
            | d :: rest =>
                if d = 'n' ∧ inPattern then continueWith ['\n'] rest
                else if d = '\n' ∨ (d = delimiter ∧ (inPattern ∨ d ≠ '&')) then
                  continueWith [d] rest
                else continueWith ['\\', d] rest
          else if c = '[' ∧ inPattern then
            match wholeSet rest with
            | none => .error (lineRest rest)
            | some (inside, rest) => continueWith ('[' :: inside) rest
          else continueWith [c] rest

end ConstructorAction.Tools.StreamEditor
