import ConstructorAction.Tools.ByteText

namespace ConstructorAction.Tools.Shell

/-!
Programs of the command interpreter as trees. A word keeps its quotes and its references to
parameters, because what they stand for depends on where the word is expanded.
-/

inductive ParameterUse where
  /-- A reference that cannot be expanded. -/
  | invalid
  | value
  | length
  /-- The word stands in for a value that is missing. -/
  | otherwise
  /-- The word stands in for a value that is there. -/
  | instead
  /-- A missing value is a fault. -/
  | required
  /-- A missing value is assigned first. -/
  | assigned
  /-- The value without what matches the word, from the start or up to the end. -/
  | trimmed (atEnd longest : Bool)
  deriving DecidableEq, Repr, Inhabited

structure ParameterReference where
  name : ByteText
  use : ParameterUse := .value
  /-- Whether an empty value counts as missing. -/
  emptyIsMissing : Bool := false
  deriving DecidableEq, Repr, Inhabited

/-- How a file is opened. -/
inductive OpenMode where
  | read
  | readWrite
  | write
  /-- Like `write`, and replaces what is there even if that is switched off. -/
  | replace
  | append
  deriving DecidableEq, Repr, Inhabited

/-- What a redirection connects a descriptor with. -/
inductive RedirectionKind where
  | file (mode : OpenMode)
  /-- Another descriptor, or none; a text that says neither is expanded first. -/
  | duplicate (from_ : Option (Option Nat))
  /-- A text in the program itself, by its number. -/
  | document (number : Nat) (expands : Bool)
  deriving DecidableEq, Repr, Inhabited

inductive LoopKind where
  | while_
  | until_
  deriving DecidableEq, Repr, Inhabited

mutual

/-- A piece of a word. -/
inductive Part where
  | char (c : Char)
  /-- A character that stands for itself alone. -/
  | quoted (c : Char)
  /-- Quotes begin or end here. -/
  | mark
  | parameter (reference : ParameterReference) (word : List Part)
  | output (program : Option Command)
  | arithmetic (expression : List Part)

/-- A descriptor, and what it is connected with. -/
inductive Redirection where
  | mk (descriptor : Nat) (kind : RedirectionKind) (target : List Part)

/-- A command. Those that can fail to expand know their line. -/
inductive Command where
  | simple (line : Nat) (assignments words : List (List Part)) (redirections : List Redirection)
  | pipeline (stages : List Command) (inBackground : Bool)
  | redirected (line : Nat) (body : Command) (redirections : List Redirection)
  | subshell (line : Nat) (body : Option Command) (redirections : List Redirection)
  | background (line : Nat) (body : Command) (redirections : List Redirection)
  | both (first second : Command)
  | either (first second : Command)
  | sequence (first second : Command)
  | negated (body : Command)
  | branch (condition body : Option Command) (otherwise : Option Command)
  | loop (kind : LoopKind) (condition body : Option Command)
  | forEach (line : Nat) (name : ByteText) (words : List (List Part)) (body : Option Command)
  | choose (line : Nat) (subject : List Part)
      (choices : List (List (List Part) × Option Command))
  | define (line : Nat) (name : ByteText) (body : Command)

end

instance : Inhabited Part := ⟨.mark⟩

instance : Inhabited Command := ⟨.pipeline [] false⟩

instance : Inhabited Redirection := ⟨.mk 0 default []⟩

abbrev Word := List Part

def isNameStart (c : Char) : Bool := c.isAlpha || c == '_'

def isNameChar (c : Char) : Bool := c.isAlphanum || c == '_'

def isName (text : ByteText) : Bool :=
  match text with
  | [] => false
  | c :: rest => isNameStart c && rest.all isNameChar

def isSpecialParameter (c : Char) : Bool := "*@#?-$!0123456789".contains c

def plainText? (word : Word) : Option ByteText :=
  word.mapM fun part =>
    match part with
    | .char c => some c
    | _ => none

/-- The name in front of the equals sign, if a word is an assignment. -/
def assignedName? (word : Word) : Option ByteText :=
  let start := word.map fun part =>
    match part with
    | .char c => some c
    | _ => none
  let name := (start.takeWhile fun c => c.any isNameChar).filterMap id
  if isName name && start[name.length]? == some (some '=') then some name else none

/-- The text in front of the equals sign and the one behind it; without a sign, there is no
second one. -/
def splitAssignment (text : ByteText) : ByteText × Option ByteText :=
  let name := text.takeWhile (· != '=')
  match text.drop name.length with
  | _ :: value => (name, some value)
  | [] => (name, none)

end ConstructorAction.Tools.Shell
