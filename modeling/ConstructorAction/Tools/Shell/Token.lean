import ConstructorAction.Tools.Shell.Program

namespace ConstructorAction.Tools.Shell

/-!
What the reader of programs works on: tokens, the text that is still to be read, and the aliases
that are put in its place.
-/

inductive Keyword where
  | not
  | begin_
  | end_
  | case_
  | do_
  | done
  | elif
  | else_
  | esac
  | fi
  | for_
  | if_
  | in_
  | then_
  | until_
  | while_
  deriving DecidableEq, Repr, Inhabited

def keywords : List (String × Keyword) :=
  [("!", .not), ("\x7b", .begin_), ("\x7d", .end_), ("case", .case_), ("do", .do_),
   ("done", .done), ("elif", .elif), ("else", .else_), ("esac", .esac), ("fi", .fi),
   ("for", .for_), ("if", .if_), ("in", .in_), ("then", .then_), ("until", .until_),
   ("while", .while_)]

def Keyword.text (keyword : Keyword) : String :=
  ((keywords.find? fun entry => entry.2 == keyword).map (·.1)).getD ""

def keyword? (word : Word) : Option Keyword := do
  keywords.lookup (String.ofList (← plainText? word))

/-- A redirection as it starts: without what comes behind the sign. -/
inductive RedirectionSign where
  | file (mode : OpenMode)
  | duplicate
  | document (stripsTabs : Bool)
  deriving DecidableEq, Repr, Inhabited

inductive Token where
  | endOfInput
  | newline
  | semicolon
  | ampersand
  | and_
  | or_
  | pipe
  | opening
  | closing
  | endOfChoice
  | redirection (descriptor : Nat) (sign : RedirectionSign)
  | word (word : Word) (isQuoted : Bool)
  | reserved (keyword : Keyword)
  deriving Inhabited

def Token.shown : Token → String
  | .endOfInput => "end of file"
  | .newline => "newline"
  | .semicolon => "\";\""
  | .ampersand => "\"&\""
  | .and_ => "\"&&\""
  | .or_ => "\"||\""
  | .pipe => "\"|\""
  | .opening => "\"(\""
  | .closing => "\")\""
  | .endOfChoice => "\";;\""
  | .redirection _ _ => "redirection"
  | .word _ _ => "word"
  | .reserved keyword => "\"" ++ keyword.text ++ "\""

def Token.endsList : Token → Bool
  | .endOfInput | .closing | .endOfChoice => true
  | .reserved keyword =>
      match keyword with
      | .do_ | .done | .elif | .else_ | .esac | .fi | .then_ | .end_ => true
      | _ => false
  | _ => false

/-- A fault in a program, at a line. -/
structure SyntaxFault where
  line : Nat
  reason : String
  deriving DecidableEq, Repr, Inhabited

/-- What the next word may be besides itself. -/
structure Expectation where
  keywords : Bool := false
  newlines : Bool := false
  aliases : Bool := false
  /-- Whether the word is the end mark of a document. -/
  endMark : Bool := false
  deriving DecidableEq, Repr, Inhabited

def Expectation.or (first second : Expectation) : Expectation :=
  ⟨first.keywords || second.keywords, first.newlines || second.newlines,
    first.aliases || second.aliases, first.endMark || second.endMark⟩

/-- A character, or the place where the text of an alias ends. -/
inductive SourceItem where
  | char (c : Char)
  | aliasEnd (name : ByteText) (endsInBlank : Bool)
  deriving DecidableEq, Repr, Inhabited

def sourceOf (text : ByteText) : List SourceItem := text.map .char

/-- A document that is announced and not read yet. -/
structure PendingDocument where
  number : Nat
  mark : ByteText
  stripsTabs : Bool
  isLiteral : Bool
  deriving DecidableEq, Repr, Inhabited

structure Reading where
  source : List SourceItem
  line : Nat := 1
  aliases : List (ByteText × ByteText) := []
  /-- Aliases whose text is being read. -/
  active : List ByteText := []
  /-- Aliases whose text ended in front of the last character. -/
  leaving : List ByteText := []
  expected : Expectation := {}
  pushedBack : Option Token := none
  pending : List PendingDocument := []
  documents : List (Nat × Word) := []
  nextDocument : Nat := 0
  deriving Inhabited

abbrev Reader := StateT Reading (Except SyntaxFault)

namespace Reading

def skipAliasEnds : List SourceItem → Reading → Reading
  | .aliasEnd name endsInBlank :: rest, reading =>
      let expected :=
        if endsInBlank then { reading.expected with aliases := true } else reading.expected
      skipAliasEnds rest
        { reading with source := rest, leaving := name :: reading.leaving, expected }
  | _, reading => reading

def release (reading : Reading) : Reading :=
  let reading :=
    { reading with
      active := reading.active.filter fun name => !reading.leaving.contains name
      leaving := [] }
  skipAliasEnds reading.source reading

def take (reading : Reading) : Option Char × Reading :=
  match reading.source with
  | .char c :: rest => (some c, { reading with source := rest })
  | _ => (none, reading)

def next (reading : Reading) : Option Char × Reading := reading.release.take

def putBack (reading : Reading) (c : Option Char) : Reading :=
  match c with
  | some c => { reading with source := .char c :: reading.source }
  | none => reading

/-- Leaves out line feeds that have a backslash in front. -/
def joinLines : List SourceItem → Reading → Reading
  | .char '\\' :: .char '\n' :: rest, reading =>
      joinLines rest { reading with source := rest, line := reading.line + 1 }
  | _, reading => reading

def nextJoined (reading : Reading) : Option Char × Reading :=
  let reading := reading.release
  (joinLines reading.source reading).take

def insertAlias (reading : Reading) (name value : ByteText) : Reading :=
  let endsInBlank := value.getLast?.any isBlankByte
  { reading with
    source := sourceOf value ++ .aliasEnd name endsInBlank :: reading.source
    active := name :: reading.active }

end Reading

namespace Reader

def nextChar : Reader (Option Char) := fun reading => .ok reading.next

def nextJoined : Reader (Option Char) := fun reading => .ok reading.nextJoined

def putBack (c : Option Char) : Reader Unit := modify fun reading => reading.putBack c

def pushBack (token : Token) : Reader Unit :=
  modify fun reading => { reading with pushedBack := some token }

def countLine : Reader Unit := modify fun reading => { reading with line := reading.line + 1 }

def expect (expected : Expectation) : Reader Unit :=
  modify fun reading => { reading with expected }

def fault {α : Type} (reason : String) : Reader α := fun reading =>
  .error ⟨reading.line, s!"Syntax error: {reason}"⟩

/-- Refuses a token; `wanted` is the only one that would do. -/
def unexpected {α : Type} (token : Token) (wanted : Option Token) : Reader α :=
  match wanted with
  | none => fault s!"{token.shown} unexpected"
  | some wanted => fault s!"{token.shown} unexpected (expecting {wanted.shown})"

/-- Takes over characters as long as they are wanted; the first that is not is left. -/
def takeNameChars (wanted : Char → Bool) : Nat → ByteText → Reader ByteText
  | 0, taken => return taken.reverse
  | fuel + 1, taken => do
      match ← nextJoined with
      | some c =>
          if wanted c then takeNameChars wanted fuel (c :: taken)
          else
            putBack (some c)
            return taken.reverse
      | none => return taken.reverse

end Reader

end ConstructorAction.Tools.Shell
