import ConstructorAction.Tools.Filter
import ConstructorAction.Tools.Pattern.Notation

namespace ConstructorAction.Tools

/-!
The filter that copies its operands with the records in reverse order. Records are told apart by a
separator, which is looked for from the end.
-/

namespace Reverse

def options : List OptionForm :=
  [⟨"b", ["before"], .never⟩, ⟨"r", ["regex"], .never⟩, ⟨"s", ["separator"], .always⟩]

/-- The length of a separator at a place between what is before it, the nearest first, and what
follows. -/
abbrev SeparatorTest := ByteText → ByteText → Option Nat

/-- A fixed text; the empty one stands for the NUL character. -/
def fixedTest (separator : ByteText) : SeparatorTest := fun _ rest =>
  let separator := if separator.isEmpty then ['\x00'] else separator
  if separator.isPrefixOf rest then some separator.length else none

def patternTest (pattern : Pattern) : SeparatorTest := fun before rest =>
  (pattern.longestAt? { lineBreak := some '\n' } ⟨before, rest, []⟩).map fun found =>
    rest.length - found.rest.length

/-- A separator with the text that follows it up to the next one. -/
structure Section where
  separator : ByteText
  text : ByteText
  deriving DecidableEq, Repr, Inhabited

/-- The sections of a text, the last one first, and the text in front of all separators. A separator
ends where the next one starts at the latest. -/
def sections (test : SeparatorTest) : ByteText → ByteText → List Section × ByteText
  | [], rest => ([], rest)
  | c :: before, rest =>
      let rest := c :: rest
      match test before rest with
      | none => sections test before rest
      | some length =>
          let (later, front) := sections test before []
          (⟨rest.take length, rest.drop length⟩ :: later, front)

def separatorsFirst (cut : List Section × ByteText) : ByteText :=
  (cut.1.flatMap fun piece => piece.separator ++ piece.text) ++ cut.2

def separatorsLast (cut : List Section × ByteText) : ByteText :=
  go [] cut.1
where
  go (separator : ByteText) : List Section → ByteText
    | [] => cut.2 ++ separator
    | piece :: later => piece.text ++ separator ++ go piece.separator later

def reversed (test : SeparatorTest) (before : Bool) (text : ByteText) : ByteText :=
  let cut := sections test text.reverse []
  if before then separatorsFirst cut else separatorsLast cut

end Reverse

open Reverse

/-- Copies its operands with the records of each in reverse order. -/
def tac (invocation : Invocation) : Filtered :=
  let read := readArguments Reverse.options true invocation.arguments
  let separator := (lastValue? read.given "s").getD ['\n']
  let test : Except String SeparatorTest :=
    if !hasOption read.given "r" then .ok (fixedTest separator)
    else if separator.isEmpty then .error "separator cannot be empty"
    else
      match Pattern.parse .separator separator with
      | .error problem => .error problem.message
      | .ok pattern => .ok (patternTest pattern)
  match read.problem, test with
  | some problem, _ => invocation.usageError 1 problem.message
  | none, .error problem => .failure 1 (invocation.message (ofString problem))
  | none, .ok test =>
      let done := invocation.foldOperands read.operands fun done name result =>
        let shown := if name = ['-'] then ofString "'standard input'" else shownName name
        match result with
        | .ok text => done.write (reversed test (hasOption read.given "b") text)
        | .error .isDirectory =>
            done.complain 1 (invocation.message
              (shown ++ ofString ": read error: Invalid argument"))
        | .error .closed =>
            done.complain 1 (invocation.message
              (shown ++ ofString ": read error: Bad file descriptor"))
        | .error reason =>
            done.complain 1 (invocation.message (ofString "failed to open " ++ quotedName name ++
              ofString s!" for reading: {reason.reason}"))
      if invocation.missesStdin (orStdin read.operands) then
        (done.complain 1 (invocation.message (ofString "-: Bad file descriptor"))).complaintsFirst
      else done.complaintsFirst

end ConstructorAction.Tools
