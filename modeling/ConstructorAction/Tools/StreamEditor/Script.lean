import ConstructorAction.Tools.Pattern.Notation

namespace ConstructorAction.Tools.StreamEditor

/-!
Scripts of the stream editor: a list of commands, each of which is limited to certain lines. Blocks
and jumps refer to commands by their place in the list.
-/

/-- A pattern to look for. -/
structure Search where
  pattern : Pattern
  mode : SearchMode := {}
  deriving DecidableEq, Repr, Inhabited

inductive Address where
  | line (number : Nat)
  | last
  /-- A line with a match; without a pattern, the one that was looked for last counts. -/
  | matching (search : Option Search)
  | every (first step : Nat)
  deriving DecidableEq, Repr, Inhabited

/-- Where a range ends. -/
inductive RangeEnd where
  | address (address : Address)
  | further (lines : Nat)
  | multiple (of : Nat)
  deriving DecidableEq, Repr, Inhabited

/-- The lines that a command applies to. -/
structure Selector where
  first : Option Address := none
  second : Option RangeEnd := none
  negated : Bool := false
  deriving DecidableEq, Repr, Inhabited

inductive CaseChange where
  | keep
  | upper
  | lower
  deriving DecidableEq, Repr, Inhabited

def CaseChange.apply (change : CaseChange) (c : Char) : Char :=
  match change with
  | .keep => c
  | .upper => c.toUpper
  | .lower => c.toLower

/-- What happens to the case of a text, and to that of its first letter in particular. -/
structure CaseStyle where
  all : CaseChange := .keep
  first : CaseChange := .keep
  deriving DecidableEq, Repr, Inhabited

def CaseStyle.apply (style : CaseStyle) (text : ByteText) : ByteText :=
  match style.first, text with
  | .keep, text => text.map style.all.apply
  | _, [] => []
  | first, c :: rest => first.apply c :: rest.map style.all.apply

/-- A text and the text of a group behind it, both in one style. Group zero is the whole match. -/
structure ReplacementPart where
  text : ByteText
  group : Option Nat := none
  style : CaseStyle := {}
  deriving DecidableEq, Repr, Inhabited

/-- Where commands write to. -/
inductive Target where
  /-- The result of the editor. -/
  | result
  | stdout
  | stderr
  | file (name : ByteText)
  deriving DecidableEq, Repr, Inhabited

structure Substitution where
  search : Option Search
  parts : List ReplacementPart
  global : Bool := false
  /-- The first match that is replaced. -/
  occurrence : Nat := 1
  print : Bool := false
  target : Option Target := none
  deriving DecidableEq, Repr, Inhabited

def Substitution.highestGroup (substitution : Substitution) : Nat :=
  (substitution.parts.filterMap (·.group)).foldl max 0

/-- When a jump is taken. -/
inductive JumpCondition where
  | always
  | replaced
  | notReplaced
  deriving DecidableEq, Repr, Inhabited

inductive TextPlace where
  | before
  | after
  | instead
  deriving DecidableEq, Repr, Inhabited

inductive Action where
  /-- Labels, and the ends of blocks. -/
  | nothing
  /-- The commands up to a place in the list. -/
  | block (stop : Nat)
  /-- A jump to a label; the empty one is the end of the script. -/
  | jump (condition : JumpCondition) (label : ByteText)
  | substitute (substitution : Substitution)
  | map (pairs : List (Char × Char))
  | text (place : TextPlace) (text : ByteText)
  /-- `q`, and `Q` if not `prints`. -/
  | stop (prints : Bool) (status : Nat)
  /-- Shows a line unambiguously, in columns of a width. -/
  | list (width : Option Nat)
  | readFile (name : ByteText)
  | readLine (name : ByteText)
  | write (firstLine : Bool) (target : Target)
  /-- The other commands that consist of a letter. -/
  | letter (letter : Char)
  deriving DecidableEq, Repr, Inhabited

structure Command where
  selector : Selector
  action : Action
  deriving DecidableEq, Repr, Inhabited

structure Script where
  commands : List Command := []
  /-- Labels with their places; the last one of a name counts. -/
  labels : List (ByteText × Nat) := []
  /-- Whether lines are not printed unless a command does so. -/
  quiet : Bool := false
  deriving Repr, Inhabited

def Script.labelPlace? (script : Script) (label : ByteText) : Option Nat :=
  if label.isEmpty then some script.commands.length else script.labels.reverse.lookup label

/-- Where a script is written. -/
inductive Location where
  /-- An argument by its number, and the number of characters read. -/
  | expression (number : Nat) (characters : Nat)
  | file (name : ByteText) (line : Nat)
  deriving DecidableEq, Repr, Inhabited

inductive ScriptError where
  | manyNegations
  | unexpectedComma
  | stepFirst
  | openBlock
  | unopenedBlock
  | extraCharacters
  | noText
  | addressAtBlockEnd
  | addressAtLabel
  | addressAtComment
  | noCommand
  | twoAddresses
  | openAddress
  | openSubstitution
  | openMap
  | unknownFlag
  | repeatedPrint
  | repeatedGlobal
  | repeatedNumber
  | zeroNumber
  | unequalMap
  | lineZero
  | unknownCommand (letter : Char)
  | noLabel
  | nestedControl
  | sandboxed
  | noFileName
  | newerVersion
  | flagsOnNothing
  | noSearchBefore
  | pattern (problem : PatternError)
  | unknownGroup (number : Nat)
  deriving DecidableEq, Repr

def ScriptError.message : ScriptError → ByteText
  | .manyNegations => ofString "multiple \x60!'s"
  | .unexpectedComma => ofString "unexpected \x60,'"
  | .stepFirst => ofString "invalid usage of +N or ~N as first address"
  | .openBlock => ofString "unmatched \x60\x7b'"
  | .unopenedBlock => ofString "unexpected \x60\x7d'"
  | .extraCharacters => ofString "extra characters after command"
  | .noText => ofString "expected \\ after \x60a', \x60c' or \x60i'"
  | .addressAtBlockEnd => ofString "\x60\x7d' doesn't want any addresses"
  | .addressAtLabel => ofString ": doesn't want any addresses"
  | .addressAtComment => ofString "comments don't accept any addresses"
  | .noCommand => ofString "missing command"
  | .twoAddresses => ofString "command only uses one address"
  | .openAddress => ofString "unterminated address regex"
  | .openSubstitution => ofString "unterminated \x60s' command"
  | .openMap => ofString "unterminated \x60y' command"
  | .unknownFlag => ofString "unknown option to \x60s'"
  | .repeatedPrint => ofString "multiple \x60p' options to \x60s' command"
  | .repeatedGlobal => ofString "multiple \x60g' options to \x60s' command"
  | .repeatedNumber => ofString "multiple number options to \x60s' command"
  | .zeroNumber => ofString "number option to \x60s' command may not be zero"
  | .unequalMap => ofString "strings for \x60y' command are different lengths"
  | .lineZero => ofString "invalid usage of line address 0"
  | .unknownCommand letter => ofString "unknown command: \x60" ++ [letter, '\'']
  | .noLabel => ofString "\":\" lacks a label"
  | .nestedControl => ofString "recursive escaping after \\c not allowed"
  | .sandboxed => ofString "e/r/w commands disabled in sandbox mode"
  | .noFileName => ofString "missing filename in r/R/w/W commands"
  | .newerVersion => ofString "expected newer version of sed"
  | .flagsOnNothing => ofString "cannot specify modifiers on empty regexp"
  | .noSearchBefore => ofString "no previous regular expression"
  | .pattern problem => ofString problem.message
  | .unknownGroup number => ofString s!"invalid reference \\{number} on \x60s' command's RHS"

/-- Why a script is not run, or not to its end. -/
inductive Failure where
  | script (location : Location) (problem : ScriptError)
  | noLabel (label : ByteText)
  | noFile (name : ByteText) (reason : String)
  | confusingClass
  deriving DecidableEq, Repr

def Failure.message : Failure → ByteText
  | .script (.expression number characters) problem =>
      ofString s!"-e expression #{number}, char {characters}: " ++ problem.message
  | .script (.file name line) problem =>
      ofString "file " ++ name ++ ofString s!" line {line}: " ++ problem.message
  | .noLabel label => ofString "can't find label for jump to \x60" ++ label ++ ['\'']
  | .noFile name reason => ofString "couldn't open file " ++ name ++ ofString s!": {reason}"
  | .confusingClass => ofString PatternError.bareClass.message

def Failure.status : Failure → Nat
  | .script _ _ => 1
  | _ => 4

end ConstructorAction.Tools.StreamEditor
