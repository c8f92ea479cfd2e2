import ConstructorAction.Tools.Filter
import ConstructorAction.Tools.LineSort.Version
import ConstructorAction.Tools.StreamEditor.Escape

namespace ConstructorAction.Tools.StreamEditor

/-!
Reading scripts. A script comes in pieces, from arguments and from files; only the text of a command
and a block can go on from one piece to the next.
-/

/-- Where a piece comes from. -/
inductive Origin where
  | expression (number : Nat)
  | file (name : ByteText)
  deriving DecidableEq, Repr, Inhabited

structure ScriptPiece where
  origin : Origin
  text : ByteText
  isFirst : Bool := false
  deriving DecidableEq, Repr, Inhabited

/-- The location in front of `rest`. -/
def ScriptPiece.locate (piece : ScriptPiece) (rest : ByteText) : Location :=
  let consumed := piece.text.take (piece.text.length - rest.length)
  match piece.origin with
  | .expression number => .expression number consumed.length
  | .file name => .file name (consumed.count '\n' + 1)

/-- What holds for a whole script. -/
structure Settings where
  extended : Bool := false
  sandbox : Bool := false
  /-- What lines end in. -/
  delimiter : Char := '\n'
  deriving DecidableEq, Repr, Inhabited

/-- A script as far as it was read. -/
structure Draft where
  commands : Array Command := #[]
  labels : List (ByteText × Nat) := []
  /-- Open blocks, the innermost first, with the places of their commands. -/
  blocks : List (Nat × Location) := []
  /-- The text of the last command, if it goes on in the next piece. -/
  openText : Option ByteText := none
  quiet : Bool := false
  disk : Disk := {}
  deriving Inhabited

abbrev ReadError := ScriptError × ByteText

abbrev Read (α : Type) := Except ReadError (α × ByteText)

def skipBlanks (text : ByteText) : ByteText := text.dropWhile isBlankByte

/-- Digits at the start of a text; none count as zero. -/
def takeNumber (text : ByteText) : Nat × ByteText :=
  let digits := text.takeWhile Char.isDigit
  (valueInBase 10 digits, text.drop digits.length)

def endOfCommand (text : ByteText) : Except ReadError ByteText :=
  match skipBlanks text with
  | [] => .ok []
  | c :: rest =>
      if c = '\x7d' ∨ c = '#' then .ok (c :: rest)
      else if c = '\n' ∨ c = ';' then .ok rest
      else .error (.extraCharacters, rest)

/-- A label ends at a blank, a semicolon, a closing brace or a comment. -/
def readLabel (text : ByteText) : ByteText × ByteText :=
  let text := skipBlanks text
  let label := text.takeWhile fun c => !(isSpaceByte c || c == ';' || c == '\x7d' || c == '#')
  (label, text.drop label.length)

def readName (text : ByteText) : Read ByteText :=
  let text := skipBlanks text
  let name := text.takeWhile (· != '\n')
  let rest := (text.drop name.length).tail
  if name.isEmpty then .error (.noFileName, rest) else .ok (name, rest)

/-- Makes a search of the text of a pattern; nothing if it is empty. -/
def search? (settings : Settings) (text : ByteText) (ignoreCase byLines : Bool) :
    Except ScriptError (Option Search) :=
  if text.isEmpty then
    if ignoreCase || byLines then .error .flagsOnNothing else .ok none
  else do
    let text ← resolve .pattern text
    let form := if settings.extended then Notation.extendedForm else Notation.basic
    let form := if byLines then form.byLines else form
    let mode : SearchMode :=
      { ignoreCase, lineBreak := if byLines then some settings.delimiter else none }
    match Pattern.parse form text with
    | .error problem => .error (.pattern problem)
    | .ok pattern => .ok (some ⟨pattern, mode⟩)

def addressFlags (ignoreCase byLines : Bool) : ByteText → Bool × Bool × ByteText
  | [] => (ignoreCase, byLines, [])
  | c :: rest =>
      if isBlankByte c then addressFlags ignoreCase byLines rest
      else if c = 'I' then addressFlags true byLines rest
      else if c = 'M' then addressFlags ignoreCase true rest
      else (ignoreCase, byLines, c :: rest)

def readPatternAddress (settings : Settings) (delimiter : Char) (text : ByteText) :
    Read RangeEnd :=
  match delimited delimiter true (text.length + 1) text with
  | .error rest => .error (.openAddress, rest)
  | .ok (pattern, rest) =>
      let (ignoreCase, byLines, rest) := addressFlags false false rest
      match search? settings pattern ignoreCase byLines with
      | .error problem => .error (problem, rest)
      | .ok found => .ok (.address (.matching found), rest)

def readAddress (settings : Settings) (text : ByteText) : Read (Option RangeEnd) :=
  match text with
  | '/' :: rest =>
      (readPatternAddress settings '/' rest).map fun (found, rest) => (some found, rest)
  | ['\\'] => .error (.openAddress, [])
  | '\\' :: delimiter :: rest =>
      (readPatternAddress settings delimiter rest).map fun (found, rest) => (some found, rest)
  | '$' :: rest => .ok (some (.address .last), rest)
  | '+' :: rest =>
      let (number, rest) := takeNumber (skipBlanks rest)
      .ok (some (.further number), rest)
  | '~' :: rest =>
      let (number, rest) := takeNumber (skipBlanks rest)
      .ok (some (.multiple number), rest)
  | c :: rest =>
      if c.isDigit then
        let (first, rest) := takeNumber (c :: rest)
        match skipBlanks rest with
        | '~' :: rest =>
            let (step, rest) := takeNumber (skipBlanks rest)
            .ok (some (.address (if step = 0 then .line first else .every first step)), rest)
        | rest => .ok (some (.address (.line first)), rest)
      else .ok (none, c :: rest)
  | [] => .ok (none, [])

/-- Whether a selector starts in front of all lines, which it may only do if it ends at a match.
A file may be read there, too. -/
def Selector.isLineZero (selector : Selector) : Bool :=
  selector.first == some (.line 0) &&
    match selector.second with
    | some (.address (.matching _)) => false
    | _ => true

def readSelector (settings : Settings) (text : ByteText) :
    Except ReadError (Selector × ByteText) := do
  let (first, rest) ← readAddress settings text
  let (selector, rest) ← match first with
    | none => Except.ok (({} : Selector), rest)
    | some (.address first) =>
        match skipBlanks rest with
        | ',' :: rest => do
            let (second, rest) ← readAddress settings (skipBlanks rest)
            match second with
            | none => .error (.unexpectedComma, rest.tail)
            | some second =>
                .ok ({ first := some first, second := some second }, skipBlanks rest)
        | rest => .ok ({ first := some first }, rest)
    | some _ => .error (.stepFirst, rest)
  if selector.isLineZero && (selector.second.isSome || rest.head? != some 'r') then
    .error (.lineZero, rest.tail)
  else
    match rest with
    | '!' :: rest =>
        match skipBlanks rest with
        | '!' :: rest => .error (.manyNegations, rest)
        | rest => .ok ({ selector with negated := true }, rest)
    | rest => .ok (selector, rest)

def readMap (text : ByteText) : Except ReadError (List (Char × Char) × ByteText) := do
  let (delimiter, rest) ← match text with
    | [] => .error (.openMap, [])
    | delimiter :: rest => Except.ok (delimiter, rest)
  let part := fun text : ByteText =>
    match delimited delimiter false (text.length + 1) text with
    | .error rest => Except.error (ScriptError.openMap, rest)
    | .ok (found, rest) =>
        match resolve .other found with
        | .error problem => .error (problem, rest)
        | .ok found => .ok (withoutBackslashes found, rest)
  let (source, rest) ← part rest
  let (target, rest) ← part rest
  if source.length = target.length then .ok (source.zip target, rest)
  else .error (.unequalMap, rest)

/-- The flags of a substitution. -/
structure SubstitutionFlags where
  ignoreCase : Bool := false
  byLines : Bool := false
  print : Bool := false
  global : Bool := false
  occurrence : Option Nat := none
  /-- Where replaced lines are written to. -/
  target : Option ByteText := none
  deriving DecidableEq, Repr, Inhabited

def readFlags (settings : Settings) :
    Nat → SubstitutionFlags → ByteText → Read SubstitutionFlags
  | 0, flags, text => .ok (flags, text)
  | _, flags, [] => .ok (flags, [])
  | fuel + 1, flags, c :: rest =>
      match c with
      | 'i' | 'I' => readFlags settings fuel { flags with ignoreCase := true } rest
      | 'm' | 'M' => readFlags settings fuel { flags with byLines := true } rest
      | 'e' =>
          if settings.sandbox then .error (.sandboxed, rest) else readFlags settings fuel flags rest
      | 'p' =>
          if flags.print then .error (.repeatedPrint, rest)
          else readFlags settings fuel { flags with print := true } rest
      | 'g' =>
          if flags.global then .error (.repeatedGlobal, rest)
          else readFlags settings fuel { flags with global := true } rest
      | 'w' =>
          if settings.sandbox then .error (.sandboxed, rest)
          else (readName rest).map fun (name, rest) => ({ flags with target := some name }, rest)
      | '\x7d' | '#' => .ok (flags, c :: rest)
      | '\n' | ';' => .ok (flags, rest)
      | ' ' | '\t' => readFlags settings fuel flags rest
      | '\r' =>
          match rest with
          | '\n' :: rest => .ok (flags, rest)
          | rest => .error (.unknownFlag, rest.tail)
      | c =>
          if !c.isDigit then .error (.unknownFlag, rest)
          else if flags.occurrence.isSome then .error (.repeatedNumber, rest)
          else
            let (number, rest) := takeNumber (c :: rest)
            if number = 0 then .error (.zeroNumber, rest)
            else readFlags settings fuel { flags with occurrence := some number } rest

/-- A substitution as it is written. -/
structure WrittenSubstitution where
  pattern : ByteText
  parts : List ReplacementPart
  flags : SubstitutionFlags
  deriving DecidableEq, Repr, Inhabited

def readSubstitution (settings : Settings) (text : ByteText) :
    Except ReadError (WrittenSubstitution × ByteText) := do
  let (delimiter, rest) ← match text with
    | [] => .error (.openSubstitution, [])
    | delimiter :: rest => Except.ok (delimiter, rest)
  let part := fun (inPattern : Bool) (text : ByteText) =>
    (delimited delimiter inPattern (text.length + 1) text).mapError fun rest =>
      (ScriptError.openSubstitution, rest)
  let (pattern, rest) ← part true rest
  let (replacement, rest) ← part false rest
  let replacement ← (resolve .other replacement).mapError (·, rest)
  let parts := replacementParts {} {} [] replacement
  let (flags, rest) ← readFlags settings (rest.length + 1) {} rest
  .ok (⟨pattern, parts, flags⟩, rest)

/-- The substitution that was written, once it is known where it writes to. -/
def WrittenSubstitution.resolve (written : WrittenSubstitution) (settings : Settings)
    (target : Option Target) : Except ScriptError Substitution := do
  let flags := written.flags
  let search ← search? settings written.pattern flags.ignoreCase flags.byLines
  let substitution : Substitution :=
    { search
      parts := written.parts
      global := flags.global
      occurrence := flags.occurrence.getD 1
      print := flags.print
      target }
  let highest := substitution.highestGroup
  if search.any fun search => search.pattern.groupCount < highest then
    .error (.unknownGroup highest)
  else .ok substitution

/-- A line of a text with its escapes, and whether a backslash at the end of the piece leaves it
open. -/
def textLine : ByteText → ByteText × ByteText × Bool
  | [] => ([], [], false)
  | ['\\'] => ([], [], true)
  | '\n' :: rest => ([], rest, false)
  | '\\' :: c :: rest =>
      let (text, rest, isOpen) := textLine rest
      ('\\' :: c :: text, rest, isOpen)
  | c :: rest =>
      let (text, rest, isOpen) := textLine rest
      (c :: text, rest, isOpen)

def textStart? (text : ByteText) : Option ByteText :=
  match skipBlanks text with
  | [] => none
  | '\\' :: '\n' :: rest => some rest
  | '\\' :: rest => some rest
  | rest => some rest

namespace Draft

def push (draft : Draft) (command : Command) : Draft :=
  { draft with commands := draft.commands.push command }

def setText (draft : Draft) (text : ByteText) : Draft :=
  { draft with
    commands := draft.commands.modify (draft.commands.size - 1) fun command =>
      match command.action with
      | .text place _ => { command with action := .text place text }
      | _ => command }

def readText (draft : Draft) (start text : ByteText) : Read Draft :=
  let (line, rest, isOpen) := textLine text
  let whole := start ++ line ++ ['\n']
  if isOpen then .ok ({ draft.setText whole with openText := some whole }, rest)
  else
    match resolve .other whole with
    | .error problem => .error (problem, rest)
    | .ok whole =>
        .ok ({ draft.setText (withoutBackslashes whole) with openText := none }, rest)

def openTarget (draft : Draft) (name : ByteText) : Except Failure (Target × Draft) :=
  if name = ofString "/dev/stdout" then .ok (.stdout, draft)
  else if name = ofString "/dev/stderr" then .ok (.stderr, draft)
  else
    match draft.disk.findOrCreate name with
    | .error reason => .error (.noFile name reason.reason)
    | .ok (.file route _) =>
        .ok (.file name, { draft with disk := draft.disk.put route [] })
    | .ok (.device _) => .ok (.file name, draft)
    | .ok _ => .error (.noFile name "Is a directory")

end Draft

/-- A failure leaves behind what was written to the disk before it. -/
abbrev Attempt (α : Type) := Except (Failure × Disk) α

/-- Whether a version is above the one whose commands are known. -/
def isNewer (version : ByteText) : Bool :=
  LineSort.orderPieces (version.length + 4) version ['4', '.', '9'] == .gt

/-- The failure that a problem in front of `rest` is. -/
def ScriptPiece.failure (piece : ScriptPiece) (error : ReadError) : Failure :=
  if error.1 = .pattern .bareClass then .confusingClass
  else .script (piece.locate error.2) error.1

def Draft.fail {α : Type} (draft : Draft) (piece : ScriptPiece) (error : ReadError) : Attempt α :=
  .error (piece.failure error, draft.disk)

def Draft.attempt {α : Type} (draft : Draft) (piece : ScriptPiece) (read : Except ReadError α) :
    Attempt α :=
  read.mapError fun error => (piece.failure error, draft.disk)

/-- Adds a command that has to be complete where `rest` starts. -/
def Draft.finishCommand (draft : Draft) (piece : ScriptPiece) (command : Command)
    (rest : ByteText) : Attempt (Draft × ByteText) :=
  (draft.attempt piece (endOfCommand rest)).map (draft.push command, ·)

/-- A comment, which in front of the script may be a switch. -/
def Draft.readComment (draft : Draft) (piece : ScriptPiece) (rest : ByteText) : Draft × ByteText :=
  let isSwitch := piece.isFirst && rest.length + 1 = piece.text.length && rest.head? == some 'n'
  ({ draft with quiet := draft.quiet || isSwitch }, (rest.dropWhile (· != '\n')).tail)

def Draft.closeBlock (draft : Draft) (piece : ScriptPiece) (selector : Selector)
    (rest : ByteText) : Attempt (Draft × ByteText) :=
  match draft.blocks with
  | [] => draft.fail piece (.unopenedBlock, rest)
  | (place, _) :: blocks => do
      if selector.first.isSome then draft.fail piece (.addressAtBlockEnd, rest)
      else
        let rest ← draft.attempt piece (endOfCommand rest)
        let commands := draft.commands.modify place fun command =>
          { command with action := .block draft.commands.size }
        .ok ({ draft with commands, blocks }, rest)

/-- A command with a text. Nothing but a backslash leaves the text open. -/
def Draft.readTextCommand (draft : Draft) (piece : ScriptPiece) (selector : Selector)
    (place : TextPlace) (rest : ByteText) : Attempt (Draft × ByteText) :=
  match textStart? rest with
  | none => draft.fail piece (.noText, [])
  | some start =>
      let draft := draft.push ⟨selector, .text place []⟩
      if skipBlanks rest = ['\\'] then .ok ({ draft with openText := some [] }, [])
      else draft.attempt piece (draft.readText [] start)

def Draft.attemptTarget (draft : Draft) (name : ByteText) : Attempt (Target × Draft) :=
  (draft.openTarget name).mapError (·, draft.disk)

def Draft.readCommand (draft : Draft) (settings : Settings) (piece : ScriptPiece)
    (selector : Selector) (text : ByteText) : Attempt (Draft × ByteText) :=
  let push := fun action : Action => draft.push ⟨selector, action⟩
  let finish := fun (action : Action) (rest : ByteText) =>
    draft.finishCommand piece ⟨selector, action⟩ rest
  match text with
  | [] => draft.fail piece (.noCommand, [])
  | letter :: rest =>
      match letter with
      | '#' =>
          if selector.first.isSome then draft.fail piece (.addressAtComment, rest)
          else .ok (draft.readComment piece rest)
      | ':' =>
          let (label, after) := readLabel rest
          if selector.first.isSome then draft.fail piece (.addressAtLabel, rest)
          else if label.isEmpty then draft.fail piece (.noLabel, after)
          else
            let labels := draft.labels ++ [(label, draft.commands.size)]
            .ok ({ draft with labels }, after)
      | '\x7b' =>
          let start := match piece.locate rest with
            | .expression number _ => Location.expression number 0
            | location => location
          let blocks := (draft.commands.size, start) :: draft.blocks
          .ok ({ push (.block 0) with blocks }, rest)
      | '\x7d' => draft.closeBlock piece selector rest
      | 'a' => draft.readTextCommand piece selector .after rest
      | 'i' => draft.readTextCommand piece selector .before rest
      | 'c' => draft.readTextCommand piece selector .instead rest
      | 'b' | 't' | 'T' =>
          let (label, rest) := readLabel rest
          let condition : JumpCondition :=
            if letter = 'b' then .always else if letter = 't' then .replaced else .notReplaced
          .ok (push (.jump condition label), rest)
      | 'q' | 'Q' =>
          if selector.second.isSome then draft.fail piece (.twoAddresses, rest)
          else
            let (status, rest) := takeNumber (skipBlanks rest)
            finish (.stop (letter = 'q') status) rest
      | 'l' =>
          let rest := skipBlanks rest
          let (width, after) := takeNumber rest
          finish (.list (if rest.length = after.length then none else some width)) after
      | 'L' => finish (.letter 'L') (takeNumber (skipBlanks rest)).2
      | 's' => do
          let (written, rest) ← draft.attempt piece (readSubstitution settings rest)
          let (target, draft) ← match written.flags.target with
            | none => Except.ok (none, draft)
            | some name =>
                (draft.attemptTarget name).map fun (target, draft) => (some target, draft)
          let substitution ← draft.attempt piece
            ((written.resolve settings target).mapError (·, rest))
          .ok (draft.push ⟨selector, .substitute substitution⟩, rest)
      | 'y' => do
          let (pairs, rest) ← draft.attempt piece (readMap rest)
          finish (.map pairs) rest
      | 'r' | 'R' =>
          if settings.sandbox then draft.fail piece (.sandboxed, rest)
          else do
            let (name, rest) ← draft.attempt piece (readName rest)
            .ok (push (if letter = 'r' then .readFile name else .readLine name), rest)
      | 'w' | 'W' =>
          if settings.sandbox then draft.fail piece (.sandboxed, rest)
          else do
            let (name, rest) ← draft.attempt piece (readName rest)
            let (target, draft) ← draft.attemptTarget name
            .ok (draft.push ⟨selector, .write (letter = 'W') target⟩, rest)
      | 'v' =>
          let (version, rest) := readLabel rest
          if isNewer version then draft.fail piece (.newerVersion, rest) else .ok (draft, rest)
      | letter =>
          if "=dDFgGhHnNpPzx".contains letter then finish (.letter letter) rest
          else draft.fail piece (.unknownCommand letter, rest)

def Draft.readCommands (settings : Settings) (piece : ScriptPiece) :
    Nat → Draft → ByteText → Attempt Draft
  | 0, draft, _ => .ok draft
  | fuel + 1, draft, text =>
      match text.dropWhile fun c => isSpaceByte c || c == ';' with
      | [] => .ok draft
      | text => do
          let (selector, rest) ← draft.attempt piece (readSelector settings text)
          let (draft, rest) ← draft.readCommand settings piece selector rest
          readCommands settings piece fuel draft rest

def Draft.readPiece (draft : Draft) (settings : Settings) (piece : ScriptPiece) :
    Attempt Draft := do
  let (draft, rest) ← match draft.openText with
    | none => Except.ok (draft, piece.text)
    | some start => draft.attempt piece (draft.readText start piece.text)
  Draft.readCommands settings piece (rest.length + 1) draft rest

def endLocation (pieces : List ScriptPiece) : Location :=
  match pieces.getLast? with
  | none => .expression 0 0
  | some piece =>
      match piece.locate [] with
      | .expression number _ => .expression number 0
      | location => location

/-- The finished script. Jumps are checked now that all labels are known, the last one first. -/
def Draft.finish (draft : Draft) : Except Failure Script :=
  match draft.blocks with
  | (_, location) :: _ => .error (.script location .openBlock)
  | [] =>
      let script : Script :=
        { commands := draft.commands.toList, labels := draft.labels, quiet := draft.quiet }
      let lost := script.commands.reverse.findSome? fun command =>
        match command.action with
        | .jump _ label => if (script.labelPlace? label).isNone then some label else none
        | _ => none
      match lost with
      | some label => .error (.noLabel label)
      | none => .ok script

end ConstructorAction.Tools.StreamEditor
