import ConstructorAction.Tools.Filter
import ConstructorAction.Tools.StreamEditor.Script

namespace ConstructorAction.Tools.StreamEditor

open ConstructorAction.Files

/-!
Running scripts. The commands of a script are applied to one line after the other; what they write,
and what they leave for later lines, is in the state of the editor.
-/

/-- How a script is run. -/
structure RunMode where
  quiet : Bool := false
  /-- Whether every file is edited by itself. -/
  separate : Bool := false
  /-- Whether files are replaced by their results; a backup is named by the suffix. -/
  inPlace : Option ByteText := none
  unbuffered : Bool := false
  delimiter : Char := '\n'
  listWidth : Nat := 70
  /-- Where faults of a script that show up late are located. -/
  scriptEnd : Location
  deriving Repr, Inhabited

/-- A text, and whether it ends a line. -/
structure Line where
  text : ByteText := []
  ends : Bool := true
  deriving DecidableEq, Repr, Inhabited

def Line.append (line : Line) (delimiter : Char) (other : Line) : Line :=
  ⟨line.text ++ delimiter :: other.text, other.ends⟩

inductive RangeState where
  | inactive
  /-- Up to a line, or to one with a match. -/
  | active (stop : Option Nat)
  /-- Over. A range that starts at a line by its number does not start again. -/
  | closed
  deriving DecidableEq, Repr, Inhabited

/-- What comes out in front of the next line. -/
inductive Appended where
  | text (text : ByteText)
  | file (name : ByteText)
  deriving DecidableEq, Repr, Inhabited

/-- The files that lines come from. -/
structure Input where
  waiting : List ByteText
  name : ByteText := ['-']
  /-- Where the file is that is edited in place. -/
  route : Option Route := none
  /-- Why the file cannot be read. -/
  fault : Option FileError := none
  lines : List ByteText := []
  isStdin : Bool := false
  /-- How much of the standard input was used, if it was. -/
  used : Option Nat := none
  deriving Repr, Inhabited

/-- Ends a run early. -/
structure Abort where
  status : Nat
  message : ByteText
  deriving DecidableEq, Repr, Inhabited

structure State where
  /-- The name that the editor was called by. -/
  name : String := "sed"
  input : Input
  disk : Disk
  stdin : ByteText
  /-- Why the standard input cannot be read. -/
  stdinProblem : Option FileError := none
  pattern : Line := {}
  hold : Line := {}
  lineNumber : Nat := 0
  replaced : Bool := false
  ranges : List (Nat × RangeState) := []
  /-- The last search, and whether it was that of an address. -/
  lastSearch : Option (Search × Bool) := none
  appended : List Appended := []
  /-- What is left of files that are read line by line. -/
  lineFiles : List (ByteText × List ByteText) := []
  /-- What was written so far, the last first. -/
  pieces : List Piece := []
  /-- The result of a file that is edited in place, the last part first. -/
  result : List ByteText := []
  files : List (ByteText × ByteText) := []
  /-- The targets whose last line is not complete. -/
  incomplete : List Target := []
  status : Nat := 0
  /-- Why there are no more lines, if that is a fault. -/
  failure : Option Abort := none
  deriving Inhabited

def State.complain (state : State) (message : ByteText) : State :=
  { state with
    pieces := ⟨true, ofString s!"{state.name}: " ++ message ++ ['\n']⟩ :: state.pieces }

def State.emit (state : State) (target : Target) (text : ByteText) : State :=
  match target with
  | .stdout => { state with pieces := ⟨false, text⟩ :: state.pieces }
  | .stderr => { state with pieces := ⟨true, text⟩ :: state.pieces }
  | .result =>
      if state.input.route.isSome then { state with result := text :: state.result }
      else { state with pieces := ⟨false, text⟩ :: state.pieces }
  | .file name =>
      let before := (state.files.lookup name).getD []
      { state with
        files := (name, before ++ text) :: state.files.filter fun file => file.1 != name }

def State.complete (state : State) (mode : RunMode) (target : Target) : State :=
  if state.incomplete.contains target then
    { state.emit target [mode.delimiter] with
      incomplete := state.incomplete.filter (· != target) }
  else state

def State.put (state : State) (mode : RunMode) (target : Target) (text : ByteText) : State :=
  (state.complete mode target).emit target text

def State.flush (state : State) : State :=
  let disk := state.files.foldl (fun (disk : Disk) (file : ByteText × ByteText) =>
    match disk.findOrCreate file.1 with
    | .ok (.file route _) => disk.put route file.2
    | _ => disk) state.disk
  { state with disk }

def State.writeLine (state : State) (mode : RunMode) (target : Target) (line : Line) : State :=
  let state := state.put mode target line.text
  let state :=
    if line.ends then state.emit target [mode.delimiter]
    else { state with incomplete := target :: state.incomplete }
  if mode.unbuffered then state.flush else state

/-- Writes a text that ends in a line feed, with the end of a line in its place. -/
def State.writeText (state : State) (mode : RunMode) (text : ByteText) : State :=
  if text.isEmpty then state.complete mode .result
  else state.put mode .result (text.dropLast ++ [mode.delimiter])

def readFault (name : ByteText) (reason : FileError) : Abort :=
  ⟨4, ofString "read error on " ++ name ++ ofString s!": {reason.reason}"⟩

/-- The text of a file, or nothing. The standard input is there once. A directory stops the run. -/
def State.takeFile (state : State) (rewinds : Bool) (name : ByteText) : ByteText × State :=
  match state.disk.find name with
  | .ok (.file _ bytes) => (ofBytes bytes, state)
  | .ok (.device .stdin) =>
      if rewinds then (state.stdin, state) else (state.stdin, { state with stdin := [] })
  | .ok (.device _) | .error _ => ([], state)
  | .ok _ => ([], { state with failure := some (readFault name .isDirectory) })

def State.writeAppended (state : State) (mode : RunMode) (rewinds : Bool) : State :=
  let written := state.appended.foldl (fun state appended =>
    match appended, state.failure with
    | _, some _ => state
    | .text text, none => state.put mode .result text
    | .file name, none =>
        let (text, state) := state.takeFile rewinds name
        state.put mode .result text) state
  { written with appended := [] }

/-- The name of the backup of a file; a star in the suffix stands for the name itself. -/
def backupName (suffix name : ByteText) : ByteText :=
  if suffix.contains '*' then suffix.flatMap fun c => if c = '*' then name else [c]
  else name ++ suffix

/-- Replaces a file that was edited in place by the result. -/
def State.closeFile (state : State) (mode : RunMode) : State :=
  match mode.inPlace, state.input.route with
  | some suffix, some route =>
      let name := backupName suffix (ofString (route.getLastD ""))
      let target : Except FileError Node :=
        if name.contains '/' then state.disk.findOrCreate name
        else .ok (.file (route.dropLast ++ [asString name]) [])
      let saved : Except FileError Disk :=
        if suffix.isEmpty then .ok state.disk
        else
          match target with
          | .ok (.file backup _) => .ok (state.disk.put backup (state.disk.textAt route))
          | .ok _ => .error .isDirectory
          | .error reason => .error reason
      let closed : State :=
        { state with
          result := []
          incomplete := state.incomplete.filter (· != .result)
          input := { state.input with route := none } }
      match saved with
      | .ok disk => { closed with disk := disk.put route state.result.reverse.flatten }
      | .error reason =>
          let message := ofString "cannot rename " ++ state.input.name ++
            ofString s!": {reason.reason}"
          { closed with failure := some ⟨4, message⟩ }
  | _, _ => state

def State.openFile (state : State) (mode : RunMode) (name : ByteText) : State :=
  let restart := fun (state : State) =>
    if mode.separate then
      { state with lineNumber := 0, ranges := [], lineFiles := [] }.complete mode .result
    else state
  let start := fun (text : ByteText) (route : Option Route) =>
    { restart state with
      input := { state.input with name, route, lines := recordsBy mode.delimiter text } }
  let useStdin := fun _ : Unit =>
    match state.stdinProblem with
    | some problem =>
        { state with input := { state.input with name := ofString "stdin", fault := some problem } }
    | none =>
        let state := start state.stdin none
        { state with stdin := [], input := { state.input with isStdin := true, used := some 0 } }
  if name = ['-'] ∧ mode.inPlace.isNone then useStdin ()
  else
    match state.disk.find name with
    | .error reason =>
        { state.complain (ofString "can't read " ++ name ++ ofString s!": {reason.reason}") with
          status := 2 }
    | .ok (.file route bytes) =>
        start (ofBytes bytes) (if mode.inPlace.isSome then some route else none)
    | .ok node =>
        if mode.inPlace.isSome then
          { state with
            failure := some
              ⟨4, ofString "couldn't edit " ++ name ++ ofString ": not a regular file"⟩ }
        else
          match node with
          | .device .stdin => useStdin ()
          | .device _ => start [] none
          | _ => { state with input := { state.input with name, fault := some .isDirectory } }

/-- Opens the next operand in the place of the current one. -/
def State.openNext (state : State) (mode : RunMode) (name : ByteText) (waiting : List ByteText) :
    State :=
  let state := state.closeFile mode
  { state with
    input := { state.input with waiting, isStdin := false, fault := none } }.openFile mode name

/-- Whether there is no line behind the current one. Operands without lines are passed over. -/
def atLastLine (mode : RunMode) : List ByteText → State → Bool × State
  | waiting, state =>
      if !state.input.lines.isEmpty then (false, state)
      else if mode.separate then (true, state)
      else
        match waiting with
        | [] => (true, { state with input := { state.input with fault := none } })
        | name :: waiting => atLastLine mode waiting (state.openNext mode name waiting)

def nextRecord (mode : RunMode) : List ByteText → State → Option ByteText × State
  | waiting, state =>
      if state.failure.isSome then (none, state)
      else
        match state.input.fault, state.input.lines with
        | some reason, _ =>
            (none, { state with failure := some (readFault state.input.name reason) })
        | none, record :: lines =>
            let used := if state.input.isStdin then state.input.used.map (· + record.length)
              else state.input.used
            (some record, { state with input := { state.input with lines, used } })
        | none, [] =>
            match waiting with
            | [] => (none, state.closeFile mode)
            | name :: waiting => nextRecord mode waiting (state.openNext mode name waiting)

/-- Reads a line into the pattern space, behind what is there if it is `added`. -/
def State.readLine (state : State) (mode : RunMode) (rewinds added : Bool) : Bool × State :=
  let state := { state.writeAppended mode rewinds with replaced := false }
  let (record, state) := nextRecord mode state.input.waiting state
  match record with
  | none => (false, state)
  | some record =>
      let line : Line :=
        ⟨contentBy mode.delimiter record, record.getLast? == some mode.delimiter⟩
      let pattern : Line :=
        if added then ⟨state.pattern.text ++ mode.delimiter :: line.text, line.ends⟩ else line
      (true, { state with pattern, lineNumber := state.lineNumber + 1 })

/-- The search that is meant, which is the last one if none is given. `groups` are those that a
replacement refers to. -/
def State.chooseSearch (state : State) (mode : RunMode) (search : Option Search)
    (groups : Option Nat) : Except Abort (Search × State) :=
  let abort := fun problem : ScriptError =>
    Except.error (⟨1, (Failure.script mode.scriptEnd problem).message⟩ : Abort)
  match search, state.lastSearch with
  | some search, _ =>
      .ok (search, { state with lastSearch := some (search, groups.isNone) })
  | none, none => abort .noSearchBefore
  | none, some (search, wasAddress) =>
      match groups with
      | some highest =>
          if wasAddress && search.pattern.groupCount < highest then
            abort (.unknownGroup highest)
          else .ok (search, { state with lastSearch := some (search, false) })
      | none => .ok (search, state)

/-- Whether an address is that of the current line. The one in front of all lines is that of the
first line, too. -/
def State.matchesAddress (state : State) (mode : RunMode) (address : Address) :
    Except Abort (Bool × State) := do
  match address with
  | .line number => .ok (state.lineNumber = max number 1, state)
  | .last => .ok (atLastLine mode state.input.waiting state)
  | .every first step =>
      .ok (first ≤ state.lineNumber ∧ (state.lineNumber - first) % step = 0, state)
  | .matching search =>
      let (search, state) ← state.chooseSearch mode search none
      .ok (search.pattern.isFoundIn search.mode state.pattern.text, state)

/-- How far a command is in its range. One that starts in front of all lines is in it from the
start. -/
def State.range (state : State) (place : Nat) (selector : Selector) : RangeState :=
  (state.ranges.lookup place).getD
    (if selector.first = some (.line 0) then .active none else .inactive)

def State.setRange (state : State) (place : Nat) (range : RangeState) : State :=
  { state with ranges := (place, range) :: state.ranges.filter fun known => known.1 != place }

/-- The range that starts at the current line. It may be over with that line. -/
def State.startRange (state : State) (mode : RunMode) (place : Nat) (stop : RangeEnd) : State :=
  let now := state.lineNumber
  let upTo := fun last : Nat =>
    state.setRange place (if last ≤ now then .closed else .active (some last))
  match stop with
  | .address (.line number) => upTo number
  | .address (.every first step) =>
      let isLast := first ≤ now ∧ (now - first) % step = 0
      state.setRange place (if isLast then .closed else .active none)
  | .address .last =>
      let (isLast, state) := atLastLine mode state.input.waiting state
      state.setRange place (if isLast then .closed else .active none)
  | .address (.matching _) => state.setRange place (.active none)
  | .further lines => upTo (now + lines)
  | .multiple of => if of = 0 then upTo now else upTo ((now / of + 1) * of)

/-- Whether a range starts at the current line. One that starts at a line by its number starts
behind that line if it was not there to be looked at, unless it would be over by then. -/
def State.startsRange (state : State) (mode : RunMode) (range : RangeState) (first : Address)
    (stop : RangeEnd) : Except Abort (Bool × State) :=
  match first, range, stop with
  | .line _, .closed, _ => .ok (false, state)
  | .line number, _, .address (.line last) =>
      .ok (state.lineNumber = number ∨ number < state.lineNumber ∧ state.lineNumber ≤ last, state)
  | .line number, _, _ => .ok (number ≤ state.lineNumber, state)
  | first, _, _ => state.matchesAddress mode first

def State.applies (state : State) (mode : RunMode) (place : Nat) (selector : Selector) :
    Except Abort (Bool × State) := do
  let (isIn, state) ←
    match selector.first with
    | none => Except.ok (true, state)
    | some first =>
        match state.range place selector, selector.second with
        | .active (some last), stop =>
            let isIn := state.lineNumber ≤ last || stop != some (.address (.line last))
            .ok (isIn, if last ≤ state.lineNumber then state.setRange place .closed else state)
        | .active none, some (.address stop) => do
            let (found, state) ← state.matchesAddress mode stop
            .ok (true, if found then state.setRange place .closed else state)
        | range, some stop => do
            let (found, state) ← state.startsRange mode range first stop
            .ok (found, if found then state.startRange mode place stop else state)
        | _, none => state.matchesAddress mode first
  .ok (isIn != selector.negated, state)

/-- The text that a replacement gives for a match. A change of the first letter that meets an empty
group waits for the next text. -/
def expand (groups : Nat → ByteText) : CaseChange → List ReplacementPart → ByteText
  | _, [] => []
  | waiting, part :: later =>
      let style : CaseStyle :=
        if part.style.first = .keep then { part.style with first := waiting } else part.style
      let rest := if part.text.isEmpty then style else { style with first := .keep }
      let text := style.apply part.text
      match part.group with
      | none => text ++ expand groups .keep later
      | some number =>
          let group := groups number
          if group.isEmpty then
            text ++ expand groups (if part.style.first = .keep then .keep else rest.first) later
          else text ++ rest.apply group ++ expand groups .keep later

/-- What is left to search, and what was done. -/
structure Progress where
  /-- What is in front of the rest, the nearest first. -/
  before : ByteText := []
  rest : ByteText
  /-- The new text, the last part first. -/
  written : List ByteText := []
  count : Nat := 0
  /-- Whether a match that was not empty ends here. -/
  behindMatch : Bool := false
  replaced : Bool := false
  /-- Whether an empty match was found at the end. -/
  ended : Bool := false
  deriving Repr, Inhabited

def Progress.step (progress : Progress) (substitution : Substitution) (search : Search) :
    Option Progress :=
  match search.pattern.find? search.mode progress.before progress.rest with
  | none => none
  | some (skipped, place) =>
      let start := progress.rest.drop skipped.length
      let found := start.take (start.length - place.rest.length)
      let isRepeat := found.isEmpty && skipped.isEmpty && progress.behindMatch
      let count := if isRepeat then progress.count else progress.count + 1
      let wanted := !isRepeat && substitution.occurrence ≤ count
      let groups := fun number =>
        if number = 0 then found else (place.groups.lookup number).getD []
      let text := if wanted then expand groups .keep substitution.parts else found
      let progress : Progress :=
        { before := place.before
          rest := place.rest
          written := text :: skipped :: progress.written
          count
          behindMatch := !found.isEmpty
          replaced := progress.replaced || wanted }
      if found.isEmpty then
        some { progress with
          before := (place.rest.take 1) ++ place.before
          rest := place.rest.drop 1
          written := place.rest.take 1 :: progress.written
          ended := place.rest.isEmpty }
      else some progress

/-- Replaces matches until all that are wanted are replaced. -/
def Progress.run (substitution : Substitution) (search : Search) : Nat → Progress → Progress
  | 0, progress => progress
  | fuel + 1, progress =>
      match progress.step substitution search with
      | none => progress
      | some next =>
          if (next.replaced && !substitution.global) || next.ended then next
          else Progress.run substitution search fuel next

def State.substitute (state : State) (mode : RunMode) (substitution : Substitution) :
    Except Abort State := do
  let (search, state) ←
    state.chooseSearch mode substitution.search (some substitution.highestGroup)
  let text := state.pattern.text
  let done := Progress.run substitution search (text.length + 2) { rest := text }
  if !done.replaced then .ok state
  else
    let text := done.written.reverse.flatten ++ done.rest
    let state := { state with pattern := { state.pattern with text }, replaced := true }
    let state := if substitution.print then state.writeLine mode .result state.pattern else state
    .ok (match substitution.target with
      | some target => state.writeLine mode target state.pattern
      | none => state)

def listed (c : Char) : ByteText :=
  if c = '\\' then ['\\', '\\'] else if isPrintable c then [c] else escapedByte c

/-- A text in columns of a width, without what ends the last one. -/
def listLines (delimiter : Char) (width : Nat) : Nat → ByteText → ByteText
  | _, [] => []
  | column, c :: rest =>
      let shown := listed c
      if width ≠ 0 ∧ width - 1 < column + shown.length then
        '\\' :: delimiter :: shown ++ listLines delimiter width shown.length rest
      else shown ++ listLines delimiter width (column + shown.length) rest

/-- What comes after a command. -/
inductive Next where
  | goto (place : Nat)
  /-- The next line, without printing. -/
  | newLine
  /-- The start of the script, without a new line. -/
  | again
  | quit (status : Nat)
  deriving DecidableEq, Repr, Inhabited

def State.printPattern (state : State) (mode : RunMode) : State :=
  if mode.quiet then state else state.writeLine mode .result state.pattern

def State.firstLine (state : State) (mode : RunMode) : Line :=
  if state.pattern.text.contains mode.delimiter then
    ⟨state.pattern.text.takeWhile (· != mode.delimiter), true⟩
  else state.pattern

def State.runLetter (state : State) (mode : RunMode) (rewinds : Bool) (place : Nat)
    (letter : Char) : Except Abort (Next × State) := do
  let next := Next.goto (place + 1)
  match letter with
  | '=' =>
      let number := Nat.toDigits 10 state.lineNumber
      .ok (next, state.put mode .result (number ++ [mode.delimiter]))
  | 'd' => .ok (.newLine, state)
  | 'D' =>
      if state.pattern.text.contains mode.delimiter then
        let text := (state.pattern.text.dropWhile (· != mode.delimiter)).tail
        .ok (.again, { state with pattern := { state.pattern with text } })
      else .ok (.newLine, state)
  | 'F' =>
      .ok (next, state.put mode .result (state.input.name ++ [mode.delimiter]))
  | 'g' => .ok (next, { state with pattern := state.hold })
  | 'G' => .ok (next, { state with pattern := state.pattern.append mode.delimiter state.hold })
  | 'h' => .ok (next, { state with hold := state.pattern })
  | 'H' => .ok (next, { state with hold := state.hold.append mode.delimiter state.pattern })
  | 'n' =>
      let (isLast, state) := atLastLine mode state.input.waiting state
      let state := state.printPattern mode
      if isLast then .ok (.newLine, state)
      else
        let (found, state) := state.readLine mode rewinds false
        .ok (if found then next else .newLine, state)
  | 'N' =>
      let (isLast, state) := atLastLine mode state.input.waiting state
      if isLast then .ok (.newLine, state.printPattern mode)
      else
        let (found, state) := state.readLine mode rewinds true
        .ok (if found then next else .newLine, state)
  | 'p' => .ok (next, state.writeLine mode .result state.pattern)
  | 'P' => .ok (next, state.writeLine mode .result (state.firstLine mode))
  | 'x' => .ok (next, { state with pattern := state.hold, hold := state.pattern })
  | 'z' => .ok (next, { state with pattern := { state.pattern with text := [] } })
  | letter => .error ⟨4, ofString "INTERNAL ERROR: Bad cmd " ++ [letter]⟩

def State.nextLineOf (state : State) (mode : RunMode) (name : ByteText) :
    Option ByteText × State :=
  let isStdin := match state.disk.find name with
    | .ok (.device .stdin) => true
    | _ => false
  if isStdin && state.input.isStdin then
    match state.input.lines with
    | [] => (none, state)
    | line :: lines => (some line, { state with input := { state.input with lines } })
  else if isStdin then
    match recordsBy mode.delimiter state.stdin with
    | [] => (none, state)
    | line :: _ => (some line, { state with stdin := state.stdin.drop line.length })
  else
    let (lines, state) := match state.lineFiles.lookup name with
      | some lines => (lines, state)
      | none =>
          let (text, state) := state.takeFile false name
          (recordsBy mode.delimiter text, state)
    let others := state.lineFiles.filter fun file => file.1 != name
    match lines with
    | [] => (none, { state with lineFiles := (name, []) :: others })
    | line :: lines => (some line, { state with lineFiles := (name, lines) :: others })

def State.orFailure (state : State) {α : Type} (result : α) : Except Abort α :=
  match state.failure with
  | some problem => .error problem
  | none => .ok result

def State.runAction (state : State) (script : Script) (mode : RunMode) (rewinds : Bool)
    (place : Nat) (command : Command) : Except Abort (Next × State) := do
  let next := Next.goto (place + 1)
  match command.action with
  | .nothing | .block _ => .ok (next, state)
  | .jump condition label =>
      let isTaken := match condition with
        | .always => true
        | .replaced => state.replaced
        | .notReplaced => !state.replaced
      let state := if condition = .always then state else { state with replaced := false }
      if isTaken then .ok (.goto ((script.labelPlace? label).getD script.commands.length), state)
      else .ok (next, state)
  | .substitute substitution => do .ok (next, ← state.substitute mode substitution)
  | .map pairs =>
      let text := state.pattern.text.map fun c => (pairs.lookup c).getD c
      .ok (next, { state with pattern := { state.pattern with text } })
  | .text .before text => .ok (next, state.writeText mode text)
  | .text .after text => .ok (next, { state with appended := state.appended ++ [.text text] })
  | .text .instead text =>
      let isInside := match state.range place command.selector with
        | .active _ => true
        | _ => false
      .ok (.newLine, if isInside then state else state.writeText mode text)
  | .stop prints status =>
      let state :=
        if prints then
          ((state.printPattern mode).complete mode .result).writeAppended mode rewinds
        else state
      .ok (.quit (status % 256), state)
  | .list width =>
      let width := width.getD mode.listWidth
      let text := listLines mode.delimiter width 0 state.pattern.text
      .ok (next, state.put mode .result (text ++ ['$', mode.delimiter]))
  | .readFile name =>
      if command.selector.first = some (.line 0) ∧ command.selector.second.isNone then
        let (text, state) := state.takeFile rewinds name
        state.orFailure (next, state.put mode .result text)
      else .ok (next, { state with appended := state.appended ++ [.file name] })
  | .readLine name =>
      let (line, state) := state.nextLineOf mode name
      state.orFailure (next, match line with
        | none => state
        | some line => { state with appended := state.appended ++ [.text line] })
  | .write firstLine target =>
      let line := if firstLine then state.firstLine mode else state.pattern
      .ok (next, state.writeLine mode target line)
  | .letter letter => state.runLetter mode rewinds place letter

/-- The most commands that are run. A script that does not end is cut off there. -/
def commandLimit : Nat := 20000000

/-- How a run ended. -/
structure Outcome where
  status : Nat
  state : State
  problem : Option Abort := none

/-- The end of a run with a status, unless an operand could not be read. -/
def State.finish (state : State) (status : Nat) : Outcome :=
  match state.failure with
  | some problem => { status := problem.status, state, problem }
  | none => { status := if state.status = 0 then status else state.status, state }

/-- Runs commands from a place on, and then from the start for every line. -/
def runFrom (script : Script) (commands : Array Command) (mode : RunMode) (rewinds : Bool) :
    Nat → Nat → State → Outcome
  | 0, _, state => { status := 0, state }
  | fuel + 1, place, state =>
      let (next, state) : Except Abort Next × State :=
        match commands[place]? with
        | none => (.ok .newLine, state.printPattern mode)
        | some command =>
            match state.applies mode place command.selector with
            | .error problem => (.error problem, state)
            | .ok (false, state) =>
                match command.action with
                | .block stop => (.ok (.goto stop), state)
                | _ => (.ok (.goto (place + 1)), state)
            | .ok (true, state) =>
                match state.runAction script mode rewinds place command with
                | .error problem => (.error problem, state)
                | .ok (next, state) => (.ok next, state)
      match next with
      | .error problem => { status := problem.status, state, problem := some problem }
      | .ok (.goto place) => runFrom script commands mode rewinds fuel place state
      | .ok .again => runFrom script commands mode rewinds fuel 0 state
      | .ok (.quit status) => (state.closeFile mode).finish status
      | .ok .newLine =>
          let (found, state) := state.readLine mode rewinds false
          if found then runFrom script commands mode rewinds fuel 0 state else state.finish 0

def run (script : Script) (mode : RunMode) (rewinds : Bool) (state : State) : Outcome :=
  let (found, state) := state.readLine mode rewinds false
  if found then runFrom script script.commands.toArray mode rewinds commandLimit 0 state
  else state.finish 0

end ConstructorAction.Tools.StreamEditor
