import ConstructorAction.Tools.Filters
import ConstructorAction.Tools.Shell.Builtin
import ConstructorAction.Tools.Shell.Globbing
import ConstructorAction.Tools.Shell.Grammar

namespace ConstructorAction.Tools.Shell

open ConstructorAction.Files

/-!
Running programs. Words are expanded and commands are run by functions that call each other,
because a word may hold commands. The stages of a pipeline are run one after the other: each is
done before the next one reads what it has written.
-/

/-- How a word is expanded. -/
structure ExpandMode where
  /-- Whether the word becomes fields, which may be patterns of file names. -/
  splits : Bool := false
  /-- Whether the word becomes a pattern. -/
  isPattern : Bool := false
  /-- Whether a home directory may stand here. -/
  atStart : Bool := false
  /-- Whether home directories may stand behind the sign of an assignment, and behind colons. -/
  inAssignment : Bool := false
  behindSign : Bool := false
  inQuotes : Bool := false
  /-- Whether the text itself may be cut into fields: it is the word of a reference. -/
  isLoose : Bool := false
  /-- Whether the result is not wanted. -/
  discards : Bool := false
  deriving DecidableEq, Repr, Inhabited

def ExpandMode.keepsQuotes (mode : ExpandMode) : Bool := mode.splits || mode.isPattern

/-- How a command is run. -/
structure RunFlags where
  /-- Whether a failure is looked at, so that it does not end the program. -/
  isTested : Bool := false
  /-- Whether the process ends with the command. -/
  isLast : Bool := false
  deriving DecidableEq, Repr, Inhabited

/-- What a name stands for in front of arguments. -/
inductive CommandKind where
  | function (body : Command)
  | builtin
  | program (name : String) (path : ByteText)
  /-- A file that is no program. -/
  | refused
  | missing
  deriving Inhabited

def defaultPath : ByteText :=
  ofString "/usr/local/sbin:/usr/local/bin:/usr/sbin:/usr/bin:/sbin:/bin"

def runnableAt (disk : Disk) (path : ByteText) : CommandKind :=
  match programAt? (asString path) with
  | some name => .program name path
  | none => if (disk.find path).toOption.isSome then .refused else .missing

/-- Looks for a program in directories; the last file that is no program counts if there is
none. -/
def searchPath (disk : Disk) (name : ByteText) : List ByteText → CommandKind → CommandKind
  | [], found => found
  | directory :: later, found =>
      let path := if directory.isEmpty then name else directory ++ '/' :: name
      match runnableAt disk path with
      | .missing => searchPath disk name later found
      | .refused => searchPath disk name later .refused
      | kind => kind

def directoriesOf (list : ByteText) : List ByteText :=
  (recordsBy ':' list).map (contentBy ':') ++
    (if list.isEmpty || list.getLast? == some ':' then [[]] else [])

namespace Session

def findProgram (session : Session) (name : ByteText) : CommandKind :=
  if name.isEmpty then .missing
  else if name.contains '/' then runnableAt session.disk name
  else
    match session.value? (ofString "PATH") with
    | some path => searchPath session.disk name (directoriesOf path) .missing
    | none => .missing

def resolve (session : Session) (skipsFunctions : Bool) (name : ByteText) : CommandKind :=
  if name.contains '/' then session.findProgram name
  else
    match session.process.functions.lookup name, skipsFunctions with
    | some body, false => .function body
    | _, _ => if isBuiltin name then .builtin else session.findProgram name

/-- The value of a parameter; those that stand for all parameters are joined. Where fields are
made, a NUL character separates them. -/
def parameterText? (session : Session) (name : ByteText) (isQuoted splits : Bool) :
    Option ByteText :=
  let process := session.process
  let all := fun separator : Option Char =>
    let between := separator.toList
    between.intercalate process.parameters
  match name with
  | ['$'] => some (Nat.toDigits 10 process.rootId)
  | ['?'] => some (Nat.toDigits 10 process.status)
  | ['#'] => some (Nat.toDigits 10 process.parameters.length)
  | ['!'] => process.lastBackground.map (Nat.toDigits 10 ·)
  | ['-'] => some (optionLetters process.options)
  | ['@'] | ['*'] =>
      let isSet := session.separators
      if name = ['@'] ∧ isQuoted ∧ splits then some (all (some '\x00'))
      else if splits ∧ !isQuoted then
        some (all (some (if isSet.isSome then '\x00' else ' ')))
      else
        match isSet with
        | some separators => some (all separators.head?)
        | none => some (all (some ' '))
  | name =>
      if name.all Char.isDigit then
        let number := valueInBase 10 name
        if number = 0 then some process.name else process.parameters[number - 1]?
      else session.value? name

end Session

/-- The directory that a `~` stands for, with or without a name behind it, and what follows. -/
def homeOf? (session : Session) (mode : ExpandMode) (parts : List Part) :
    Option (ByteText × List Part) :=
  let ends := fun part : Part =>
    match part with
    | .char '/' => true
    | .char ':' => mode.inAssignment
    | _ => false
  let name := parts.takeWhile fun part => !ends part
  let isPlain := name.all fun part =>
    match part with
    | .char _ => true
    | _ => false
  if !isPlain then none
  else
    let home := match (plainText? name).getD [] with
      | [] => session.value? (ofString "HOME")
      | name => if name = ofString "root" then some (ofString "/root") else none
    home.map (·, parts.drop name.length)

/-- Adds the text of an expansion. What has a meaning in patterns is marked between quotes. -/
def Expansion.addText (expansion : Expansion) (mode : ExpandMode) (keepsNul : Bool)
    (text : ByteText) : Expansion :=
  let text := if keepsNul then text else text.filter (· != '\x00')
  expansion.addAll (text.map fun c =>
    if mode.keepsQuotes && mode.inQuotes && (mutedChars.contains c || c == '\\') then .quoted c
    else .char c)

def withoutFinalFeeds (text : ByteText) : ByteText :=
  (text.reverse.dropWhile (· == '\n')).reverse

def Exec.attempt {α : Type} (action : Exec α) : Exec (Except Interrupt α) := fun session =>
  match action session with
  | .ok value session => .ok (.ok value) session
  | .error interrupt session => .ok (.error interrupt) session

def Exec.reconnect (descriptors : List Nat) (before : List (Nat × Nat)) : Exec Unit :=
  modify fun session => descriptors.foldl (fun session descriptor =>
    session.connect descriptor (before.lookup descriptor)) session

def Exec.endsLoop : Exec Bool := do
  let process ← Exec.process
  match process.skip with
  | .none => return false
  | .return_ => return true
  | skip =>
      if process.skipCount ≤ 1 then
        Exec.modifyProcess fun process => { process with skip := .none, skipCount := 0 }
        return skip == .break_
      else
        Exec.modifyProcess fun process =>
          { process with skipCount := process.skipCount - 1 }
        return true

def Exec.popFrames (depth : Nat) : Nat → Exec Unit
  | 0 => return
  | fuel + 1 => do
      if depth < (← Exec.process).frames.length then
        Exec.popFrame
        popFrames depth fuel

/-- What a program complains about whose output could not be written, and its status. -/
def lostOutput (name : String) (reason : FileError) : Nat × List String :=
  match name, reason with
  | "sed", .closed => (4, ["couldn't close stdout: Bad file descriptor"])
  | "sed", reason => (4, [s!"couldn't flush stdout: {reason.reason}"])
  | "sort", reason =>
      (2, [s!"fflush failed: 'standard output': {reason.reason}", "write error"])
  | _, reason => (1, [s!"write error: {reason.reason}"])

/-- Runs a text filter on the descriptors of the process. -/
def runFilter (name : String) (filter : Invocation → Filtered) (word : ByteText)
    (arguments : List ByteText) : Exec Nat := do
  let session ← get
  let (stdin, rewinds) := session.readable 0
  let problem := session.writeProblem? 1
  let done := filter
    { name := asString word
      arguments
      stdin
      stdinProblem := session.readProblem? 0
      hasStdout := problem != some .closed
      rewinds
      disk := session.disk }
  let session := match done.rest with
    | some rest => session.leaveRest 0 rest
    | none => session
  let tree := match done.disk with
    | some disk => disk.tree
    | none => session.tree
  set { session with tree }
  let isLost := !done.stdout.isEmpty ||
    (name == "sed" && problem == some .closed && done.status != 1)
  match problem, isLost with
  | some reason, true =>
      let (status, complaints) := lostOutput name reason
      let _ ← Exec.write 2 done.stderr
      for complaint in complaints do
        let _ ← Exec.write 2 (word ++ ofString s!": {complaint}\n")
      return status
  | _, _ =>
      for piece in done.pieces do
        let _ ← Exec.write (if piece.isError then 2 else 1) piece.text
      return done.status

/-- The text that `command` and `type` show for a name, and whether there is anything. -/
def describe (session : Session) (isBrief : Bool) (name : ByteText) : Option ByteText :=
  let process := session.process
  let is := fun text : String => name ++ ofString s!" is {text}"
  let brief := fun long : ByteText => some ((if isBrief then name else long) ++ ['\n'])
  if (keywords.map (·.1)).contains (String.ofList name) then brief (is "a shell keyword")
  else
    match process.aliases.lookup name with
    | some value =>
        some (if isBrief then ofString "alias " ++ aliasLine name value
          else is "an alias for " ++ value ++ ['\n'])
    | none =>
        match session.resolve false name with
        | .function _ => brief (is "a shell function")
        | .builtin =>
            brief (is (if isSpecialCommand name then "a special shell builtin"
              else "a shell builtin"))
        | .program _ path =>
            let isTracked := process.hashed.contains name && !name.contains '/'
            some (if isBrief then path ++ ['\n']
              else is (if isTracked then "a tracked alias for " else "") ++ path ++ ['\n'])
        | .refused | .missing => none

def callLimit : Nat := 1000

def Process.child (process : Process) (id : Nat) : Process :=
  { process with
    id
    traps := process.traps.filter fun entry => entry.2.isEmpty && entry.1 != 0
    finished := []
    savedStatus := none }

/-- A stage of a pipeline, and the pipes in front of it and behind it. -/
structure Stage where
  command : Command
  input : Option Nat := none
  output : Option Nat := none
  deriving Inhabited

mutual

/-- Expands the parts of a word behind what was expanded before. `quotes` tells whether quotes
are open in the word itself. -/
def expandParts : Nat → ExpandMode → Bool → List Part → Expansion → Exec Expansion
  | 0, _, _, _, _ => throw .exhausted
  | fuel + 1, mode, quotes, parts, out => do
      match mode.atStart, parts with
      | true, .char '~' :: rest =>
          let mode := { mode with atStart := false }
          match homeOf? (← get) mode rest with
          | some (home, rest) =>
              let out := if mode.discards then out
                else out.addText { mode with inQuotes := true } false home
              expandParts fuel mode quotes rest out
          | none => do
              let out := if mode.discards then out
                else if mode.isLoose && !mode.inQuotes && !quotes then out.addLoose '~'
                else out.add (.char '~')
              expandParts fuel mode quotes rest out
      | _, parts =>
          let mode := { mode with atStart := false }
          let inner := { mode with inQuotes := mode.inQuotes || quotes }
          match parts with
          | [] => return out
          | .char c :: rest =>
              let out := if mode.discards then out
                else if mode.isLoose && !mode.inQuotes && !quotes then out.addLoose c
                else out.add (.char c)
              let isSign := mode.inAssignment && c == '=' && !mode.behindSign
              let isColon := mode.inAssignment && c == ':'
              let mode :=
                { mode with
                  behindSign := mode.behindSign || isSign
                  atStart := isSign || isColon }
              expandParts fuel mode quotes rest out
          | .quoted c :: rest =>
              let out := if mode.discards then out
                else out.add (if mode.keepsQuotes then .quoted c else .char c)
              expandParts fuel mode quotes rest out
          | .mark :: .parameter reference [] :: .mark :: rest =>
              if !quotes && reference.name == ['@'] && reference.use == .value then
                let out ← expandParameter fuel { mode with inQuotes := true } reference [] out
                expandParts fuel mode quotes rest out
              else
                let out := if mode.keepsQuotes && !mode.discards then out.add .mark else out
                expandParts fuel mode (!quotes) (.parameter reference [] :: .mark :: rest) out
          | .mark :: rest =>
              let out := if mode.keepsQuotes && !mode.discards then out.add .mark else out
              expandParts fuel mode (!quotes) rest out
          | .parameter reference word :: rest =>
              let out ← expandParameter fuel inner reference word out
              expandParts fuel mode quotes rest out
          | .output program :: rest =>
              let out ← if mode.discards then pure out else do
                let start := out.size
                let text ← outputOf fuel program
                let out := out.addText inner false (withoutFinalFeeds (text.filter (· != '\x00')))
                pure (if inner.inQuotes then out else out.region start false)
              expandParts fuel mode quotes rest out
          | .arithmetic expression :: rest =>
              let start := out.size
              let text ← expandParts fuel { discards := mode.discards } false expression {}
              let out ← if mode.discards then pure out else do
                let value ← evaluateArithmetic text.text
                let out := out.addText inner false (decimal value)
                pure (if inner.inQuotes then out else out.region start false)
              expandParts fuel mode quotes rest out

def expandParameter : Nat → ExpandMode → ParameterReference → Word → Expansion → Exec Expansion
  | 0, _, _, _, _ => throw .exhausted
  | fuel + 1, mode, reference, word, out => do
      let session ← get
      let start := out.size
      let finish := fun out : Expansion =>
        if mode.inQuotes then
          if reference.name = ['@'] ∧ !session.process.parameters.isEmpty then
            out.region start true
          else out
        else out.region start false
      if reference.use = .invalid ∧ !mode.discards then Exec.fault (ofString "Bad substitution")
      let value := session.parameterText? reference.name mode.inQuotes mode.splits
      let isMissing := match value with
        | some text => reference.emptyIsMissing && text.isEmpty
        | none => true
      let complain := fun {α : Type} (text : ByteText) =>
        (Exec.fault (reference.name ++ ofString ": " ++ text) : Exec α)
      let refuseMissing : Exec Unit := do
        if isMissing && !mode.discards && session.hasOption 'u' then
          complain (ofString "parameter not set")
      let valueOut := if mode.discards then out else out.addText mode true (value.getD [])
      let wordMode : ExpandMode := { mode with atStart := true, isLoose := true }
      match reference.use with
      | .invalid => return out
      | .otherwise =>
          if isMissing then expandParts fuel wordMode false word out
          else
            let _ ← expandParts fuel { wordMode with discards := true } false word {}
            return if mode.discards then out else finish valueOut
      | .instead =>
          if isMissing then
            let _ ← expandParts fuel { wordMode with discards := true } false word {}
            return if mode.discards then out else finish out
          else expandParts fuel wordMode false word out
      | .assigned =>
          if !isMissing || mode.discards then
            return if mode.discards then out else finish valueOut
          else
            let text ← expandParts fuel { atStart := true } false word {}
            requireName reference.name
            Exec.assign reference.name text.text
            expandParameter fuel mode { reference with use := .value, emptyIsMissing := false } []
              out
      | .required =>
          if !isMissing || mode.discards then
            return if mode.discards then out else finish valueOut
          else
            let text ← expandParts fuel { atStart := true } false word {}
            if word.isEmpty then
              complain (ofString ("parameter not set" ++
                if reference.emptyIsMissing then " or null" else ""))
            else complain text.text
      | .length =>
          refuseMissing
          if mode.discards then return out
          else
            let count := (value.getD []).length
            return finish (out.addText mode false (Nat.toDigits 10 count))
      | .value =>
          refuseMissing
          return if mode.discards then out else if isMissing then finish out else finish valueOut
      | .trimmed atEnd longest =>
          refuseMissing
          if isMissing || mode.discards then return out
          else
            let cells := valueOut.since start
            let items ← expandParts fuel { isPattern := true, atStart := true } false word {}
            let items := pattern (patternText items.cells.toList)
            let kept := match trimPlace? items atEnd longest (textOf cells) with
              | some place => if atEnd then cells.take place else cells.drop place
              | none => cells
            return finish (out.addAll kept)

/-- Evaluates an arithmetic expression, and sets what it assigns. -/
def evaluateArithmetic (text : ByteText) : Exec Int := do
  let session ← get
  match calculate session.value? text with
  | .ok (value, assigned) =>
      for (name, value) in assigned do
        Exec.assign name (decimal value)
      return value
  | .error (.expression reason) =>
      Exec.fault (ofString s!"arithmetic expression: {reason}: \"" ++ text ++ ['"'])
  | .error (.value text) => Exec.badNumber text

/-- The fields of a word: cut, compared with file names and without quotes. -/
def expandFields : Nat → Word → Exec (List ByteText)
  | 0, _ => throw .exhausted
  | fuel + 1, word => do
      let out ← expandParts fuel { splits := true, atStart := true } false word {}
      let session ← get
      let separators := session.separators.getD standardSeparators
      return (cutFields separators none out).flatMap fun field =>
        if session.hasOption 'f' then [textOf field]
        else
          match globPaths session.disk (patternText field) with
          | [] => [textOf field]
          | paths => paths

def expandText : Nat → ExpandMode → Word → Exec ByteText
  | 0, _, _ => throw .exhausted
  | fuel + 1, mode, word => do
      let out ← expandParts fuel mode false word {}
      return out.text.filter (· != '\x00')

/-- The output of a program, as it becomes part of a word. -/
def outputOf : Nat → Option Command → Exec ByteText
  | 0, _ => throw .exhausted
  | _ + 1, none => return []
  | fuel + 1, some program => do
      let (number, session) := (← get).addChannel (.pipe [])
      set session
      let status ← runSubshell fuel (do
        modify fun session => session.connect 1 (some number)
        evaluate fuel program { isLast := true })
      Exec.modifyProcess fun process => { process with outputStatus := status }
      match (← get).channels.lookup number with
      | some (.pipe text) =>
          modify fun session => { session with
            channels := session.channels.filter fun entry => entry.1 != number }
          return text
      | _ => return []

/-- Fields of words up to the first word that gives any, and the words behind it. -/
def expandFirst : Nat → List Word → Exec (List ByteText × List Word)
  | 0, _ => throw .exhausted
  | _ + 1, [] => return ([], [])
  | fuel + 1, word :: later => do
      match ← expandFields fuel word with
      | [] => expandFirst fuel later
      | fields => return (fields, later)

/-- Fields of words. Words that look like assignments are not cut if `keepsAssignments`. -/
def expandWords : Nat → Bool → List Word → Exec (List ByteText)
  | 0, _, _ => throw .exhausted
  | _ + 1, _, [] => return []
  | fuel + 1, keepsAssignments, word :: later => do
      let fields ← if keepsAssignments && (assignedName? word).isSome then do
          pure [← expandText fuel { inAssignment := true } word]
        else expandFields fuel word
      return fields ++ (← expandWords fuel keepsAssignments later)

/-- A redirection with its words expanded: what is to be connected, and with what. -/
def expandRedirections : Nat → List Redirection → Exec (List (Nat × RedirectionKind × ByteText))
  | 0, _ => throw .exhausted
  | _ + 1, [] => return []
  | fuel + 1, .mk descriptor kind word :: later => do
      let expanded ← match kind with
        | .file _ => do pure (descriptor, kind, ← expandText fuel { atStart := true } word)
        | .document _ _ => pure (descriptor, kind, [])
        | .duplicate (some source) =>
            pure (descriptor, RedirectionKind.duplicate (some source), [])
        | .duplicate none => do
            match ← expandFields fuel word with
            | [] => Exec.fault (ofString "redir error")
            | text :: _ =>
                match duplicateSource (text.map .char) with
                | some source =>
                    pure (descriptor, RedirectionKind.duplicate (some source), [])
                | none => do
                    Exec.modifyProcess fun process => { process with line := process.lineRead }
                    Exec.fault (ofString "Syntax error: Bad fd number")
      return expanded :: (← expandRedirections fuel later)

def redirect : Nat → Nat → RedirectionKind → ByteText → Exec Unit
  | 0, _, _, _ => throw .exhausted
  | fuel + 1, descriptor, kind, path => do
      let session ← get
      match kind with
      | .file mode =>
          match session.openPath mode (session.hasOption 'C') path with
          | .ok (number, session) => set (session.connect descriptor (some number))
          | .error problem => Exec.fault problem
      | .duplicate (some (some source)) =>
          match session.process.descriptors.lookup source with
          | some number => set (session.connect descriptor (some number))
          | none => Exec.fault (Nat.toDigits 10 source ++ ofString ": Bad file descriptor")
      | .duplicate _ => set (session.connect descriptor none)
      | .document number expands =>
          let document := (session.documents.lookup number).getD []
          let text ← if expands then do
              pure (← expandParts fuel { inQuotes := true } false document {}).text
            else pure (textOf (document.map fun part =>
              match part with
              | .char c | .quoted c => .char c
              | _ => .mark))
          let (number, session) := (← get).addChannel (.pipe text)
          set (session.connect descriptor (some number))

/-- Connects descriptors one after the other. A failure is complained about; the status says
whether there was one. -/
def redirectAll : Nat → List (Nat × RedirectionKind × ByteText) → Exec Nat
  | 0, _ => throw .exhausted
  | _ + 1, [] => return 0
  | fuel + 1, (descriptor, kind, path) :: later => do
      match ← Exec.attempt (redirect fuel descriptor kind path) with
      | .ok _ => redirectAll fuel later
      | .error .fault => return 2
      | .error interrupt => throw interrupt

def noticeSignals : Nat → Exec Unit
  | 0 => throw .exhausted
  | fuel + 1 => do
      let session ← get
      let id := session.process.id
      match session.signals.find? fun entry => entry.1 == id with
      | none => return
      | some (target, signal) =>
          let trap := session.process.traps.lookup signal
          let isCaught := trap.isSome && signal != 9 && signal != 19
          if isCaught && session.process.skip != .none then return
          else
            set { session with signals := session.signals.erase (target, signal) }
            match isCaught, trap with
            | true, some action =>
                if !action.isEmpty then
                  let before ← Exec.process
                  let status := before.savedStatus.getD before.status
                  Exec.modifyProcess fun process => { process with savedStatus := some status }
                  let _ ← runText fuel action {}
                  Exec.modifyProcess fun process =>
                    { process with
                      savedStatus := before.savedStatus
                      status := if process.skip = .return_ then process.status else status }
                noticeSignals fuel
            | _, _ => if isHarmless signal then noticeSignals fuel else throw (.killed signal)

/-- Ends the process: the last trap is run. Gives the status, or the signal that ended it. -/
def endProcess : Nat → Interrupt → Exec (Except Nat Nat)
  | 0, _ => throw .exhausted
  | fuel + 1, interrupt => do
      match interrupt with
      | .killed signal => return .error signal
      | .exhausted => return .error 13
      | _ =>
          let process ← Exec.process
          let status := match interrupt with
            | .leave => process.savedStatus.getD process.status
            | _ => process.status
          match process.traps.lookup 0 with
          | none => return .ok (status % 256)
          | some action =>
              Exec.modifyProcess fun process =>
                { process with
                  traps := process.traps.filter fun entry => entry.1 != 0
                  savedStatus := some status
                  status
                  skip := .none
                  loopDepth := 0
                  command := none }
              match ← Exec.attempt (runText fuel action {}) with
              | .error (.killed signal) => return .error signal
              | _ => return .ok (((← Exec.process).savedStatus.getD status) % 256)

/-- Runs commands in a process of their own. Gives the status, or the signal that ended it. -/
def runChild : Nat → Process → Exec Nat → Exec (Except Nat Nat)
  | 0, _, _ => throw .exhausted
  | fuel + 1, child, action => do
      let around := (← get).process
      modify fun session =>
        { session with process := child, alive := child.id :: session.alive }
      let result ← Exec.attempt action
      let ended ← Exec.attempt (do
        match result with
        | .ok status => do
            Exec.modifyProcess fun process => { process with status }
            endProcess fuel .fault
        | .error interrupt => endProcess fuel interrupt)
      modify fun session =>
        { session with
          process := around
          alive := session.alive.filter (· != child.id)
          signals := session.signals.filter fun entry => entry.1 != child.id }
      match ended with
      | .ok ended => return ended
      | .error _ => return .error 13

/-- Waits for a process: its status, with a word about a signal that ended it. -/
def waitFor (ended : Except Nat Nat) : Exec Nat := do
  match ended with
  | .ok status => return status
  | .error signal =>
      match endingWords signal with
      | some words => do
          let _ ← Exec.write 2 (ofString s!"{words}\n")
      | none => pure ()
      return 128 + signal

def runSubshell : Nat → Exec Nat → Exec Nat
  | 0, _ => throw .exhausted
  | fuel + 1, action => do
      let session ← get
      let id := session.nextId
      set { session with nextId := id + 1 }
      waitFor (← runChild fuel (session.process.child id) action)

def runStages : Nat → List Stage → Exec Nat
  | 0, _ => throw .exhausted
  | _ + 1, [] => return 0
  | fuel + 1, stage :: later => do
      let status ← runSubshell fuel (do
        match stage.input with
        | some number => modify fun session => session.connect 0 (some number)
        | none => pure ()
        match stage.output with
        | some number => modify fun session => session.connect 1 (some number)
        | none => pure ()
        evaluate fuel stage.command { isLast := true })
      if later.isEmpty then return status else runStages fuel later

/-- Runs commands in the background, which means now, without an input. -/
def runBackground : Nat → Exec Nat → Exec Nat
  | 0, _ => throw .exhausted
  | fuel + 1, action => do
      let session ← get
      let id := session.nextId
      let (number, session) := { session with nextId := id + 1 }.addChannel .nowhere
      set session
      let ended ← runChild fuel (session.process.child id) (do
        modify fun session => session.connect 0 (some number)
        action)
      let status := match ended with
        | .ok status => status
        | .error signal => 128 + signal
      Exec.modifyProcess fun process =>
        { process with
          lastBackground := some id
          finished := (id, status) :: process.finished }
      return 0

def runLines : Nat → Reading → RunFlags → Nat → Exec Nat
  | 0, _, _, _ => throw .exhausted
  | fuel + 1, reading, flags, status => do
      let session ← get
      let reading :=
        { reading with
          aliases := session.process.aliases
          nextDocument := session.nextDocument }
      match readLine reading with
      | .error fault => do
          Exec.modifyProcess fun process => { process with line := fault.line }
          Exec.fault (ofString fault.reason)
      | .ok (none, _) => return status
      | .ok (some line, reading) =>
          modify fun session =>
            { session with
              documents := reading.documents ++ session.documents
              nextDocument := reading.nextDocument }
          let reading := { reading with documents := [] }
          match line.command with
          | none => runLines fuel reading flags status
          | some command =>
              Exec.modifyProcess fun process => { process with lineRead := reading.line }
              let status ← evaluate fuel command
                { flags with isLast := flags.isLast && line.isLast }
              if (← Exec.process).skip = .none then runLines fuel reading flags status
              else return status

def runText : Nat → ByteText → RunFlags → Exec Nat
  | 0, _, _ => throw .exhausted
  | fuel + 1, text, flags => runLines fuel { source := sourceOf text } flags 0

def runFile : Nat → ByteText → Exec Nat
  | 0, _ => throw .exhausted
  | fuel + 1, name => do
      let session ← get
      let isProgram := fun path : ByteText =>
        match session.disk.find path with
        | .ok (.file _ _) => true
        | _ => false
      let directories := directoriesOf ((session.value? (ofString "PATH")).getD [])
      let candidates := directories.map fun directory =>
        if directory.isEmpty then name else directory ++ '/' :: name
      let found := if name.contains '/' then some name else candidates.find? isProgram
      match found with
      | none => Exec.fault (name ++ ofString ": not found")
      | some path =>
          match session.openPath .read false path with
          | .error problem => Exec.fault problem
          | .ok (number, opened) =>
              let source := (opened.connect 0 (some number)).readable 0
              Exec.modifyProcess fun process => { process with command := some path }
              let status ← runText fuel source.1 {}
              Exec.modifyProcess fun process =>
                if process.skip = .return_ then { process with skip := .none } else process
              return status

def evaluate : Nat → Command → RunFlags → Exec Nat
  | 0, _, _ => throw .exhausted
  | fuel + 1, command, flags => do
      if (← get).hasOption 'n' then return (← Exec.process).status
      noticeSignals fuel
      let tested : RunFlags := { isTested := true }
      let inner : RunFlags := { isTested := flags.isTested }
      let settle := fun status : Nat => do
        Exec.modifyProcess fun process => { process with status }
        return status
      let checked := fun status : Nat => do
        let _ ← settle status
        if status ≠ 0 ∧ !flags.isTested ∧ (← get).hasOption 'e' then throw .leave
      match command with
      | .simple line assignments words redirections =>
          checked (← runSimple fuel line assignments words redirections flags)
      | .pipeline stages inBackground =>
          let count := stages.length
          let pipes ← stages.mapM fun _ => do
            let (number, session) := (← get).addChannel (.pipe [])
            set session
            return number
          let run := runStages fuel (stages.zipIdx.map fun (command, place) =>
            { command
              input := if place = 0 then none else pipes[place - 1]?
              output := if place + 1 = count then none else pipes[place]? })
          checked (← if inBackground then runBackground fuel run else run)
      | .subshell line body redirections =>
          Exec.modifyProcess fun process => { process with line }
          let expanded ← expandRedirections fuel redirections
          checked (← runSubshell fuel (do
            let status ← redirectAll fuel expanded
            if status ≠ 0 then return status
            else
              match body with
              | some body => evaluate fuel body { flags with isLast := true }
              | none => return 0))
      | .background line body redirections =>
          Exec.modifyProcess fun process => { process with line }
          let expanded ← expandRedirections fuel redirections
          checked (← runBackground fuel (do
            let status ← redirectAll fuel expanded
            if status ≠ 0 then return status else evaluate fuel body { isLast := true }))
      | .redirected line body redirections =>
          Exec.modifyProcess fun process => { process with line }
          let expanded ← expandRedirections fuel redirections
          let before := (← Exec.process).descriptors
          let result ← Exec.attempt (do
            let status ← redirectAll fuel expanded
            if status ≠ 0 then return status else evaluate fuel body inner)
          Exec.reconnect (expanded.map (·.1)) before
          match result with
          | .ok status => let _ ← settle status
          | .error interrupt => throw interrupt
      | .negated body =>
          let status ← evaluate fuel body tested
          let _ ← settle (if status = 0 then 1 else 0)
      | .both first second =>
          let status ← evaluate fuel first tested
          if status = 0 ∧ (← Exec.process).skip = .none then
            let _ ← settle (← evaluate fuel second flags)
      | .either first second =>
          let status ← evaluate fuel first tested
          if status ≠ 0 ∧ (← Exec.process).skip = .none then
            let _ ← settle (← evaluate fuel second flags)
      | .sequence first second =>
          let _ ← evaluate fuel first inner
          if (← Exec.process).skip = .none then
            let _ ← settle (← evaluate fuel second flags)
      | .branch condition body otherwise =>
          let status ← match condition with
            | some condition => evaluate fuel condition tested
            | none => pure 0
          if (← Exec.process).skip = .none then
            match if status = 0 then body else otherwise with
            | some chosen => let _ ← settle (← evaluate fuel chosen flags)
            | none => let _ ← settle 0
      | .loop kind condition body =>
          Exec.modifyProcess fun process => { process with loopDepth := process.loopDepth + 1 }
          let status ← runLoop fuel kind condition body inner 0
          Exec.modifyProcess fun process => { process with loopDepth := process.loopDepth - 1 }
          let _ ← settle status
      | .forEach line name words body =>
          Exec.modifyProcess fun process => { process with line }
          let fields ← expandWords fuel false words
          Exec.modifyProcess fun process => { process with loopDepth := process.loopDepth + 1 }
          let status ← runForEach fuel name fields body inner 0
          Exec.modifyProcess fun process => { process with loopDepth := process.loopDepth - 1 }
          let _ ← settle status
      | .choose line subject choices =>
          Exec.modifyProcess fun process => { process with line }
          let text ← expandText fuel { atStart := true } subject
          let _ ← settle (← runChoice fuel text choices flags)
      | .define _ name body =>
          Exec.modifyProcess fun process =>
            let others := process.functions.filter fun entry => entry.1 != name
            { process with functions := (name, body) :: others }
          let _ ← settle 0
      noticeSignals fuel
      if flags.isLast then throw .leave
      return (← Exec.process).status

def runLoop : Nat → LoopKind → Option Command → Option Command → RunFlags → Nat → Exec Nat
  | 0, _, _, _, _, _ => throw .exhausted
  | fuel + 1, kind, condition, body, flags, status => do
      let tested ← match condition with
        | some condition => evaluate fuel condition { isTested := true }
        | none => pure 0
      let isReturn := (← Exec.process).skip == .return_
      let skips := (← Exec.process).skip != .none
      if skips then
        if ← Exec.endsLoop then return if isReturn then tested else status
        else runLoop fuel kind condition body flags status
      else if (tested = 0) == (kind == .while_) then
        let status ← match body with
          | some body => evaluate fuel body flags
          | none => pure 0
        if ← Exec.endsLoop then return status
        else runLoop fuel kind condition body flags status
      else return status

def runForEach : Nat → ByteText → List ByteText → Option Command → RunFlags → Nat → Exec Nat
  | 0, _, _, _, _, _ => throw .exhausted
  | _ + 1, _, [], _, _, status => return status
  | fuel + 1, name, text :: later, body, flags, _ => do
      Exec.assign name text
      let status ← match body with
        | some body => evaluate fuel body flags
        | none => pure 0
      if ← Exec.endsLoop then return status else runForEach fuel name later body flags status

def runChoice : Nat → ByteText → List (List Word × Option Command) → RunFlags → Exec Nat
  | 0, _, _, _ => throw .exhausted
  | _ + 1, _, [], _ => return 0
  | fuel + 1, text, (patterns, body) :: later, flags => do
      if ← matchesAny fuel text patterns then
        match body with
        | some body => evaluate fuel body flags
        | none => return 0
      else runChoice fuel text later flags

/-- Whether one of the patterns matches. Those behind it are not expanded. -/
def matchesAny : Nat → ByteText → List Word → Exec Bool
  | 0, _, _ => throw .exhausted
  | _ + 1, _, [] => return false
  | fuel + 1, text, word :: later => do
      let out ← expandParts fuel { isPattern := true, atStart := true } false word {}
      if isMatch (pattern (patternText out.cells.toList)) text then return true
      else matchesAny fuel text later

/-- Passes over the options of `command`, which stand at a place among the fields. Gives the place
of the word behind them, unless `command` itself is to be run. -/
def commandOperand : Nat → List ByteText → List Word → Nat →
    Exec (Option Nat × List ByteText × List Word)
  | 0, _, _, _ => throw .exhausted
  | fuel + 1, fields, later, place => do
      let filled := fun place : Nat => do
        if place < fields.length then return (fields, later)
        else
          let (more, later) ← expandFirst fuel later
          return (fields ++ more, later)
      let (fields, later) ← filled place
      match fields[place]? with
      | none => return (none, fields, later)
      | some ['-', '-'] =>
          let (fields, later) ← filled (place + 1)
          return (if place + 1 < fields.length then some (place + 1) else none, fields, later)
      | some ('-' :: letter :: letters) =>
          if (letter :: letters).all (· == 'p') then commandOperand fuel fields later (place + 1)
          else return (none, fields, later)
      | some _ => return (some place, fields, later)

/-- Passes over `command` as often as it stands in front of a command. Gives the place of the word
that is run, the fields and the words behind them. -/
def skipCommand : Nat → List ByteText → List Word → Nat → Exec (Nat × List ByteText × List Word)
  | 0, _, _, _ => throw .exhausted
  | fuel + 1, fields, later, place => do
      let name := (fields[place]?).getD []
      let isFunction := place = 0 && ((← Exec.process).functions.lookup name).isSome
      if name != ofString "command" || isFunction then return (place, fields, later)
      else
        match ← commandOperand fuel fields later (place + 1) with
        | (some next, fields, later) => skipCommand fuel fields later next
        | (none, fields, later) => return (place, fields, later)

/-- Sets the variables in front of a command. They are kept until the end of the command if
`isLocal`. Gives the assignments as texts. -/
def runAssignments : Nat → List Word → Bool → Bool → Exec (List ByteText)
  | 0, _, _, _ => throw .exhausted
  | _ + 1, [], _, _ => return []
  | fuel + 1, word :: later, isLocal, exports => do
      let text ← expandText fuel { inAssignment := true } word
      let (name, value) := splitAssignment text
      if isLocal then
        Exec.keepLocally name
        Exec.setVariable name value true false
      else Exec.setVariable name value exports false
      return text :: (← runAssignments fuel later isLocal exports)

/-- Shows a command in front of its run, at the place of complaints before its redirections. -/
def traceCommand : Nat → List ByteText → Option Nat → Exec Unit
  | 0, _, _ => throw .exhausted
  | fuel + 1, words, target => do
      let session ← get
      let start := (session.value? (ofString "PS4")).getD (ofString "+ ")
      let context : WordContext := { document := some (['\x00'], false) }
      let level : Level := { mode := .doubleQuoted, isQuoted := true }
      let parts := match readChars (start.length * 4 + 64) context { top := level }
          (start.head?) false { source := sourceOf start.tail } with
        | .ok ((draft, _), _) => draft.parts.reverse
        | .error _ => start.map .char
      Exec.modifyProcess fun process =>
        { process with options := process.options.filter (· != 'x') }
      let shown ← expandParts fuel { inQuotes := true } false parts {}
      Exec.modifyProcess fun process => { process with options := 'x' :: process.options }
      let line := shown.text ++ ([' '] : ByteText).intercalate words ++ ['\n']
      let current := (← Exec.process).descriptors.lookup 2
      modify fun session => session.connect 2 target
      let _ ← Exec.write 2 line
      modify fun session => session.connect 2 current

def runSimple : Nat → Nat → List Word → List Word → List Redirection → RunFlags → Exec Nat
  | 0, _, _, _, _, _ => throw .exhausted
  | fuel + 1, line, assignments, words, redirections, flags => do
      Exec.modifyProcess fun process => { process with line, outputStatus := 0 }
      let (first, later) ← expandFirst fuel words
      let (place, first, later) ← skipCommand fuel first later 0
      let isPlain := place == 0
      let name := (first[place]?).getD []
      let isBuiltinName := place < first.length &&
        match (← get).resolve (!isPlain) name with
        | .builtin => true
        | _ => false
      let isSpecial := isBuiltinName && isPlain && isSpecialCommand name
      let keepsAssignments := isBuiltinName &&
        ["export", "readonly", "local", "alias"].contains (String.ofList name)
      let fields := first ++ (← expandWords fuel keepsAssignments later)
      let arguments := fields.drop place
      let runsExec := isBuiltinName && name == ofString "exec"
      let isLocal := !arguments.isEmpty && !isSpecial
      let depth := (← Exec.process).frames.length
      if isLocal then Exec.pushFrame
      let expanded ← expandRedirections fuel redirections
      let before := (← Exec.process).descriptors
      let result ← Exec.attempt (do
        let status ← redirectAll fuel expanded
        if status ≠ 0 then
          Exec.modifyProcess fun process => { process with status }
          if isSpecial then throw .fault else return (false, status)
        else
          let assigned ← runAssignments fuel assignments isLocal
            (runsExec && 1 < arguments.length)
          if (← get).hasOption 'x' then
            traceCommand fuel (assigned ++ fields) (before.lookup 2)
          return (runsExec, ← runResolved fuel arguments (!isPlain) isSpecial flags))
      match result with
      | .ok (keepsDescriptors, status) => do
          if !keepsDescriptors then Exec.reconnect (expanded.map (·.1)) before
          Exec.popFrames depth (← Exec.process).frames.length
          return status
      | .error interrupt => do
          Exec.reconnect (expanded.map (·.1)) before
          throw interrupt

def runResolved : Nat → List ByteText → Bool → Bool → RunFlags → Exec Nat
  | 0, _, _, _, _ => throw .exhausted
  | fuel + 1, words, skipsFunctions, isSpecial, flags => do
      let session ← get
      match words with
      | [] => return session.process.outputStatus
      | name :: arguments =>
          match session.resolve skipsFunctions name with
          | .missing => do
              Exec.complain (name ++ ofString ": not found")
              return 127
          | .refused => do
              Exec.complain (name ++ ofString ": Permission denied")
              return if name.contains '/' then 126 else 127
          | .function body => callFunction fuel body arguments flags
          | .program program _ =>
              Exec.modifyProcess fun process =>
                if process.hashed.contains name || name.contains '/' then process
                else { process with hashed := process.hashed ++ [name] }
              runProgram fuel program name arguments
                (flags.isLast && session.process.traps.all fun entry => entry.2.isEmpty)
          | .builtin => do
              let before := session.process.command
              Exec.modifyProcess fun process => { process with command := some name }
              let result ← Exec.attempt (do
                let reply ← runBuiltin fuel name arguments flags
                if reply.output.isEmpty || (← Exec.write 1 reply.output) then
                  return reply.status
                else
                  Exec.complain (name ++ ofString ": I/O error")
                  return (if reply.status % 2 = 0 then reply.status + 1 else reply.status))
              Exec.modifyProcess fun process => { process with command := before }
              match result with
              | .ok status =>
                  Exec.modifyProcess fun process => { process with status }
                  return status
              | .error .fault =>
                  if isSpecial then throw .fault else return (← Exec.process).status
              | .error interrupt => throw interrupt

def callFunction : Nat → Command → List ByteText → RunFlags → Exec Nat
  | 0, _, _, _ => throw .exhausted
  | fuel + 1, body, arguments, flags => do
      let around ← Exec.process
      if callLimit ≤ around.callDepth then
        Exec.fault (ofString s!"Maximum function recursion depth ({callLimit}) reached")
      Exec.modifyProcess fun process =>
        { process with
          parameters := arguments
          optionProgress := {}
          loopDepth := 0
          callDepth := process.callDepth + 1 }
      let result ← Exec.attempt (evaluate fuel body { isTested := flags.isTested })
      Exec.modifyProcess fun process =>
        { process with
          parameters := around.parameters
          optionProgress := around.optionProgress
          loopDepth := around.loopDepth
          callDepth := around.callDepth
          skip := if process.skip = .return_ then .none else process.skip }
      match result with
      | .ok status => return status
      | .error interrupt => throw interrupt

/-- Runs a program. The process gives its place to it if `replaces`. -/
def runProgram : Nat → String → ByteText → List ByteText → Bool → Exec Nat
  | 0, _, _, _, _ => throw .exhausted
  | fuel + 1, program, word, arguments, replaces => do
      match filter? program with
      | some filter => runFilter program filter word arguments
      | none =>
          let ended ← startInterpreter fuel word arguments
          match ended, replaces with
          | .error signal, true => throw (.killed signal)
          | ended, _ => waitFor ended

def runBuiltin : Nat → ByteText → List ByteText → RunFlags → Exec Reply
  | 0, _, _, _ => throw .exhausted
  | fuel + 1, name, arguments, flags => do
      match builtin? name with
      | some builtin =>
          let reply ← builtin arguments
          if name = ofString "kill" then
            let session ← get
            let id := session.process.id
            let deadly := session.signals.find? fun entry =>
              entry.1 == id && (entry.2 == 9 || (!isHarmless entry.2 &&
                (session.process.traps.lookup entry.2).isNone))
            match deadly with
            | some (_, signal) => throw (.killed signal)
            | none => return reply
          else return reply
      | none =>
          match String.ofList name with
          | "eval" =>
              if arguments.isEmpty then return {}
              else
                let text := ([' '] : ByteText).intercalate arguments
                return { status := ← runText fuel text { isTested := flags.isTested } }
          | "." =>
              match ← flagsOf "" arguments with
              | (_, []) => return {}
              | (_, file :: _) => return { status := ← runFile fuel file }
          | "exec" =>
              match arguments with
              | [] => return {}
              | word :: arguments => do
                  let session ← get
                  let status ← match session.findProgram word with
                    | .program program _ => runProgram fuel program word arguments true
                    | .refused => do
                        Exec.complain (word ++ ofString ": Permission denied")
                        pure 126
                    | _ => do
                        Exec.complain (word ++ ofString ": not found")
                        pure 127
                  Exec.modifyProcess fun process =>
                    { process with
                      status
                      traps := match session.findProgram word with
                        | .program _ _ => []
                        | _ => process.traps }
                  throw .leave
          | "command" =>
              let (given, operands) ← flagsOf "pvV" arguments
              let isBrief := given.any fun option => option.1 == 'v'
              let isVerbose := given.any fun option => option.1 == 'V'
              match operands, isBrief || isVerbose with
              | operand :: _, true =>
                  match describe (← get) isBrief operand with
                  | some output => return { output }
                  | none =>
                      return { status := 127, output := if isBrief then []
                        else operand ++ ofString ": not found\n" }
              | _, _ => return {}
          | "type" =>
              let session ← get
              let lines := arguments.map fun operand =>
                (describe session false operand).getD (operand ++ ofString ": not found\n")
              let isKnown := arguments.all fun operand => (describe session false operand).isSome
              return { status := if isKnown then 0 else 127, output := lines.flatten }
          | _ => do
              let (given, operands) ← flagsOf "r" arguments
              if !given.isEmpty then
                Exec.modifyProcess fun process => { process with hashed := [] }
                return {}
              else if operands.isEmpty then
                let session ← get
                return { output := (tableOrder 31 session.process.hashed).flatMap fun name =>
                  match session.findProgram name with
                  | .program _ path => path ++ ['\n']
                  | _ => [] }
              else
                operands.foldlM (fun reply operand => do
                  match (← get).resolve false operand with
                  | .missing | .refused => do
                      Exec.complain (operand ++ ofString ": not found")
                      return { reply with status := 1 }
                  | .program _ _ => do
                      Exec.modifyProcess fun process =>
                        if process.hashed.contains operand then process
                        else { process with hashed := process.hashed ++ [operand] }
                      return reply
                  | _ => return reply) ({} : Reply)

/-- Starts an interpreter as a process of its own: with exported variables alone. -/
def startInterpreter : Nat → ByteText → List ByteText → Exec (Except Nat Nat)
  | 0, _, _ => throw .exhausted
  | fuel + 1, word, arguments => do
      let session ← get
      let id := session.nextId
      set { session with nextId := id + 1 }
      let around := session.process
      let inherited := around.bindings.filter fun entry =>
        entry.2.isExported && entry.2.value.isSome
      let own : List (ByteText × Variable) :=
        [(ofString "IFS", { value := some standardSeparators }),
         (ofString "OPTIND", { value := some ['1'] }),
         (ofString "PS1", { value := some (ofString "# ") }),
         (ofString "PS2", { value := some (ofString "> ") }),
         (ofString "PS4", { value := some (ofString "+ ") }),
         (ofString "PATH", { value := some defaultPath }),
         (ofString "PPID", { value := some (Nat.toDigits 10 around.id) })]
      let fixed := own.filter fun entry =>
        entry.1 == ofString "IFS" || entry.1 == ofString "OPTIND" ||
          entry.1 == ofString "PPID" || (inherited.lookup entry.1).isNone
      let kept := inherited.filter fun entry => (fixed.lookup entry.1).isNone
      let process : Process :=
        { name := word
          bindings := fixed ++ kept
          descriptors := around.descriptors
          traps := around.traps.filter fun entry => entry.2.isEmpty && entry.1 != 0
          here := around.here
          mask := around.mask
          id
          rootId := id }
      runChild fuel process (runInterpreter fuel arguments)

/-- Runs an interpreter by its arguments: a program that is given, a file or the standard
input. -/
def runInterpreter : Nat → List ByteText → Exec Nat
  | 0, _ => throw .exhausted
  | fuel + 1, arguments => do
      let (hasProgram, operands) ← startOptions fuel arguments false
      let standsIn := (← get).hasOption 's' || (operands.isEmpty && !hasProgram)
      match hasProgram, operands with
      | true, [] => Exec.fault (ofString "-c requires an argument")
      | true, program :: later =>
          match later with
          | name :: parameters =>
              Exec.modifyProcess fun process => { process with name, parameters }
          | [] => pure ()
          let status ← runText fuel program { isLast := !(← get).hasOption 's' }
          if (← get).hasOption 's' then runStandardInput fuel else return status
      | false, operands =>
          if standsIn then
            Exec.modifyProcess fun process => { process with parameters := operands }
            runStandardInput fuel
          else
            match operands with
            | [] => return 0
            | file :: parameters =>
                let session ← get
                match session.openPath .read false file with
                | .error problem => Exec.fault problem
                | .ok (number, opened) =>
                    let (text, _) := (opened.connect 0 (some number)).readable 0
                    Exec.modifyProcess fun process => { process with name := file, parameters }
                    runText fuel text {}

/-- Runs the standard input as a program. All of it is read at the start. -/
def runStandardInput : Nat → Exec Nat
  | 0 => throw .exhausted
  | fuel + 1 => do
      let session ← get
      let (text, _) := session.readable 0
      set (session.leaveRest 0 [])
      runText fuel text {}

/-- Reads the options that an interpreter is started with; `c` says that a program is given. -/
def startOptions : Nat → List ByteText → Bool → Exec (Bool × List ByteText)
  | 0, _, _ => throw .exhausted
  | fuel + 1, arguments, hasProgram => do
      match arguments with
      | ('-' :: letters) :: later =>
          if letters.isEmpty ∨ letters = ['-'] then return (hasProgram, later)
          else
            let others := letters.filter fun c => c != 'c' && c != 'l'
            let hasProgram := hasProgram || letters.contains 'c'
            if others.isEmpty then startOptions fuel later hasProgram
            else
              let later ← applyStartOptions fuel '-' others later
              startOptions fuel later hasProgram
      | ('+' :: letters) :: later =>
          let later ← applyStartOptions fuel '+' letters later
          startOptions fuel later hasProgram
      | arguments => return (hasProgram, arguments)

def applyStartOptions : Nat → Char → ByteText → List ByteText → Exec (List ByteText)
  | 0, _, _, _ => throw .exhausted
  | _ + 1, sign, letters, later => do
      let takes := letters.contains 'o' && !later.isEmpty
      let (listed, _, _) ← readShellOptions true 1
        ((sign :: letters) :: (if takes then later.take 1 else [])) []
      let _ ← Exec.write 1 listed
      return if takes then later.drop 1 else later

end

end ConstructorAction.Tools.Shell
