import ConstructorAction.Tools.Shell.Condition
import ConstructorAction.Tools.Shell.Fields
import ConstructorAction.Tools.Shell.Formatted
import ConstructorAction.Tools.Shell.Session
import ConstructorAction.Tools.Shell.Signal

namespace ConstructorAction.Tools.Shell

open ConstructorAction.Files

/-!
The commands that are part of the interpreter and run no other commands. Each gives a status and
the text it writes, which comes out when the command is done.
-/

/-- What a command gives: its status and its output. -/
structure Reply where
  status : Nat := 0
  output : ByteText := []
  deriving DecidableEq, Repr, Inhabited

/-- Reads options that stand in front of operands, each with its value; a colon in `form` marks
those that have one. -/
def readFlags (form : String) : Nat → List ByteText → List (Char × ByteText) →
    Exec (List (Char × ByteText) × List ByteText)
  | 0, arguments, given => return (given.reverse, arguments)
  | fuel + 1, arguments, given => do
      match arguments with
      | ['-', '-'] :: later => return (given.reverse, later)
      | ('-' :: letter :: rest) :: later =>
          let letters := form.toList
          let takesValue := (letters.dropWhile (· != letter))[1]? == some ':'
          if letter = ':' ∨ !letters.contains letter then
            Exec.fault (ofString "Illegal option -" ++ [letter])
          else if takesValue then
            if rest.isEmpty then
              match later with
              | value :: later => readFlags form fuel later ((letter, value) :: given)
              | [] => Exec.fault (ofString "No arg for -" ++ letter :: ofString " option")
            else readFlags form fuel later ((letter, rest) :: given)
          else
            let arguments := if rest.isEmpty then later else ('-' :: rest) :: later
            readFlags form fuel arguments ((letter, []) :: given)
      | arguments => return (given.reverse, arguments)

def flagsOf (form : String) (arguments : List ByteText) :
    Exec (List (Char × ByteText) × List ByteText) :=
  readFlags form (arguments.flatten.length + arguments.length + 1) arguments []

def countOf (text : ByteText) : Exec Nat := do
  match number? false text with
  | some value =>
      if 0 ≤ value ∧ value ≤ 2147483647 then return value.toNat else Exec.badNumber text
  | none => Exec.badNumber text

/-- Splits a text into pieces with single quotes and pieces without. -/
def quotedPieces : Nat → ByteText → ByteText
  | 0, _ => []
  | fuel + 1, text =>
      let plain := text.takeWhile (· != '\'')
      let rest := text.drop plain.length
      let written := '\'' :: plain ++ ['\'']
      if rest.isEmpty then written
      else
        let quotes := rest.takeWhile (· == '\'')
        let after := rest.drop quotes.length
        let quoted := written ++ '"' :: quotes ++ ['"']
        if after.isEmpty then quoted else quoted ++ quotedPieces fuel after

def inQuotes (text : ByteText) : ByteText := quotedPieces (text.length + 1) text

/-- Names in the order of a table that is filled by their characters. -/
def tableOrder (size : Nat) (names : List ByteText) : List ByteText :=
  let place := fun name : ByteText =>
    let start := (name.headD '\x00').toNat * 16
    name.foldl (fun total c => total + c.toNat) start % 32768 % size
  (List.range size).flatMap fun slot => names.filter fun name => place name == slot

def requireName (name : ByteText) : Exec Unit := do
  if isName name then return else Exec.fault (name ++ ofString ": bad variable name")

def variableLines (session : Session) (start : ByteText) (wanted : Variable → Bool) : ByteText :=
  let chosen := session.process.bindings.filter fun entry => wanted entry.2
  let sorted := chosen.mergeSort fun first second => !isBefore second.1 first.1
  sorted.flatMap fun (name, variable_) =>
    let value := match variable_.value with
      | some value => '=' :: inQuotes value
      | none => []
    (if start.isEmpty then [] else start ++ [' ']) ++ name ++ value ++ ['\n']

def markVariables (command : String) (isExported isReadOnly : Bool) (arguments : List ByteText) :
    Exec Reply := do
  let (given, names) ← flagsOf "p" arguments
  if !given.isEmpty || names.isEmpty then
    return { output := variableLines (← get) (ofString command) fun variable_ =>
      if isExported then variable_.isExported else variable_.isReadOnly }
  else
    for argument in names do
      let (name, value) := splitAssignment argument
      let session ← get
      match value, session.findVariable name with
      | none, some variable_ =>
          set (session.setVariable name (some
            { variable_ with
              isExported := variable_.isExported || isExported
              isReadOnly := variable_.isReadOnly || isReadOnly }))
      | value, _ =>
          requireName name
          Exec.setVariable name value isExported isReadOnly
    return {}

def unsetAll (arguments : List ByteText) : Exec Reply := do
  let (given, names) ← flagsOf "vf" arguments
  let functions := given.getLast?.any fun option => option.1 == 'f'
  for name in names do
    if functions then
      Exec.modifyProcess fun process =>
        { process with functions := process.functions.filter fun entry => entry.1 != name }
    else
      requireName name
      Exec.unset name
  return {}

def declareLocals (arguments : List ByteText) : Exec Reply := do
  if (← Exec.process).frames.isEmpty then Exec.fault (ofString "not in a function")
  else
    for argument in arguments do
      if argument = ['-'] then
        Exec.modifyProcess fun process =>
          match process.frames with
          | frame :: frames =>
              let options := frame.options.getD process.options
              { process with frames := { frame with options := some options } :: frames }
          | [] => process
      else
        let (name, value) := splitAssignment argument
        requireName name
        Exec.keepLocally name
        match value with
        | some value => Exec.assign name value
        | none =>
            if ((← get).findVariable name).isNone then Exec.setVariable name none false false
    return {}

/-- Names of options with their letters, in the order of lists. -/
def shellOptions : List (String × Option Char) :=
  [("errexit", some 'e'), ("noglob", some 'f'), ("ignoreeof", some 'I'),
   ("interactive", some 'i'), ("monitor", some 'm'), ("noexec", some 'n'), ("stdin", some 's'),
   ("xtrace", some 'x'), ("verbose", some 'v'), ("vi", some 'V'), ("emacs", some 'E'),
   ("noclobber", some 'C'), ("allexport", some 'a'), ("notify", some 'b'),
   ("nounset", some 'u'), ("privileged", some 'p'), ("nolog", none), ("debug", none)]

/-- The letters of the options that are on, the last of the list first. -/
def optionLetters (options : List Char) : ByteText :=
  shellOptions.reverse.filterMap fun entry => entry.2.filter options.contains

def setOption (letter : Char) (isOn : Bool) : Exec Unit :=
  Exec.modifyProcess fun process =>
    let others := process.options.filter (· != letter)
    { process with options := if isOn then letter :: others else others }

/-- Options by letter behind a sign, or by name behind `o`. Gives the options listed by `o` alone,
and what is left. -/
def readShellOptions (isStart : Bool) : Nat → List ByteText → ByteText →
    Exec (ByteText × List ByteText × Bool)
  | 0, arguments, listed => return (listed, arguments, false)
  | fuel + 1, arguments, listed => do
      match arguments with
      | ['-'] :: later =>
          if !isStart then
            setOption 'x' false
            setOption 'v' false
          return (listed, later, false)
      | ['-', '-'] :: later => return (listed, later, true)
      | (sign :: letters) :: later =>
          if sign != '-' && sign != '+' then return (listed, arguments, false)
          else
            let isOn := sign == '-'
            let (listed, later) ← letters.foldlM (fun (listed, later) letter => do
              if letter = 'o' then
                match later with
                | [] =>
                    let options := (← Exec.process).options
                    let line := fun entry : String × Option Char =>
                      let isOn := entry.2.any options.contains
                      if sign == '-' then
                        let blanks := String.ofList (List.replicate (16 - entry.1.length) ' ')
                        ofString (entry.1 ++ blanks ++ (if isOn then "on" else "off") ++ "\n")
                      else ofString ((if isOn then "set -o " else "set +o ") ++ entry.1 ++ "\n")
                    let head := if isOn then ofString "Current option settings\n" else []
                    return (listed ++ head ++ shellOptions.flatMap line, later)
                | name :: later =>
                    match shellOptions.find? fun entry => entry.1.toList == name with
                    | some (_, letter) =>
                        match letter with
                        | some letter => setOption letter isOn
                        | none => pure ()
                        return (listed, later)
                    | none => Exec.fault (ofString "Illegal option -o " ++ name)
              else if shellOptions.any fun entry => entry.2 == some letter then
                setOption letter isOn
                return (listed, later)
              else Exec.fault (ofString "Illegal option -" ++ [letter])) (listed, later)
            readShellOptions isStart fuel later listed
      | arguments => return (listed, arguments, false)

def setParameters (parameters : List ByteText) : Exec Unit :=
  Exec.modifyProcess fun process => { process with parameters, optionProgress := {} }

def setCommand (arguments : List ByteText) : Exec Reply := do
  if arguments.isEmpty then
    return { output := variableLines (← get) [] fun variable_ => variable_.value.isSome }
  else
    let (output, rest, isReset) ← readShellOptions false (arguments.length + 1) arguments []
    if isReset || !rest.isEmpty then setParameters rest
    return { output }

def shiftCommand (arguments : List ByteText) : Exec Reply := do
  let count ← match arguments with
    | [] => pure 1
    | count :: _ => countOf count
  let parameters := (← Exec.process).parameters
  if parameters.length < count then Exec.fault (ofString "can't shift that many")
  else
    setParameters (parameters.drop count)
    return {}

/-- Reads the next option among parameters into a variable. -/
def nextOption (form variable_ : ByteText) (arguments : List ByteText) : Exec Nat := do
  let process ← Exec.process
  let progress := process.optionProgress
  let progress := if arguments.length + 1 < progress.next then {} else progress
  let current := arguments[progress.next - 2]?
  let inside := match progress.offset, current with
    | some offset, some word => if 1 < progress.next then word.drop offset else []
    | _, _ => []
  let isQuiet := form.head? = some ':'
  let letters := if isQuiet then form.tail else form
  let finish := fun (next : Nat) (offset : Option Nat) (c : Char) (status : Nat) => do
    Exec.assign (ofString "OPTIND") (Nat.toDigits 10 next)
    Exec.modifyProcess fun process => { process with optionProgress := ⟨next, offset⟩ }
    requireName variable_
    Exec.assign variable_ [c]
    return status
  let read := fun (word text : ByteText) (next : Nat) => do
    match text with
    | [] => finish next none '?' 1
    | c :: rest =>
        let offset := if rest.isEmpty then none else some (word.length - rest.length)
        let place := letters.dropWhile (· != c)
        if c = ':' ∨ place.isEmpty then
          if isQuiet then Exec.assign (ofString "OPTARG") [c]
          else
            let _ ← Exec.write 2 (ofString "Illegal option -" ++ [c, '\n'])
            Exec.unset (ofString "OPTARG")
          finish next (some (word.length - rest.length)) '?' 0
        else if place[1]? = some ':' then
          match rest, arguments[next - 1]? with
          | [], none =>
              if isQuiet then
                Exec.assign (ofString "OPTARG") [c]
                finish next offset ':' 0
              else
                let _ ← Exec.write 2 (ofString "No arg for -" ++ c :: ofString " option\n")
                Exec.unset (ofString "OPTARG")
                finish next offset '?' 0
          | [], some value =>
              Exec.assign (ofString "OPTARG") value
              finish (next + 1) none c 0
          | rest, _ =>
              Exec.assign (ofString "OPTARG") rest
              finish next none c 0
        else
          Exec.assign (ofString "OPTARG") []
          finish next (some (word.length - rest.length)) c 0
  if !inside.isEmpty then read (current.getD []) inside progress.next
  else
    match arguments[progress.next - 1]? with
    | some ['-', '-'] => finish (progress.next + 1) none '?' 1
    | some ('-' :: c :: rest) => read ('-' :: c :: rest) (c :: rest) (progress.next + 1)
    | _ => finish progress.next none '?' 1

def optionsCommand (arguments : List ByteText) : Exec Reply := do
  match arguments with
  | form :: variable_ :: given =>
      let parameters := (← Exec.process).parameters
      let words := if given.isEmpty then parameters else given
      return { status := ← nextOption form variable_ words }
  | _ => Exec.fault (ofString "Usage: getopts optstring var [arg...]")

/-- A line as it is read: with marks on what stood behind a backslash. -/
structure InputLine where
  expansion : Expansion := {}
  rest : ByteText := []
  isComplete : Bool := false
  deriving Inhabited

/-- Reads up to the end of a line. A backslash joins lines, and keeps a separator in its field. -/
def readInputLine (isRaw : Bool) : Nat → ByteText → Expansion → InputLine
  | 0, rest, expansion => ⟨expansion, rest, false⟩
  | _ + 1, [], expansion => ⟨expansion, [], false⟩
  | fuel + 1, c :: rest, expansion =>
      if c = '\x00' then readInputLine isRaw fuel rest expansion
      else if c = '\n' then ⟨expansion, rest, true⟩
      else if c = '\\' ∧ !isRaw then
        match rest.dropWhile (· == '\x00') with
        | [] => ⟨expansion, [], false⟩
        | '\n' :: rest => readInputLine isRaw fuel rest expansion
        | c :: rest => readInputLine isRaw fuel rest (expansion.add (.quoted c))
      else readInputLine isRaw fuel rest (expansion.addLoose c)

/-- Gives variables the fields of a line; the last one takes what is left. -/
def inputCommand (arguments : List ByteText) : Exec Reply := do
  let (given, names) ← flagsOf "p:r" arguments
  if names.isEmpty then Exec.fault (ofString "arg count")
  else
    let session ← get
    let isRaw := given.any fun option => option.1 == 'r'
    let (text, _) := session.readable 0
    let line := readInputLine isRaw (text.length + 1) text {}
    set (session.leaveRest 0 line.rest)
    let separators := session.separators.getD standardSeparators
    let fields := (cutFields separators (some names.length) line.expansion).map textOf
    for (name, place) in names.zipIdx do
      requireName name
      Exec.assign name ((fields[place]?).getD [])
    return { status := if line.isComplete then 0 else 1 }

def aliasLine (name value : ByteText) : ByteText := name ++ '=' :: inQuotes value ++ ['\n']

def aliasCommand (arguments : List ByteText) : Exec Reply := do
  let aliases := (← Exec.process).aliases
  if arguments.isEmpty then
    return { output := (tableOrder 39 (aliases.map (·.1))).flatMap fun name =>
      aliasLine name ((aliases.lookup name).getD []) }
  else
    arguments.foldlM (fun reply argument => do
      let aliases := (← Exec.process).aliases
      let name := argument.take 1 ++ (argument.drop 1).takeWhile (· != '=')
      match argument.drop name.length with
      | _ :: value =>
          let aliases :=
            if (aliases.lookup name).isSome then
              aliases.map fun entry => if entry.1 = name then (name, value) else entry
            else aliases ++ [(name, value)]
          Exec.modifyProcess fun process => { process with aliases }
          return reply
      | [] =>
          match aliases.lookup name with
          | some value => return { reply with output := reply.output ++ aliasLine name value }
          | none =>
              let _ ← Exec.write 2 (ofString "alias: " ++ name ++ ofString " not found\n")
              return { reply with status := 1 }) ({} : Reply)

def unaliasCommand (arguments : List ByteText) : Exec Reply := do
  let (given, names) ← flagsOf "a" arguments
  if !given.isEmpty then
    Exec.modifyProcess fun process => { process with aliases := [] }
    return {}
  else
    names.foldlM (fun reply name => do
      let aliases := (← Exec.process).aliases
      if (aliases.lookup name).isSome then
        Exec.modifyProcess fun process =>
          { process with aliases := aliases.filter fun entry => entry.1 != name }
        return reply
      else
        let _ ← Exec.write 2 (ofString "unalias: " ++ name ++ ofString " not found\n")
        return { reply with status := 1 }) ({} : Reply)

/-- The path of a directory for the variable that holds it. -/
def pathOf (before path : ByteText) : ByteText :=
  let start := if path.head? = some '/' then [] else Tree.parts (asString before)
  let parts := (start ++ Tree.parts (asString path)).foldl (fun parts part =>
    if part = "" ∨ part = "." then parts
    else if part = ".." then parts.dropLast
    else parts ++ [part]) []
  ofString ("/" ++ String.intercalate "/" parts)

def changeDirectory (arguments : List ByteText) : Exec Reply := do
  let (_, operands) ← flagsOf "LP" arguments
  let session ← get
  let current := (session.value? (ofString "PWD")).getD []
  let (target, shows) := match operands with
    | [] => (session.value? (ofString "HOME"), false)
    | ['-'] :: _ => (session.value? (ofString "OLDPWD"), true)
    | target :: _ => (some target, false)
  let target := target.getD []
  let path := if target.isEmpty then ['.'] else target
  match session.disk.find path with
  | .ok (.file _ _) | .ok (.device _) | .error _ =>
      Exec.fault (ofString "can't cd to " ++ target)
  | .ok node =>
      let place := pathOf current path
      Exec.modifyProcess fun process => { process with here := node }
      Exec.assign (ofString "OLDPWD") current
      Exec.assign (ofString "PWD") place
      return { output := if shows then place ++ ['\n'] else [] }

def trapCommand (arguments : List ByteText) : Exec Reply := do
  let (_, operands) ← flagsOf "" arguments
  let traps := (← Exec.process).traps
  match operands with
  | [] =>
      return { output := (List.range signalNames.length).flatMap fun number =>
        match traps.lookup number with
        | some action =>
            ofString "trap -- " ++ inQuotes action ++ ' ' :: signalName number ++ ['\n']
        | none => [] }
  | first :: later =>
      let (action, names) :=
        if later.isEmpty || (!first.isEmpty && first.all Char.isDigit &&
            (signal? 0 first).isSome) then (none, operands)
        else if first = ['-'] then (none, later)
        else (some first, later)
      names.foldlM (fun reply name => do
        if reply.status ≠ 0 then return reply
        else
          match signal? 0 name with
          | none =>
              let _ ← Exec.write 2 (ofString "trap: " ++ name ++ ofString ": bad trap\n")
              return { reply with status := 1 }
          | some number =>
              Exec.modifyProcess fun process =>
                let others := process.traps.filter fun entry => entry.1 != number
                { process with
                  traps := match action with
                    | some action => (number, action) :: others
                    | none => others }
              return reply) ({} : Reply)

def killUsage : String :=
  "Usage: kill [-s sigspec | -signum | -sigspec] [pid | job]... or\nkill -l [exitstatus]"

def sendSignal (signal : Nat) (targets : List ByteText) : Exec Reply :=
  targets.foldlM (fun reply target => do
    let number ← countOf (match target with
      | '-' :: digits => digits
      | digits => digits)
    let session ← get
    if session.alive.contains number then
      if signal ≠ 0 then set { session with signals := session.signals ++ [(number, signal)] }
      return reply
    else
      Exec.complain (ofString "No such process\n")
      return { reply with status := 1 }) ({} : Reply)

def killCommand (arguments : List ByteText) : Exec Reply := do
  match arguments with
  | [] => Exec.fault (ofString killUsage)
  | first :: later =>
      let direct := match first with
        | '-' :: name => signal? 1 name
        | _ => none
      let (signal, lists, operands) : Option Nat × Bool × List ByteText ← match direct with
        | some signal => pure (some signal, false, later)
        | none => do
            let (given, operands) ← flagsOf "ls:" arguments
            let chosen ← given.foldlM (fun chosen option => do
              if option.1 = 's' then
                match signal? 1 option.2 with
                | some signal => return some signal
                | none =>
                    Exec.fault (ofString "invalid signal number or name: " ++ option.2)
              else return chosen) none
            pure (chosen, given.any fun option => option.1 == 'l', operands)
      if lists then
        if signal.isSome then Exec.fault (ofString killUsage)
        else
          match operands with
          | [] => return { output := (List.range signalNames.length).flatMap fun number =>
              (if number = 0 then ['0'] else signalName number) ++ ['\n'] }
          | text :: _ =>
              let number ← countOf text
              let number := if 128 < number then number - 128 else number
              if 0 < number ∧ number < signalNames.length then
                return { output := signalName number ++ ['\n'] }
              else
                Exec.fault (ofString "invalid signal number or exit status: " ++ text)
      else if operands.isEmpty then Exec.fault (ofString killUsage)
      else sendSignal (signal.getD 15) operands

/-- Waits for processes in the background, all of which have ended. -/
def waitCommand (arguments : List ByteText) : Exec Reply := do
  let (_, operands) ← flagsOf "" arguments
  if operands.isEmpty then
    Exec.modifyProcess fun process => { process with finished := [] }
    return {}
  else
    operands.foldlM (fun _ operand => do
      let number ← countOf operand
      match (← Exec.process).finished.lookup number with
      | some status => return { status }
      | none => return { status := 127 }) ({} : Reply)

/-- For whom a clause of a mode is, a bit for each. Without a letter it is for all. -/
def modePositions (letters : ByteText) : Nat :=
  let bits := letters.foldl (fun bits c =>
    bits ||| (if c = 'u' then 64 else if c = 'g' then 8 else if c = 'o' then 1 else 73)) 0
  if bits = 0 then 73 else bits

/-- What is allowed by letters; a letter for somebody stands for what is allowed to them. -/
def modeBits (allowed : Nat) (letters : ByteText) : Nat :=
  letters.foldl (fun bits c =>
    bits ||| (match c with
      | 'r' => 4
      | 'w' => 2
      | 'x' => 1
      | 'u' => allowed / 64 % 8
      | 'g' => allowed / 8 % 8
      | 'o' => allowed % 8
      | 'X' => if allowed &&& 73 = 0 then 0 else 1
      | _ => 0)) 0

/-- Changes what is allowed, clause by clause; none if a clause cannot be read. -/
def changeMode (allowed : Nat) : Nat → Nat → Nat → ByteText → Option Nat
  | 0, _, result, _ => some result
  | _, _, result, [] => some result
  | fuel + 1, positions, result, text =>
      let isWho := fun c : Char => c == 'a' || c == 'u' || c == 'g' || c == 'o'
      let who := text.takeWhile isWho
      let positions := if who.isEmpty ∧ positions ≠ 0 then positions else modePositions who
      match text.drop who.length with
      | [] => some result
      | operator :: rest =>
          let letters := rest.takeWhile ("rwxugoXs".toList.contains ·)
          let bits := modeBits allowed letters * positions
          let cleared := fun bits : Nat => result &&& (511 ^^^ (bits &&& 511))
          let changed := match operator with
            | '-' => some (cleared bits)
            | '=' => some (bits ||| cleared (positions * 7))
            | '+' => some (result ||| bits)
            | _ => none
          match changed, rest.drop letters.length with
          | none, _ => none
          | some result, ',' :: rest => changeMode allowed fuel 0 result rest
          | some result, rest => changeMode allowed fuel positions result rest

/-- The mask in octal digits, or a mode that it leaves in letters. -/
def maskCommand (arguments : List ByteText) : Exec Reply := do
  let (given, operands) ← flagsOf "S" arguments
  let mask := (← Exec.process).mask
  match operands with
  | [] =>
      if given.isEmpty then
        let digits := Nat.toDigits 8 mask
        return { output := List.replicate (4 - digits.length) '0' ++ digits ++ ['\n'] }
      else
        let letters := fun shift : Nat =>
          let bits := 7 - (mask / Nat.pow 8 shift) % 8
          ((if 4 ≤ bits then "r" else "") ++ (if bits % 4 / 2 = 1 then "w" else "") ++
            (if bits % 2 = 1 then "x" else ""))
        return { output := ofString s!"u={letters 2},g={letters 1},o={letters 0}\n" }
  | mode :: _ =>
      if (mode.head?.map Char.isDigit).getD false then
        if mode.all isOctalDigit then
          Exec.modifyProcess fun process => { process with mask := valueInBase 8 mode % 512 }
          return {}
        else Exec.badNumber mode
      else
        match changeMode (511 - mask) (mode.length + 1) 0 (511 - mask) mode with
        | some allowed =>
            Exec.modifyProcess fun process => { process with mask := 511 - allowed % 512 }
            return {}
        | none => Exec.fault (ofString "Illegal mode: " ++ mode)

/-- Shows a limit of the process, or sets one, which has no effect here. -/
def limitCommand (arguments : List ByteText) : Exec Reply := do
  let (given, operands) ← flagsOf "HSatfdscmlpnvwr" arguments
  match operands with
  | _ :: _ :: _ => Exec.fault (ofString "too many arguments")
  | [text] =>
      if text = ofString "unlimited" ∨ text.all Char.isDigit then return {}
      else Exec.fault (ofString "bad number")
  | [] =>
      let isCore := given.any fun option => option.1 == 'c'
      return { output := ofString (if isCore then "0\n" else "unlimited\n") }

def printfCommand (arguments : List ByteText) : Exec Reply := do
  match ← flagsOf "" arguments with
  | (_, []) => Exec.fault (ofString "usage: printf format [arg ...]")
  | (_, format :: later) =>
      match formatted format later with
      | .error problem => Exec.fault problem
      | .ok (output, complaints) =>
          complaints.forM Exec.complain
          return { status := if complaints.isEmpty then 0 else 1, output }

def testCommand (closes : Bool) (arguments : List ByteText) : Exec Reply := do
  let disk := (← get).disk
  let isOpen := closes && arguments.getLast?.bind (·.head?) != some ']'
  let holds :=
    if isOpen then .error ConditionFault.openBracket
    else condition disk (if closes then arguments.dropLast else arguments)
  match holds with
  | .ok holds => return { status := if holds then 0 else 1 }
  | .error problem => Exec.fault problem.message

def leaveLoops (skip : Skip) (arguments : List ByteText) : Exec Reply := do
  let count ← match arguments with
    | [] => pure 1
    | text :: _ => do
        let count ← countOf text
        if count = 0 then Exec.badNumber text else pure count
  Exec.modifyProcess fun process =>
    let count := min count process.loopDepth
    if count = 0 then process else { process with skip, skipCount := count }
  return {}

def returnCommand (arguments : List ByteText) : Exec Reply := do
  let status ← match arguments with
    | [] => pure (← Exec.process).status
    | text :: _ => countOf text
  Exec.modifyProcess fun process => { process with skip := .return_ }
  return { status }

def exitCommand (arguments : List ByteText) : Exec Reply := do
  match arguments with
  | [] => pure ()
  | text :: _ =>
      let status ← countOf text
      Exec.modifyProcess fun process =>
        { process with status, savedStatus := process.savedStatus.map fun _ => status }
  throw .leave

/-- The commands of this module by name, without those that look up or run other commands. -/
def builtin? (name : ByteText) : Option (List ByteText → Exec Reply) :=
  match String.ofList name with
  | ":" | "true" => some fun _ => return {}
  | "false" => some fun _ => return { status := 1 }
  | "echo" => some fun arguments => return { output := echoText arguments }
  | "printf" => some printfCommand
  | "test" => some (testCommand false)
  | "[" => some (testCommand true)
  | "export" => some (markVariables "export" true false)
  | "readonly" => some (markVariables "readonly" false true)
  | "unset" => some unsetAll
  | "local" => some declareLocals
  | "set" => some setCommand
  | "shift" => some shiftCommand
  | "getopts" => some optionsCommand
  | "read" => some inputCommand
  | "alias" => some aliasCommand
  | "unalias" => some unaliasCommand
  | "cd" | "chdir" => some changeDirectory
  | "pwd" => some fun arguments => do
      let _ ← flagsOf "LP" arguments
      return { output := ((← get).value? (ofString "PWD")).getD [] ++ ['\n'] }
  | "trap" => some trapCommand
  | "kill" => some killCommand
  | "wait" => some waitCommand
  | "umask" => some maskCommand
  | "break" => some (leaveLoops .break_)
  | "continue" => some (leaveLoops .continue_)
  | "return" => some returnCommand
  | "exit" => some exitCommand
  | "times" => some fun _ =>
      return { output := ofString "0m0.000000s 0m0.000000s\n0m0.000000s 0m0.000000s\n" }
  | "ulimit" => some limitCommand
  | "jobs" => some fun _ => return {}
  | "fg" | "bg" => some fun _ => Exec.fault (ofString "No current job")
  | _ => none

def runnerNames : List String := [".", "command", "eval", "exec", "hash", "type"]

def isBuiltin (name : ByteText) : Bool :=
  (builtin? name).isSome || runnerNames.contains (String.ofList name)

end ConstructorAction.Tools.Shell
