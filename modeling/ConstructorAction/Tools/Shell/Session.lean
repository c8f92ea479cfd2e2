import ConstructorAction.Tools.Filter
import ConstructorAction.Tools.Shell.Program

namespace ConstructorAction.Tools.Shell

open ConstructorAction.Files

/-!
The state of the command interpreter. A process has its own variables and descriptors; files, open
streams and what was written are shared by all processes. A subshell starts with a copy of the
process around it and leaves that one as it was.
-/

structure Variable where
  /-- None for a variable that is declared and not set. -/
  value : Option ByteText := none
  isExported : Bool := false
  isReadOnly : Bool := false
  deriving DecidableEq, Repr, Inhabited

/-- Why commands are passed over. -/
inductive Skip where
  | none
  | break_
  | continue_
  | return_
  deriving DecidableEq, Repr, Inhabited

/-- What a function call or a command changes for its duration: the variables before. -/
structure LocalFrame where
  bindings : List (ByteText × Option Variable) := []
  options : Option (List Char) := none
  deriving Repr, Inhabited

/-- How far the options among parameters were read. -/
structure OptionProgress where
  next : Nat := 1
  offset : Option Nat := none
  deriving DecidableEq, Repr, Inhabited

structure Process where
  /-- What the interpreter is called in complaints. -/
  name : ByteText
  parameters : List ByteText := []
  bindings : List (ByteText × Variable) := []
  functions : List (ByteText × Command) := []
  aliases : List (ByteText × ByteText) := []
  /-- The letters of options that are on. -/
  options : List Char := []
  /-- Descriptors and the channels they are connected with. -/
  descriptors : List (Nat × Nat) := [(0, 0), (1, 1), (2, 2)]
  /-- What is done on signals; nothing if the text is empty. Zero is the end of the process. -/
  traps : List (Nat × ByteText) := []
  frames : List LocalFrame := []
  /-- The status of the last command. -/
  status : Nat := 0
  /-- The status that a trap started with, while it is run. -/
  savedStatus : Option Nat := none
  /-- The status of the last command whose output became part of a word. -/
  outputStatus : Nat := 0
  skip : Skip := .none
  skipCount : Nat := 0
  loopDepth : Nat := 0
  callDepth : Nat := 0
  /-- The line of the command that is run. -/
  line : Nat := 0
  /-- The line that was read last. -/
  lineRead : Nat := 1
  /-- The command of the interpreter that is run. -/
  command : Option ByteText := none
  here : Node := .directory []
  mask : Nat := 18
  id : Nat
  /-- The process that the interpreter was started as. -/
  rootId : Nat
  lastBackground : Option Nat := none
  /-- Processes in the background that have ended, and how. -/
  finished : List (Nat × Nat) := []
  optionProgress : OptionProgress := {}
  /-- Programs that were found before. -/
  hashed : List ByteText := []
  deriving Inhabited

/-- What a descriptor is connected with. -/
inductive Channel where
  /-- The standard input of the whole program. -/
  | input (text : ByteText) (rewinds : Bool)
  | output (isError : Bool)
  | nowhere
  | full
  | file (route : Route) (offset : Nat) (writes appends : Bool)
  | directory
  | pipe (text : ByteText)
  deriving DecidableEq, Repr, Inhabited

structure Session where
  process : Process
  tree : Tree
  channels : List (Nat × Channel)
  nextChannel : Nat := 3
  /-- What was written, the last first. -/
  pieces : List Piece := []
  /-- Documents of programs, by number. -/
  documents : List (Nat × Word) := []
  nextDocument : Nat := 0
  nextId : Nat := 1001
  /-- Processes that run or were not waited for. -/
  alive : List Nat := []
  /-- Signals that were not noticed yet. -/
  signals : List (Nat × Nat) := []
  deriving Inhabited

/-- Why a command does not go on. -/
inductive Interrupt where
  /-- A fault that was complained about. -/
  | fault
  /-- The process ends with its status. -/
  | leave
  | killed (signal : Nat)
  | exhausted
  deriving DecidableEq, Repr, Inhabited

abbrev Exec := EStateM Interrupt Session

namespace Session

def disk (session : Session) : Disk := { tree := session.tree, here := session.process.here }

def channel? (session : Session) (descriptor : Nat) : Option (Nat × Channel) := do
  let number ← session.process.descriptors.lookup descriptor
  return (number, ← session.channels.lookup number)

def setChannel (session : Session) (number : Nat) (channel : Channel) : Session :=
  { session with
    channels := (number, channel) :: session.channels.filter fun entry => entry.1 != number }

def addChannel (session : Session) (channel : Channel) : Nat × Session :=
  let number := session.nextChannel
  (number, { session with
    channels := (number, channel) :: session.channels, nextChannel := number + 1 })

def connect (session : Session) (descriptor : Nat) (number : Option Nat) : Session :=
  let others := session.process.descriptors.filter fun entry => entry.1 != descriptor
  let descriptors := match number with
    | some number => (descriptor, number) :: others
    | none => others
  { session with process := { session.process with descriptors } }

/-- Puts a text over the bytes of a file from a place on. -/
def overwritten (before text : ByteText) (offset : Nat) : ByteText :=
  before.take offset ++ List.replicate (offset - before.length) '\x00' ++ text ++
    before.drop (offset + text.length)

/-- Writes to a descriptor, unless it cannot be written to. -/
def write (session : Session) (descriptor : Nat) (text : ByteText) : Option Session :=
  match session.channel? descriptor with
  | none => none
  | some (number, channel) =>
      match channel with
      | .output isError => some { session with pieces := ⟨isError, text⟩ :: session.pieces }
      | .nowhere => some session
      | .pipe before => some (session.setChannel number (.pipe (before ++ text)))
      | .file route offset true appends =>
          let before := session.disk.textAt route
          let offset := if appends then before.length else offset
          let tree := (session.disk.put route (overwritten before text offset)).tree
          some ({ session with tree }.setChannel number
            (.file route (offset + text.length) true appends))
      | _ => none

/-- What there is to read at a descriptor, and whether it can be read again. -/
def readable (session : Session) (descriptor : Nat) : ByteText × Bool :=
  match session.channel? descriptor with
  | some (_, .input text rewinds) => (text, rewinds)
  | some (_, .pipe text) => (text, false)
  | some (_, .file route offset _ _) => ((session.disk.textAt route).drop offset, true)
  | _ => ([], false)

def readProblem? (session : Session) (descriptor : Nat) : Option FileError :=
  match session.channel? descriptor with
  | none => some .closed
  | some (_, .directory) => some .isDirectory
  | _ => none

def writeProblem? (session : Session) (descriptor : Nat) : Option FileError :=
  match session.channel? descriptor with
  | some (_, .full) => some .noRoom
  | _ => if (session.write descriptor []).isSome then none else some .closed

/-- Leaves a part of what there is to read at a descriptor. -/
def leaveRest (session : Session) (descriptor : Nat) (rest : ByteText) : Session :=
  match session.channel? descriptor with
  | some (number, .input _ rewinds) => session.setChannel number (.input rest rewinds)
  | some (number, .pipe _) => session.setChannel number (.pipe rest)
  | some (number, .file route _ writes appends) =>
      let offset := (session.disk.textAt route).length - rest.length
      session.setChannel number (.file route offset writes appends)
  | _ => session

/-- Opens a path; the text says what is wrong. -/
def openPath (session : Session) (mode : OpenMode) (keepsFiles : Bool) (path : ByteText) :
    Except ByteText (Nat × Session) :=
  let creates := mode != .read
  let refuse := fun reason : FileError =>
    let text := match reason with
      | .notFound | .notDirectory => if creates then "Directory nonexistent" else "No such file"
      | reason => reason.reason
    Except.error (ofString (if creates then "cannot create " else "cannot open ") ++ path ++
      ofString s!": {text}")
  let shared := fun descriptor : Nat =>
    match session.process.descriptors.lookup descriptor with
    | some number => Except.ok (number, session)
    | none => refuse .notFound
  let found := if creates then session.disk.findOrCreate path else session.disk.find path
  match found with
  | .error reason => refuse reason
  | .ok (.device .nowhere) | .ok (.device .zeros) => .ok (session.addChannel .nowhere)
  | .ok (.device .full) => .ok (session.addChannel .full)
  | .ok (.device .stdin) => shared 0
  | .ok (.device .stdout) => shared 1
  | .ok (.device .stderr) => shared 2
  | .ok (.file route _) =>
      let isThere := (session.tree.files.lookup route).isSome
      if keepsFiles && mode == .write && isThere then
        .error (ofString "cannot create " ++ path ++ ofString ": File exists")
      else
        let empties := mode == .write || mode == .replace
        let tree := if creates && (empties || !isThere) then session.tree.put route []
          else session.tree
        let opened := Channel.file route 0 creates (mode == OpenMode.append)
        .ok ({ session with tree }.addChannel opened)
  | .ok _ => if creates then refuse .isDirectory else .ok (session.addChannel .directory)

def findVariable (session : Session) (name : ByteText) : Option Variable :=
  session.process.bindings.lookup name

def value? (session : Session) (name : ByteText) : Option ByteText :=
  (session.findVariable name).bind (·.value)

def hasOption (session : Session) (letter : Char) : Bool :=
  session.process.options.contains letter

def setVariable (session : Session) (name : ByteText) (variable_ : Option Variable) : Session :=
  let others := session.process.bindings.filter fun entry => entry.1 != name
  let bindings := match variable_ with
    | some variable_ => (name, variable_) :: others
    | none => others
  { session with process := { session.process with bindings } }

def separators (session : Session) : Option ByteText := session.value? (ofString "IFS")

end Session

namespace Exec

def modifyProcess (change : Process → Process) : Exec Unit :=
  modify fun session => { session with process := change session.process }

def process : Exec Process := do return (← get).process

/-- Writes to a descriptor, or nowhere if that cannot be done. -/
def write (descriptor : Nat) (text : ByteText) : Exec Bool := do
  match (← get).write descriptor text with
  | some session =>
      set session
      return true
  | none => return false

def complain (message : ByteText) : Exec Unit := do
  let process ← process
  let place := process.name ++ ofString s!": {process.line}: "
  let command := match process.command with
    | some command => command ++ ofString ": "
    | none => []
  let _ ← write 2 (place ++ command ++ message ++ ['\n'])

def fault {α : Type} (message : ByteText) : Exec α := do
  modifyProcess fun process => { process with status := 2 }
  complain message
  throw .fault

def badNumber {α : Type} (text : ByteText) : Exec α :=
  fault (ofString "Illegal number: " ++ text)

/-- Sets a variable. It keeps being exported, and one that is read-only is refused. -/
def setVariable (name : ByteText) (value : Option ByteText) (isExported isReadOnly : Bool) :
    Exec Unit := do
  let session ← get
  let before := (session.findVariable name).getD {}
  if before.isReadOnly then fault (name ++ ofString ": is read only")
  else
    let isExported := isExported || before.isExported || session.hasOption 'a'
    set (session.setVariable name (some ⟨value, isExported, isReadOnly⟩))
    if name = ofString "OPTIND" then
      modifyProcess fun process => { process with optionProgress := {} }

def assign (name value : ByteText) : Exec Unit := setVariable name (some value) false false

def unset (name : ByteText) : Exec Unit := do
  let session ← get
  match session.findVariable name with
  | none => return
  | some variable_ =>
      if variable_.isReadOnly then fault (name ++ ofString ": is read only")
      else set (session.setVariable name none)

/-- Keeps a variable as it is until the end of the frame. -/
def keepLocally (name : ByteText) : Exec Unit := do
  let session ← get
  match session.process.frames with
  | [] => return
  | frame :: frames =>
      if (frame.bindings.lookup name).isSome then return
      else
        let frame :=
          { frame with bindings := (name, session.findVariable name) :: frame.bindings }
        modifyProcess fun process => { process with frames := frame :: frames }

def pushFrame : Exec Unit :=
  modifyProcess fun process => { process with frames := {} :: process.frames }

def popFrame : Exec Unit := do
  match (← process).frames with
  | [] => return
  | frame :: frames =>
      modify fun session =>
        frame.bindings.foldl (fun session entry => session.setVariable entry.1 entry.2) session
      modifyProcess fun process =>
        { process with frames, options := frame.options.getD process.options }

end Exec

end ConstructorAction.Tools.Shell
