import ConstructorAction.Files.Tree
import ConstructorAction.Tools.ByteText
import ConstructorAction.Tools.Options
import ConstructorAction.Tools.Quotation

namespace ConstructorAction.Tools

open ConstructorAction.Files

/-!
Text filters: programs of the toolbox that read their standard input, or the files they are given,
and write to their output streams. This module says what they are run on and what they leave behind.
-/

/-- The files around a program, and the directory that relative paths start from. -/
structure Disk where
  tree : Tree := {}
  here : Node := .directory []
  deriving Repr, Inhabited

namespace Disk

def find (disk : Disk) (path : ByteText) : Except FileError Node :=
  disk.tree.findFrom disk.here (asString path)

def findOrCreate (disk : Disk) (path : ByteText) : Except FileError Node :=
  disk.tree.findOrCreate disk.here (asString path)

def put (disk : Disk) (route : Route) (text : ByteText) : Disk :=
  { disk with tree := disk.tree.put route (toBytes text) }

/-- The bytes at a route; none if there is no file. -/
def textAt (disk : Disk) (route : Route) : ByteText :=
  ofBytes ((disk.tree.files.lookup route).getD [])

end Disk

/-- What a filter is run on. -/
structure Invocation where
  /-- The name it was called by. -/
  name : String
  arguments : List ByteText
  stdin : ByteText
  /-- Why the standard input cannot be read. -/
  stdinProblem : Option FileError := none
  /-- Whether there is a standard output. -/
  hasStdout : Bool := true
  /-- Whether what a program has not used of the standard input is there for the next. -/
  rewinds : Bool := false
  disk : Disk := {}

/-- A text written to one of the two output streams. -/
structure Piece where
  isError : Bool
  text : ByteText
  deriving DecidableEq, Repr, Inhabited

/-- What a filter did. -/
structure Filtered where
  status : Nat := 0
  /-- What it wrote, in order. -/
  pieces : List Piece := []
  /-- What is left of the standard input, if it was read. -/
  rest : Option ByteText := none
  /-- The files afterwards, if they have changed. -/
  disk : Option Disk := none
  deriving Repr, Inhabited

def streamText (isError : Bool) (pieces : List Piece) : ByteText :=
  (pieces.filter fun piece => piece.isError == isError).flatMap (·.text)

namespace Filtered

def stdout (done : Filtered) : ByteText := streamText false done.pieces

def stderr (done : Filtered) : ByteText := streamText true done.pieces

def write (done : Filtered) (text : ByteText) : Filtered :=
  { done with pieces := done.pieces ++ [⟨false, text⟩] }

def complain (done : Filtered) (status : Nat) (message : ByteText) : Filtered :=
  { done with status, pieces := done.pieces ++ [⟨true, message ++ ['\n']⟩] }

def failure (status : Nat) (message : ByteText) : Filtered :=
  { status, pieces := [⟨true, message ++ ['\n']⟩] }

/-- Complaints come out before results that are collected until the end. -/
def complaintsFirst (done : Filtered) : Filtered :=
  { done with pieces := [⟨true, done.stderr⟩, ⟨false, done.stdout⟩] }

end Filtered

namespace Invocation

def message (invocation : Invocation) (text : ByteText) : ByteText :=
  ofString s!"{invocation.name}: " ++ text

def hint (invocation : Invocation) : ByteText :=
  ofString s!"\nTry '{invocation.name} --help' for more information."

def usageError (invocation : Invocation) (status : Nat) (reason : ByteText) : Filtered :=
  .failure status (invocation.message reason ++ invocation.hint)

end Invocation

/-- What reading an operand gives, and whether it was the standard input. -/
structure Operand where
  text : ByteText
  isStdin : Bool
  deriving DecidableEq, Repr, Inhabited

/-- Reads an operand; `-` is the standard input, which is empty once it was read. Of endless
characters, a number is read. -/
def Invocation.operand (invocation : Invocation) (readBefore : Bool) (name : ByteText)
    (endless : Nat := 0) : Except FileError Operand :=
  let stdin : Operand := ⟨if readBefore then [] else invocation.stdin, true⟩
  if name = ['-'] then
    match invocation.stdinProblem with
    | some problem => .error problem
    | none => .ok stdin
  else
    match invocation.disk.find name with
    | .error reason => .error reason
    | .ok (.file _ bytes) => .ok ⟨ofBytes bytes, false⟩
    | .ok (.device .stdin) =>
        match invocation.stdinProblem with
        | some .closed => .error .notFound
        | some problem => .error problem
        | none => .ok stdin
    | .ok (.device .zeros) => .ok ⟨List.replicate endless '\x00', false⟩
    | .ok (.device _) => .ok ⟨[], false⟩
    | .ok _ => .error .isDirectory

/-- Whether the standard input is asked for and there is none. -/
def Invocation.missesStdin (invocation : Invocation) (operands : List ByteText) : Bool :=
  invocation.stdinProblem == some .closed && operands.contains ['-']

def orStdin (operands : List ByteText) : List ByteText :=
  if operands.isEmpty then [['-']] else operands

/-- Reads all operands in order. Each is handed on with what was done so far. -/
def Invocation.foldOperands (invocation : Invocation) (operands : List ByteText)
    (step : Filtered → ByteText → Except FileError ByteText → Filtered) : Filtered :=
  (orStdin operands).foldl (fun done name =>
    match invocation.operand done.rest.isSome name with
    | .error reason => step done name (.error reason)
    | .ok ⟨text, isStdin⟩ =>
        let done := step done name (.ok text)
        if isStdin then { done with rest := some [] } else done) {}

/-- What is left of the standard input when a program has used `count` bytes of it. Unless it
rewinds, whole blocks are gone. -/
def Invocation.restAfter (invocation : Invocation) (block count : Nat) : ByteText :=
  if invocation.rewinds then invocation.stdin.drop count
  else invocation.stdin.drop ((count + block - 1) / block * block)

end ConstructorAction.Tools
