import ConstructorAction.Tools.Run
import ConstructorAction.Tools.Shell.Evaluation

namespace ConstructorAction.Tools

open ConstructorAction.Files

/-!
The command interpreter as a program of the toolbox: it is started with arguments, a standard input
and files, and leaves a status or the signal that ended it.
-/

namespace Shell

def depthLimit : Nat := 1000000

def ownPath : String := "/" ++ "/".intercalate ownRoute

def initialVariables : List (ByteText × Variable) :=
  [(ofString "HOME", { value := some (ofString "/root"), isExported := true }),
   (ofString "LC_ALL", { value := some ['C'], isExported := true }),
   (ofString "PATH", { value := some defaultPath, isExported := true }),
   (ofString "PWD", { value := some (ofString ownPath), isExported := true })]

def launcher (here : Node) : Process :=
  { name := [], bindings := initialVariables, here, id := 1000, rootId := 1000 }

/-- What a run leaves behind. -/
structure Ended where
  status : ExitStatus
  pieces : List Piece
  disk : Disk
  deriving Inhabited

def Ended.stdout (ended : Ended) : ByteText := streamText false ended.pieces

def Ended.stderr (ended : Ended) : ByteText := streamText true ended.pieces

def run (invocation : Invocation) : Ended :=
  let disk := invocation.disk
  let session : Session :=
    { process := launcher disk.here
      tree := disk.tree
      channels :=
        [(0, .input invocation.stdin invocation.rewinds), (1, .output false), (2, .output true)]
      alive := [1000] }
  let finish := fun (status : ExitStatus) (session : Session) =>
    ({ status, pieces := session.pieces.reverse, disk := { disk with tree := session.tree } }
      : Ended)
  match startInterpreter depthLimit (ofString invocation.name) invocation.arguments session with
  | .ok (.ok status) session => finish (.code status) session
  | .ok (.error signal) session => finish (.signal signal) session
  | .error _ session => finish (.signal 11) session

end Shell

end ConstructorAction.Tools
