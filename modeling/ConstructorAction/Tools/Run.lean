import ConstructorAction.Files.Tree

namespace ConstructorAction.Tools

open ConstructorAction.Files

/-!
Runs of external programs, seen as functions of their standard input. What the library says about
formatters it says for every launcher; this module is all that it needs to know of programs.
-/

inductive ExitStatus where
  | code (value : Nat)
  | signal (number : Nat)
  deriving DecidableEq, Repr, Inhabited

def ExitStatus.isSuccess (status : ExitStatus) : Bool := status == .code 0

def signalName (number : Nat) : String :=
  match number with
  | 1 => " (SIGHUP)"
  | 2 => " (SIGINT)"
  | 3 => " (SIGQUIT)"
  | 4 => " (SIGILL)"
  | 5 => " (SIGTRAP)"
  | 6 => " (SIGABRT)"
  | 7 => " (SIGBUS)"
  | 8 => " (SIGFPE)"
  | 9 => " (SIGKILL)"
  | 10 => " (SIGUSR1)"
  | 11 => " (SIGSEGV)"
  | 12 => " (SIGUSR2)"
  | 13 => " (SIGPIPE)"
  | 14 => " (SIGALRM)"
  | 15 => " (SIGTERM)"
  | 16 => " (SIGSTKFLT)"
  | 24 => " (SIGXCPU)"
  | 25 => " (SIGXFSZ)"
  | 26 => " (SIGVTALRM)"
  | 27 => " (SIGPROF)"
  | 29 => " (SIGIO)"
  | 30 => " (SIGPWR)"
  | 31 => " (SIGSYS)"
  | _ => ""

def ExitStatus.describe : ExitStatus → String
  | .code value => s!"exit status: {value}"
  | .signal number => s!"signal: {number}{signalName number}"

/-- What a program leaves behind. -/
structure Finished where
  status : ExitStatus
  stdout : List UInt8
  stderr : List UInt8
  /-- The files afterwards. -/
  tree : Tree
  deriving Repr, Inhabited

/-- Why a program was not started. -/
inductive LaunchError where
  | unusable (reason : FileError)
  /-- A name or an argument holds a NUL character. -/
  | nulCharacter
  deriving DecidableEq, Repr

def LaunchError.message : LaunchError → String
  | .unusable reason => reason.message
  | .nulCharacter => "nul byte found in provided data"

abbrev Launcher := String → List String → List UInt8 → Except LaunchError Finished

end ConstructorAction.Tools
