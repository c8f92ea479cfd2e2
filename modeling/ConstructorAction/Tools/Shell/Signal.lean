import ConstructorAction.Tools.Shell.Arithmetic

namespace ConstructorAction.Tools.Shell

/-!
Signals by number and by name, and the words for processes that they ended.
-/

/-- The names of signals by their numbers. The end of a process counts as a signal. -/
def signalNames : List String :=
  ["EXIT", "HUP", "INT", "QUIT", "ILL", "TRAP", "ABRT", "BUS", "FPE", "KILL", "USR1", "SEGV",
   "USR2", "PIPE", "ALRM", "TERM", "STKFLT", "CHLD", "CONT", "STOP", "TSTP", "TTIN", "TTOU",
   "URG", "XCPU", "XFSZ", "VTALRM", "PROF", "WINCH", "IO", "PWR", "SYS", "32", "33"] ++
  (List.range 16).map (fun i => if i = 0 then "RTMIN" else s!"RTMIN+{i}") ++
  (List.range 15).map (fun i => if i = 14 then "RTMAX" else s!"RTMAX-{14 - i}")

def signalName (number : Nat) : ByteText := ofString ((signalNames[number]?).getD "")

/-- A signal that a text means; by name, those from `first` on. -/
def signal? (first : Nat) (text : ByteText) : Option Nat :=
  if !text.isEmpty && text.all Char.isDigit then
    let number := valueInBase 10 text
    if number < signalNames.length then some number else none
  else
    let upper := String.ofList (text.map Char.toUpper)
    ((signalNames.zipIdx).find? fun entry => entry.1 == upper && first ≤ entry.2).map (·.2)

def isHarmless (signal : Nat) : Bool := [0, 17, 18, 19, 20, 21, 22, 23, 28].contains signal

def endingWords (signal : Nat) : Option String :=
  match signal with
  | 2 | 13 => none
  | 1 => some "Hangup"
  | 3 => some "Quit"
  | 4 => some "Illegal instruction"
  | 5 => some "Trace/breakpoint trap"
  | 6 => some "Aborted"
  | 7 => some "Bus error"
  | 8 => some "Floating point exception"
  | 9 => some "Killed"
  | 10 => some "User defined signal 1"
  | 11 => some "Segmentation fault"
  | 12 => some "User defined signal 2"
  | 14 => some "Alarm clock"
  | 15 => some "Terminated"
  | 16 => some "Stack fault"
  | 24 => some "CPU time limit exceeded"
  | 25 => some "File size limit exceeded"
  | 26 => some "Virtual timer expired"
  | 27 => some "Profiling timer expired"
  | 29 => some "I/O possible"
  | 30 => some "Power failure"
  | 31 => some "Bad system call"
  | number => some s!"Unknown signal {number}"

end ConstructorAction.Tools.Shell
