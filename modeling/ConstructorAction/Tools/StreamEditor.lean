import ConstructorAction.Tools.StreamEditor.Reader
import ConstructorAction.Tools.StreamEditor.Run

namespace ConstructorAction.Tools

/-!
The stream editor of the toolbox: a script of commands, run on every line of the input. A command
may be limited to lines by number or by pattern, or to the lines from one to another.
-/

namespace StreamEditor

def options : List OptionForm :=
  [⟨"b", ["binary"], .never⟩, ⟨"E", ["regexp-extended"], .never⟩, ⟨"r", [], .never⟩,
   ⟨"e", ["expression"], .always⟩, ⟨"f", ["file"], .always⟩,
   ⟨"follow-symlinks", ["follow-symlinks"], .never⟩, ⟨"i", ["in-place"], .optional⟩,
   ⟨"l", ["line-length"], .always⟩, ⟨"z", ["null-data", "zero-terminated"], .never⟩,
   ⟨"n", ["quiet", "silent"], .never⟩, ⟨"posix", ["posix"], .never⟩,
   ⟨"sandbox", ["sandbox"], .never⟩, ⟨"s", ["separate"], .never⟩,
   ⟨"u", ["unbuffered"], .never⟩]

/-- What the options say, and the script as far as they give it. -/
structure Setup where
  settings : Settings := {}
  quiet : Bool := false
  separate : Bool := false
  inPlace : Option ByteText := none
  unbuffered : Bool := false
  listWidth : Nat := 70
  pieces : List ScriptPiece := []
  expressions : Nat := 0
  draft : Draft := {}
  /-- What is left of the standard input. -/
  stdin : ByteText := []
  usedStdin : Bool := false
  deriving Inhabited

def Setup.add (setup : Setup) (origin : Origin) (text : ByteText) : Attempt Setup := do
  let piece : ScriptPiece := { origin, text, isFirst := setup.pieces.isEmpty }
  let draft ← setup.draft.readPiece setup.settings piece
  .ok { setup with pieces := setup.pieces ++ [piece], draft }

def Setup.addExpression (setup : Setup) (text : ByteText) : Attempt Setup :=
  let setup := { setup with expressions := setup.expressions + 1 }
  setup.add (.expression setup.expressions) text

def Setup.addFile (setup : Setup) (name : ByteText) : Attempt Setup :=
  let ofStdin := { setup with stdin := [], usedStdin := true }
  if name = ['-'] then ofStdin.add (.file name) setup.stdin
  else
    match setup.draft.disk.find name with
    | .error reason => .error (.noFile name reason.reason, setup.draft.disk)
    | .ok (.file _ bytes) => setup.add (.file name) (ofBytes bytes)
    | .ok (.device .stdin) => ofStdin.add (.file name) setup.stdin
    | .ok _ => setup.add (.file name) []

def Setup.takeOption (setup : Setup) (given : GivenOption) : Attempt Setup :=
  let value := given.value.getD []
  match given.key with
  | "E" | "r" => .ok { setup with settings.extended := true }
  | "e" => setup.addExpression value
  | "f" => setup.addFile value
  | "i" => .ok { setup with separate := true, inPlace := some value }
  | "l" =>
      let digits := (value.dropWhile isSpaceByte).takeWhile Char.isDigit
      .ok { setup with listWidth := valueInBase 10 digits }
  | "z" => .ok { setup with settings.delimiter := '\x00' }
  | "n" => .ok { setup with quiet := true }
  | "s" => .ok { setup with separate := true }
  | "sandbox" => .ok { setup with settings.sandbox := true }
  | "u" => .ok { setup with unbuffered := true }
  | _ => .ok setup

def usage (name : String) : String :=
  s!"Usage: {name} [OPTION]... \x7bscript-only-if-no-other-script\x7d [input-file]..."

def Setup.run (setup : Setup) (invocation : Invocation) (script : Script)
    (operands : List ByteText) : Filtered :=
  let mode : RunMode :=
    { quiet := setup.quiet || script.quiet
      separate := setup.separate
      inPlace := setup.inPlace
      unbuffered := setup.unbuffered
      delimiter := setup.settings.delimiter
      listWidth := setup.listWidth
      scriptEnd := endLocation setup.pieces }
  let state : State :=
    { name := invocation.name
      input := { waiting := orStdin operands }
      disk := setup.draft.disk
      stdin := setup.stdin
      stdinProblem := invocation.stdinProblem }
  let outcome := StreamEditor.run script mode invocation.rewinds state
  let state := outcome.state.flush
  let pieces := match outcome.problem with
    | none => state.pieces.reverse
    | some problem => (state.complain problem.message).pieces.reverse
  let rest :=
    match state.input.used with
    | some used =>
        if state.input.lines.isEmpty || !state.input.isStdin then some state.stdin
        else some (invocation.restAfter (if mode.unbuffered then 1 else 4096) used)
    | none =>
        if setup.usedStdin || state.stdin.length < setup.stdin.length then some state.stdin
        else none
  let done : Filtered :=
    { status := outcome.status, pieces, rest, disk := some state.disk }
  if mode.unbuffered then done else done.complaintsFirst

end StreamEditor

open StreamEditor

def sed (invocation : Invocation) : Filtered :=
  let read := readArguments StreamEditor.options true invocation.arguments
  let failed := fun (failure : Failure × Disk) =>
    { Filtered.failure failure.1.status (invocation.message failure.1.message) with
      disk := some failure.2 }
  let start : Setup := { draft := { disk := invocation.disk }, stdin := invocation.stdin }
  match read.given.foldlM Setup.takeOption start with
  | .error failure => failed failure
  | .ok setup =>
      match read.problem with
      | some problem =>
          .failure 1 (invocation.message problem.message ++ ['\n'] ++
            ofString (usage invocation.name))
      | none =>
          let (setup, operands) : Attempt Setup × List ByteText :=
            match setup.pieces, read.operands with
            | [], script :: operands => (setup.addExpression script, operands)
            | _, operands => (.ok setup, operands)
          match setup with
          | .error failure => failed failure
          | .ok setup =>
              if setup.pieces.isEmpty then .failure 1 (ofString (usage invocation.name))
              else
                match setup.draft.finish with
                | .error failure => failed (failure, setup.draft.disk)
                | .ok script =>
                    if setup.inPlace.isSome && operands.isEmpty then
                      { Filtered.failure 4 (invocation.message (ofString "no input files")) with
                        disk := some setup.draft.disk }
                    else setup.run invocation script operands

end ConstructorAction.Tools
