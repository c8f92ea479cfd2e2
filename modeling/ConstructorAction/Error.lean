import ConstructorAction.Document.Buffer
import ConstructorAction.Settings.Strategy
import ConstructorAction.Tools.Run
import ConstructorAction.Wire.DecodeError

namespace ConstructorAction

open Document Settings Tools Wire

/-!
Why an action was not carried out.
-/

inductive FormatterError where
  | notStarted (program : String) (reason : LaunchError)
  | exited (program : String) (status : ExitStatus) (complaint : String)
  | noOutput (program : String)
  /-- A reason that a formatter gives in its own words. -/
  | reported (reason : String)
  deriving DecidableEq, Repr

def FormatterError.message : FormatterError → String
  | .notStarted program reason => s!"failed to spawn {program}: {reason.message}"
  | .exited program status complaint => s!"{program} exited with {status.describe}: {complaint}"
  | .noOutput program => s!"{program} produced no output"
  | .reported reason => reason

inductive RequestError where
  | unknownCommand (name : String)
  | argumentCount (count : Nat)
  | malformed (problem : DecodeError)
  deriving Repr

def RequestError.message : RequestError → String
  | .unknownCommand name => s!"unknown command '{name}'"
  | .argumentCount count => s!"expected 1 argument, got {count}"
  | .malformed problem => problem.message

inductive ActionError where
  | noEnclosingType (line : Nat)
  | noMembers (typeName : String)
  | unknownDocument (document : DocumentId)
  | editRejected (document : DocumentId) (reason : EditRejection)
  | formatter (problem : FormatterError)
  | invalidRequest (problem : RequestError)
  | settings (problem : SettingsError)
  deriving Repr

def ActionError.message : ActionError → String
  | .noEnclosingType line => s!"no class or struct declaration encloses line {line}"
  | .noMembers typeName => s!"type '{typeName}' has no field or property declarations"
  | .unknownDocument document => s!"unknown document '{document}'"
  | .editRejected document reason => s!"edit rejected for '{document}': {reason.message}"
  | .formatter problem => s!"formatter failed: {problem.message}"
  | .invalidRequest problem => s!"invalid command arguments: {problem.message}"
  | .settings problem => s!"invalid config: {problem.message}"

end ConstructorAction
