import ConstructorAction.Error
import ConstructorAction.Wire.Records

namespace ConstructorAction.Action

open ConstructorAction.Document ConstructorAction.Source ConstructorAction.Wire

/-!
The request for a constructor, and the command that a host is offered to send it back with.
-/

/-- All that is needed to write a constructor, as it was when the command was offered. -/
structure ConstructorRequest where
  document : DocumentId
  owningType : TypeDeclaration
  members : List MemberDeclaration
  insertionPosition : Position
  deriving DecidableEq, Repr, Inhabited

structure Command where
  title : String
  command : String
  arguments : List Json
  deriving Repr, Inhabited

instance : Codec ConstructorRequest where
  encode request := .object
    [("document", encode request.document), ("owningType", encode request.owningType),
      ("members", encode request.members),
      ("insertionPosition", encode request.insertionPosition)]
  decode := decodeRecord "ConstructorRequest" 4
    (ConstructorRequest.mk <$> field "document" 0 <*> field "owningType" 1 <*> field "members" 2
      <*> field "insertionPosition" 3)

instance : Codec Command where
  encode command := .object
    [("title", encode command.title), ("command", encode command.command),
      ("arguments", encode command.arguments)]
  decode := decodeRecord "Command" 3
    (Command.mk <$> field "title" 0 <*> field "command" 1 <*> field "arguments" 2)

def commandName : String := "ctorgen.ctorFromProperties"

def commandTitle : String := "Initialize ctor from properties..."

/-- The command that asks for a constructor. -/
def ConstructorRequest.toCommand (request : ConstructorRequest) : Command :=
  ⟨commandTitle, commandName, [encode request]⟩

/-- Reads a command back: its name must be the known one, and its only argument a request. -/
def ConstructorRequest.ofCommand (command : Command) : Except RequestError ConstructorRequest :=
  if command.command ≠ commandName then .error (.unknownCommand command.command)
  else
    match command.arguments with
    | [argument] => (decode argument).mapError .malformed
    | arguments => .error (.argumentCount arguments.length)

end ConstructorAction.Action
