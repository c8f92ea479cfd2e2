import ConstructorAction.Action.Outcome
import ConstructorAction.Action.Request
import ConstructorAction.Document.Host
import ConstructorAction.Layout.Formatter
import ConstructorAction.Source.Scope
import ConstructorAction.Synthesis.Constructor
import ConstructorAction.Synthesis.Placement

namespace ConstructorAction.Action

open ConstructorAction.Document ConstructorAction.Layout ConstructorAction.Settings
  ConstructorAction.Source ConstructorAction.Synthesis

/-!
The action itself. For a cursor it prepares a request and offers it as a command; for a request it
writes the constructor, inserts it, and lays the document out anew if the settings say so. The
insertion decides: whatever fails after it leaves it in place.
-/

variable {σ : Type} [Host σ]

/-- The request for the type around a cursor. -/
def prepare (host : σ) (settings : Settings) (document : DocumentId) (cursor : Position) :
    Except ActionError ConstructorRequest :=
  match buffer? host document with
  | none => .error (.unknownDocument document)
  | some buffer =>
      match enclosingType? buffer.lines cursor.line with
      | none => .error (.noEnclosingType cursor.line)
      | some owner =>
          let members := byLine (members buffer.lines owner)
          match insertionPosition? settings.strategy.insertion owner members cursor with
          | none => .error (.noMembers owner.typeName)
          | some position => .ok ⟨document, owner, members, position⟩

/-- The commands that a cursor has to offer: one, or none if no request can be prepared. -/
def offer (host : σ) (settings : Settings) (document : DocumentId) (cursor : Position) :
    List Command :=
  match prepare host settings document cursor with
  | .error _ => []
  | .ok request => [request.toCommand]

/-- The text of an insertion: it ends in a line feed. -/
def insertedText (text : String) : String :=
  if text.toList.getLast? = some '\n' then text else text ++ "\n"

/-- Inserts a text, and a line feed behind it if it has none. -/
def place (host : σ) (document : DocumentId) (position : Position) (text : String) :
    Except ActionError Unit × σ :=
  applyEdits host document [.insertion position (insertedText text)]

/-- Lays a document out anew. A failure is part of the outcome and changes nothing. -/
def reformat (host : σ) (formatter : Formatter) (document : DocumentId) : ReformatOutcome × σ :=
  match buffer? host document with
  | none => (.failed (ActionError.unknownDocument document).message, host)
  | some buffer =>
      match formatter.edits buffer with
      | .error problem => (.failed problem.message, host)
      | .ok [] => (.unchanged, host)
      | .ok edits =>
          match applyEdits host document edits with
          | (.ok (), host) => (.applied edits.length, host)
          | (.error problem, host) => (.failed problem.message, host)

/-- The stage that a reformatting leaves an action in. -/
def ReformatOutcome.stage : ReformatOutcome → Stage
  | .disabled => .inserted
  | .failed _ => .reformatRequested
  | .unchanged | .applied _ => .reformatApplied

/-- Writes the constructor of a request into its document. -/
def run (host : σ) (settings : Settings) (formatter : Formatter) (request : ConstructorRequest) :
    Except ActionError Outcome × σ :=
  if request.members.isEmpty then (.error (.noMembers request.owningType.typeName), host)
  else
    let text := constructorText settings request.owningType request.members
    match place host request.document request.insertionPosition text with
    | (.error problem, host) => (.error problem, host)
    | (.ok (), host) =>
        let (reformat, host) :=
          if settings.reformatAfterChange then reformat host formatter request.document
          else (.disabled, host)
        (.ok {
          typeName := request.owningType.typeName
          insertedAt := request.insertionPosition
          text
          members := request.members.length
          stage := reformat.stage
          reformat }, host)

/-- Carries out a command that was offered before. -/
def execute (host : σ) (settings : Settings) (formatter : Formatter) (command : Command) :
    Except ActionError Outcome × σ :=
  match ConstructorRequest.ofCommand command with
  | .error problem => (.error (.invalidRequest problem), host)
  | .ok request => run host settings formatter request

end ConstructorAction.Action
