import ConstructorAction.Document.Position
import ConstructorAction.Settings.Strategy
import ConstructorAction.Source.Declaration

namespace ConstructorAction.Synthesis

open ConstructorAction.Document ConstructorAction.Settings ConstructorAction.Source

/-!
Where a constructor is put: in front of a line, at its margin.
-/

/-- The start of the line that a rule names; a type without members has none. -/
def insertionPosition? (rule : InsertionRule) (owner : TypeDeclaration)
    (members : List MemberDeclaration) (cursor : Position) : Option Position :=
  (members.map (·.line)).min?.map fun first =>
    match rule with
    | .firstMember => ⟨first, 0⟩
    | .cursor => if owner.startLine < cursor.line then ⟨cursor.line, 0⟩ else ⟨first, 0⟩

end ConstructorAction.Synthesis
