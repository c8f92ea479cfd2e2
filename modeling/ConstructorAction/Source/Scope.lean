import ConstructorAction.Source.Declaration
import ConstructorAction.Source.LineRule

namespace ConstructorAction.Source

/-!
Which type a line belongs to, and which members a type has. Braces are not matched: a line belongs
to the last type declared on it or above it, and a type owns the members on the lines below its
declaration that belong to a type of its name. The first line of a document declares nothing.
-/

/-- The number and the name of every line that declares a type, in ascending order. -/
def declarations (lines : List (List Char)) : List (Nat × List Char) :=
  (lines.zipIdx.drop 1).filterMap fun (text, line) => (declaredType? text).map (line, ·)

/-- The last declaration on a line or above it. -/
def declarationAt? (declared : List (Nat × List Char)) (line : Nat) : Option (Nat × List Char) :=
  (declared.filter fun declaration => declaration.1 ≤ line).getLast?

def typeOf (lineCount : Nat) (declaration : Nat × List Char) : TypeDeclaration :=
  ⟨String.ofList declaration.2, declaration.1, lineCount⟩

/-- The type around a line; a line past the end stands for the last one. -/
def enclosingType? (lines : List (List Char)) (line : Nat) : Option TypeDeclaration :=
  (declarationAt? (declarations lines) line).map (typeOf lines.length)

/-- The members that a line may declare: a field first, then a property. -/
def lineMembers (text : List Char) : List (Member × MemberKind) :=
  (field? text).toList.map (·, .field) ++ (property? text).toList.map (·, .property)

/-- The members of a type, in the order of their lines. -/
def members (lines : List (List Char)) (owner : TypeDeclaration) : List MemberDeclaration :=
  let declared := declarations lines
  (lines.zipIdx.drop (owner.startLine + 1)).flatMap fun (text, line) =>
    if line < owner.endLine then
      (lineMembers text).filterMap fun (member, kind) =>
        match declarationAt? declared line with
        | none => none
        | some declaration =>
            if String.ofList declaration.2 = owner.typeName then
              some {
                owningType := typeOf lines.length declaration
                declaredType := String.ofList member.declaredType
                name := String.ofList member.name
                line
                kind }
            else none
    else []

end ConstructorAction.Source
