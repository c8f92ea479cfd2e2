namespace ConstructorAction.Source

/-!
Declarations found in a document: types, and the members that a constructor would assign.
-/

/-- A class or struct. Its body is taken to reach up to `endLine`, the end of the document. -/
structure TypeDeclaration where
  typeName : String
  startLine : Nat
  endLine : Nat
  deriving DecidableEq, Repr, Inhabited

inductive MemberKind where
  | field
  | property
  deriving DecidableEq, Repr, Inhabited

def MemberKind.name : MemberKind → String
  | .field => "field"
  | .property => "property"

def MemberKind.names : List (String × MemberKind) :=
  [MemberKind.field, .property].map fun kind => (kind.name, kind)

/-- A field or property, with its type and name as written. -/
structure MemberDeclaration where
  owningType : TypeDeclaration
  declaredType : String
  name : String
  line : Nat
  kind : MemberKind
  deriving DecidableEq, Repr, Inhabited

def MemberDeclaration.hasUnderscore (member : MemberDeclaration) : Bool :=
  member.name.toList.head? == some '_'

end ConstructorAction.Source
