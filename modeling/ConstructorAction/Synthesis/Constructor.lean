import ConstructorAction.Settings.Basic
import ConstructorAction.Synthesis.Parameters

namespace ConstructorAction.Synthesis

open ConstructorAction.Settings ConstructorAction.Source

/-!
Constructors, and how they are written: one parameter and one assignment for each member, in the
order of the lines that the members are declared on.
-/

/-- The left side of an assignment. -/
inductive Target where
  /-- The member of that name. -/
  | qualified (name : String)
  /-- The parameter of that name if there is one, and else the member. -/
  | bare (name : String)
  deriving DecidableEq, Repr, Inhabited

structure Assignment where
  target : Target
  parameter : String
  deriving DecidableEq, Repr, Inhabited

structure Constructor where
  typeName : String
  parameters : List Parameter
  assignments : List Assignment
  deriving DecidableEq, Repr, Inhabited

/-- A member with an underscore may stand bare, since the parameter for it is named without. -/
def targetOf (rule : AssignmentRule) (member : MemberDeclaration) : Target :=
  match rule, member.hasUnderscore with
  | .underscoreAware, true => .bare member.name
  | _, _ => .qualified member.name

/-- The assignment of a parameter to a member. -/
def assignmentOf (rule : AssignmentRule) (member : MemberDeclaration) (parameter : String) :
    Assignment :=
  ⟨targetOf rule member, parameter⟩

/-- Members in the order of their lines; those on one line stay in order. -/
def byLine (members : List MemberDeclaration) : List MemberDeclaration :=
  members.mergeSort fun left right => left.line ≤ right.line

/-- The constructor of a type for some of its members. -/
def constructorOf (rule : AssignmentRule) (owner : TypeDeclaration)
    (members : List MemberDeclaration) : Constructor :=
  let ordered := byLine members
  let named := ordered.zip (parameterNames ordered)
  { typeName := owner.typeName
    parameters := named.map fun (member, name) => parameterOf member name
    assignments := named.map fun (member, name) => assignmentOf rule member name }

@[simp] theorem length_byLine (members : List MemberDeclaration) :
    (byLine members).length = members.length :=
  List.length_mergeSort members

@[simp] theorem length_parameters (rule : AssignmentRule) (owner : TypeDeclaration)
    (members : List MemberDeclaration) :
    (constructorOf rule owner members).parameters.length = members.length := by
  simp [constructorOf]

@[simp] theorem length_assignments (rule : AssignmentRule) (owner : TypeDeclaration)
    (members : List MemberDeclaration) :
    (constructorOf rule owner members).assignments.length = members.length := by
  simp [constructorOf]

def Target.text : Target → String
  | .qualified name => "this." ++ name
  | .bare name => name

def Assignment.text (assignment : Assignment) : String :=
  assignment.target.text ++ " = " ++ assignment.parameter ++ ";"

/-- The first line: the name of the type and the parameters. -/
def Constructor.header (constructor : Constructor) : String :=
  "public " ++ constructor.typeName ++ "(" ++
    ", ".intercalate (constructor.parameters.map Parameter.text) ++ ")"

/-- The lines of a constructor, with the indentation of the block and of its body. -/
def Constructor.lines (constructor : Constructor) (outer inner : String) : List String :=
  [outer ++ constructor.header, outer ++ "\x7b"] ++
    (constructor.assignments.map fun assignment => inner ++ assignment.text) ++ [outer ++ "\x7d"]

/-- Three lines frame the assignments. -/
@[simp] theorem Constructor.length_lines (constructor : Constructor) (outer inner : String) :
    (constructor.lines outer inner).length = constructor.assignments.length + 3 := by
  simp [Constructor.lines]

/-- The levels of the block and of its body. -/
def levels : IndentStyle → Nat × Nat
  | .flat => (0, 1)
  | .nested => (2, 3)

def indentation (tabSize level : Nat) : String := "".pushn ' ' (level * tabSize)

/-- The lines of the constructor that the settings ask for. -/
def constructorLines (settings : Settings) (owner : TypeDeclaration)
    (members : List MemberDeclaration) : List String :=
  let (outer, inner) := levels settings.strategy.indent
  (constructorOf settings.strategy.assignment owner members).lines
    (indentation settings.tabSize outer) (indentation settings.tabSize inner)

/-- The text of a constructor; its last line is not terminated. -/
def constructorText (settings : Settings) (owner : TypeDeclaration)
    (members : List MemberDeclaration) : String :=
  "\n".intercalate (constructorLines settings owner members)

end ConstructorAction.Synthesis
