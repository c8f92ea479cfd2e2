import ConstructorAction.Source.Declaration
import ConstructorAction.Synthesis.Naming

namespace ConstructorAction.Synthesis

open ConstructorAction.Source

/-!
The parameters of a constructor: one for each member, with names that differ from each other. A name
that an earlier parameter has taken gets the least number from 2 on that makes it free.
-/

/-- A parameter as it is declared. -/
structure Parameter where
  type : String
  name : String
  deriving DecidableEq, Repr, Inhabited

def Parameter.text (parameter : Parameter) : String :=
  parameter.type ++ " " ++ parameter.name

/-- The least suffix from `count` on that makes a name differ from all taken ones. As many suffixes
are tried as there are taken names, and one more. -/
def freshSuffix (taken : List (List Char)) (base : List Char) (count : Nat) : Nat :=
  go (taken.length + 1) count
where
  go : Nat → Nat → Nat
    | 0, count => count
    | fuel + 1, count =>
        if taken.contains (base ++ Nat.toDigits 10 count) then go fuel (count + 1) else count

/-- A name as it is, or with the least suffix from 2 on that is free. -/
def freshName (taken : List (List Char)) (base : List Char) : List Char :=
  if taken.contains base then base ++ Nat.toDigits 10 (freshSuffix taken base 2) else base

/-- Distinct names, each made from one base with regard to those before it. -/
def freshNames (taken : List (List Char)) : List (List Char) → List (List Char)
  | [] => []
  | base :: later =>
      let name := freshName taken base
      name :: freshNames (name :: taken) later

@[simp] theorem length_freshNames (taken bases : List (List Char)) :
    (freshNames taken bases).length = bases.length := by
  induction bases generalizing taken with
  | nil => rfl
  | cons base later ih => simp [freshNames, ih]

theorem freshName_of_notMem {taken : List (List Char)} {base : List Char} (free : base ∉ taken) :
    freshName taken base = base := by
  simp [freshName, free]

/-- One parameter name for each member, in order. -/
def parameterNames (members : List MemberDeclaration) : List String :=
  (freshNames [] (members.map fun member => parameterName member.name.toList)).map String.ofList

@[simp] theorem length_parameterNames (members : List MemberDeclaration) :
    (parameterNames members).length = members.length := by
  simp [parameterNames]

/-- The parameter of a member, under a given name. -/
def parameterOf (member : MemberDeclaration) (name : String) : Parameter :=
  ⟨member.declaredType, name⟩

/-- The parameter name that a member has when no other member claims it. -/
def ownParameter (member : MemberDeclaration) : String :=
  String.ofList (parameterName member.name.toList)

end ConstructorAction.Synthesis
