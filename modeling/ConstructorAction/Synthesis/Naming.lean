import ConstructorAction.Text.Blank
import ConstructorAction.Text.Case
import ConstructorAction.Text.Word

namespace ConstructorAction.Synthesis

open ConstructorAction.Text

/-!
The name of the parameter for a member. One underscore in front is dropped, blanks are dropped, the
first letter becomes lower case and the first letter of every later word upper case.
-/

/-- Writes the words of a name together. `previous` is the character before, and `begun` tells
whether anything was written yet. -/
def joinWords (previous : Option Char) (begun : Bool) : List Char → List Char
  | [] => []
  | c :: rest =>
      if isBlank c then joinWords (some c) begun rest
      else
        let startsWord := match previous with
          | none => true
          | some p => !isNameChar p && isNameChar c
        let written :=
          if !begun && isNameChar c then lowerCase c
          else if startsWord then upperCase c
          else [c]
        written ++ joinWords (some c) true rest

def withoutUnderscore : List Char → List Char
  | '_' :: rest => rest
  | name => name

/-- The name of the parameter for a member called `name`. -/
def parameterName (name : List Char) : List Char :=
  joinWords none false (withoutUnderscore name)

@[simp] theorem parameterName_underscore (name : List Char) :
    parameterName ('_' :: name) = joinWords none false name := rfl

end ConstructorAction.Synthesis
