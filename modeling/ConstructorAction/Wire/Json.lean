namespace ConstructorAction.Wire

/-!
JSON values. A number is an integer or a double, by the way it is written; the members of an object
keep the order they are given in.
-/

inductive Json where
  | null
  | bool (value : Bool)
  | integer (value : Int)
  | double (value : Float)
  | string (value : String)
  | array (elements : List Json)
  | object (members : List (String × Json))
  deriving Inhabited, BEq, Repr

namespace Json

/-- Puts a member in, before the first one with a greater key; an equal key is replaced. -/
def insertMember (key : String) (value : Json) : List (String × Json) → List (String × Json)
  | [] => [(key, value)]
  | (other, old) :: later =>
      if key = other then (key, value) :: later
      else if key < other then (key, value) :: (other, old) :: later
      else (other, old) :: insertMember key value later

/-- The members in the order of their keys; of equal keys the last one counts. -/
def ofMembers (members : List (String × Json)) : Json :=
  .object (members.foldl (fun sorted member => insertMember member.1 member.2 sorted) [])

mutual

/-- The same value with the members of every object in the order of their keys. -/
def sorted : Json → Json
  | .array elements => .array (sortedElements elements)
  | .object members => ofMembers (sortedMembers members)
  | other => other

def sortedElements : List Json → List Json
  | [] => []
  | element :: later => sorted element :: sortedElements later

def sortedMembers : List (String × Json) → List (String × Json)
  | [] => []
  | (key, value) :: later => (key, sorted value) :: sortedMembers later

end

/-- The value of a member of an object. -/
def member? (key : String) : Json → Option Json
  | .object members => members.lookup key
  | _ => none

end Json

end ConstructorAction.Wire
