import ConstructorAction.Tools.LineSort.Key

namespace ConstructorAction.Tools.LineSort

/-!
Sorting, checking and merging of lines by keys.
-/

/-- What decides the order of lines. -/
structure LineOrder where
  keys : List Key := []
  separator : Option Char := none
  reverse : Bool := false
  stable : Bool := false
  unique : Bool := false
  deriving DecidableEq, Repr, Inhabited

namespace LineOrder

/-- Compares lines by the keys in turn, and then as a whole unless that is not wanted. -/
def compareLines (order : LineOrder) (left right : ByteText) : Ordering :=
  let byKeys := order.keys.foldl (fun decided key =>
    decided.then (key.compareLines order.separator left right)) .eq
  if order.keys.isEmpty || !(order.unique || order.stable) then
    byKeys.then (if order.reverse then compare right left else compare left right)
  else byKeys

def inOrder (order : LineOrder) (left right : ByteText) : Bool :=
  order.compareLines left right != .gt

def withoutRepeats (order : LineOrder) : List ByteText → List ByteText
  | [] => []
  | line :: later => line :: go line later
where
  go (last : ByteText) : List ByteText → List ByteText
    | [] => []
    | line :: later =>
        if order.compareLines last line = .eq then go last later else line :: go line later

def finish (order : LineOrder) (lines : List ByteText) : List ByteText :=
  if order.unique then order.withoutRepeats lines else lines

/-- Sorts lines; equal ones stay in the order they came in. -/
def sort (order : LineOrder) (lines : List ByteText) : List ByteText :=
  order.finish (lines.mergeSort order.inOrder)

def mergeTwo (order : LineOrder) : Nat → List ByteText → List ByteText → List ByteText
  | 0, left, right => left ++ right
  | _, [], right => right
  | _, left, [] => left
  | fuel + 1, line :: left, other :: right =>
      if order.inOrder line other then line :: mergeTwo order fuel left (other :: right)
      else other :: mergeTwo order fuel (line :: left) right

/-- Merges lists of lines: always the smallest of the first lines comes next. -/
def merge (order : LineOrder) (lists : List (List ByteText)) : List ByteText :=
  order.finish (lists.foldr (fun lines merged =>
    order.mergeTwo (lines.length + merged.length) lines merged) [])

/-- The first line that is not in order behind the one before it, with its number. -/
def disorder? (order : LineOrder) (number : Nat) : List ByteText → Option (Nat × ByteText)
  | first :: second :: later =>
      let decided := order.compareLines first second
      if decided = .gt ∨ (order.unique ∧ decided = .eq) then some (number + 1, second)
      else disorder? order (number + 1) (second :: later)
  | _ => none

end LineOrder

end ConstructorAction.Tools.LineSort
