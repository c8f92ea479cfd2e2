import ConstructorAction.Settings.Strategy

namespace ConstructorAction

/-!
What a user can set.
-/

structure Settings where
  tabSize : Nat := 4
  reformatAfterChange : Bool := true
  strategy : Settings.Strategy := .standard
  /-- The command line of an external formatter; without one the text is only indented anew. -/
  formatter : Option String := none
  deriving DecidableEq, Repr, Inhabited

end ConstructorAction
