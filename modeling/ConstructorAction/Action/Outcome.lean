import ConstructorAction.Wire.Records

namespace ConstructorAction.Action

open ConstructorAction.Document ConstructorAction.Wire

/-!
How far an action came, and what it did to the document.
-/

/-- The steps of an action, in order. An action that ends before `inserted` changed nothing. -/
inductive Stage where
  | idle
  | scopeResolved
  | membersCollected
  | synthesized
  | inserted
  | reformatRequested
  | reformatApplied
  deriving DecidableEq, Repr, Inhabited

def Stage.name : Stage → String
  | idle => "idle"
  | scopeResolved => "scope-resolved"
  | membersCollected => "members-collected"
  | synthesized => "synthesized"
  | inserted => "inserted"
  | reformatRequested => "reformat-requested"
  | reformatApplied => "reformat-applied"

/-- What became of the layout after the constructor was inserted. -/
inductive ReformatOutcome where
  | disabled
  | unchanged
  | applied (edits : Nat)
  /-- The formatter or its edits failed; the constructor stays. -/
  | failed (reason : String)
  deriving DecidableEq, Repr, Inhabited

structure Outcome where
  typeName : String
  insertedAt : Position
  text : String
  members : Nat
  stage : Stage
  reformat : ReformatOutcome
  deriving DecidableEq, Repr, Inhabited

def ReformatOutcome.toJson : ReformatOutcome → Json
  | disabled => .object [("status", .string "disabled")]
  | unchanged => .object [("status", .string "unchanged")]
  | applied edits => .object [("status", .string "applied"), ("edits", encode edits)]
  | failed reason => .object [("status", .string "failed"), ("reason", .string reason)]

def Outcome.toJson (outcome : Outcome) : Json :=
  .object
    [("typeName", encode outcome.typeName), ("insertedAt", encode outcome.insertedAt),
      ("text", encode outcome.text), ("members", encode outcome.members),
      ("stage", .string outcome.stage.name), ("reformat", outcome.reformat.toJson)]

end ConstructorAction.Action
