namespace ConstructorAction.Document

/-!
Places in a document, and edits of its text. Lines and characters are counted from zero; a
character is a Unicode scalar value.
-/

structure Position where
  line : Nat
  character : Nat
  deriving DecidableEq, Repr, Inhabited

/-- The wording of a position in messages. -/
def Position.describe (position : Position) : String :=
  s!"Position \x7b line: {position.line}, character: {position.character} \x7d"

structure Range where
  start : Position
  stop : Position
  deriving DecidableEq, Repr, Inhabited

/-- The empty range at a position. -/
def Range.at (position : Position) : Range := ⟨position, position⟩

def Range.isEmpty (range : Range) : Bool := range.start == range.stop

/-- Replaces the text in `range` by `newText`. -/
structure TextEdit where
  range : Range
  newText : String
  deriving DecidableEq, Repr, Inhabited

/-- Puts `text` in at a position and takes nothing out. -/
def TextEdit.insertion (position : Position) (text : String) : TextEdit :=
  ⟨.at position, text⟩

/-- The names of open documents, as the host gives them. -/
abbrev DocumentId := String

theorem Range.isEmpty_iff {range : Range} : range.isEmpty = true ↔ range.start = range.stop := by
  simp [Range.isEmpty]

end ConstructorAction.Document
