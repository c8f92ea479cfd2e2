import ConstructorAction.Document.Buffer
import ConstructorAction.Proofs.Text.Rows

namespace ConstructorAction.Document

open ConstructorAction.Text

/-!
Positions as offsets. A position of a text is a line between two line feeds and a character in it;
later positions have greater offsets (`offset?_lt`), and the position of a character in a row is
behind all rows before it (`offset?_rowsText`).
-/

/-- The offset of a character of a line, read off the pieces of a text one by one. -/
def offsetIn? : List (List Char) → Nat → Nat → Option Nat
  | [], _, _ => none
  | piece :: _, 0, character =>
      if character ≤ (withoutReturn piece).length then some character else none
  | piece :: later, line + 1, character =>
      (offsetIn? later line character).map (piece.length + 1 + ·)

theorem offset?_eq_offsetIn? (text : List Char) (position : Position) :
    offset? text position = offsetIn? (pieces text) position.line position.character := by
  obtain ⟨line, character⟩ := position
  unfold offset?
  generalize pieces text = all
  induction all generalizing line with
  | nil => simp [offsetIn?]
  | cons piece later ih =>
      cases line with
      | zero => simp [offsetIn?]
      | succ line =>
          simp only [offsetIn?, ← ih line, List.getElem?_cons_succ, List.take_succ_cons,
            List.foldr_cons]
          cases found : later[line]? with
          | none => simp
          | some other =>
              by_cases inLine : character ≤ (withoutReturn other).length <;> simp [inLine]

theorem length_withoutReturn_le (piece : List Char) :
    (withoutReturn piece).length ≤ piece.length := by
  unfold withoutReturn
  split
  · simp
  · exact Nat.le_refl _

theorem offsetIn?_le {all : List (List Char)} {line character offset : Nat}
    (found : offsetIn? all line character = some offset) : offset ≤ (joinLines all).length := by
  induction all generalizing line offset with
  | nil => simp [offsetIn?] at found
  | cons piece later ih =>
      have shorter := length_withoutReturn_le piece
      cases line with
      | zero =>
          simp only [offsetIn?, Option.ite_none_right_eq_some, Option.some.injEq] at found
          have inPiece : piece.length ≤ (joinLines (piece :: later)).length := by
            cases later <;> simp [joinLines, List.intercalate]
          omega
      | succ line =>
          simp only [offsetIn?, Option.map_eq_some_iff] at found
          obtain ⟨rest, inLater, rfl⟩ := found
          have bound := ih inLater
          cases later with
          | nil => simp [offsetIn?] at inLater
          | cons next later =>
              simp only [joinLines, List.intercalate, List.intersperse_cons_cons, List.flatten_cons,
                List.length_append, List.length_singleton] at bound ⊢
              omega

/-- An offset lies in the text or at its end. -/
theorem offset?_le {text : List Char} {position : Position} {offset : Nat}
    (found : offset? text position = some offset) : offset ≤ text.length := by
  rw [offset?_eq_offsetIn?] at found
  simpa [joinLines_pieces] using offsetIn?_le found

/-- The start of a line is a position exactly if a line feed ends each line before it. -/
theorem offset?_lineStart_isSome (text : List Char) (line : Nat) :
    (offset? text ⟨line, 0⟩).isSome ↔ line ≤ text.count '\n' := by
  have count := length_pieces text
  unfold offset?
  cases found : (pieces text)[line]? with
  | none =>
      have past := List.getElem?_eq_none_iff.mp found
      simp only [Option.isSome_none, Bool.false_eq_true, false_iff]
      omega
  | some piece =>
      have inside := (List.getElem?_eq_some_iff.mp found).1
      simp only [Nat.zero_le, ↓reduceIte, Option.isSome_some, true_iff]
      omega

def Position.Before (left right : Position) : Prop :=
  left.line < right.line ∨ left.line = right.line ∧ left.character < right.character

theorem offsetIn?_lt {all : List (List Char)} {line character offset : Nat}
    {laterLine laterCharacter laterOffset : Nat}
    (before : line < laterLine ∨ line = laterLine ∧ character < laterCharacter)
    (found : offsetIn? all line character = some offset)
    (foundLater : offsetIn? all laterLine laterCharacter = some laterOffset) :
    offset < laterOffset := by
  induction all generalizing line laterLine offset laterOffset with
  | nil => simp [offsetIn?] at found
  | cons piece rest ih =>
      have shorter := length_withoutReturn_le piece
      cases line with
      | zero =>
          simp only [offsetIn?, Option.ite_none_right_eq_some, Option.some.injEq] at found
          cases laterLine with
          | zero =>
              simp only [offsetIn?, Option.ite_none_right_eq_some, Option.some.injEq] at foundLater
              omega
          | succ laterLine =>
              simp only [offsetIn?, Option.map_eq_some_iff] at foundLater
              obtain ⟨inner, _, rfl⟩ := foundLater
              omega
      | succ line =>
          cases laterLine with
          | zero => omega
          | succ laterLine =>
              simp only [offsetIn?, Option.map_eq_some_iff] at found foundLater
              obtain ⟨inner, inRest, rfl⟩ := found
              obtain ⟨laterInner, laterInRest, rfl⟩ := foundLater
              have order := ih (by omega) inRest laterInRest
              omega

/-- Positions that follow each other have offsets that do. -/
theorem offset?_lt {text : List Char} {left right : Position} {start stop : Nat}
    (before : left.Before right) (foundLeft : offset? text left = some start)
    (foundRight : offset? text right = some stop) : start < stop := by
  rw [offset?_eq_offsetIn?] at foundLeft foundRight
  exact offsetIn?_lt before foundLeft foundRight

theorem Position.before_or_eq_or_before (left right : Position) :
    left.Before right ∨ left = right ∨ right.Before left := by
  obtain ⟨line, character⟩ := left
  obtain ⟨otherLine, otherCharacter⟩ := right
  simp only [Position.Before, Position.mk.injEq]
  omega

theorem offset?_injective {text : List Char} {left right : Position} {offset : Nat}
    (foundLeft : offset? text left = some offset)
    (foundRight : offset? text right = some offset) : left = right := by
  rcases left.before_or_eq_or_before right with before | same | after
  · exact absurd (offset?_lt before foundLeft foundRight) (Nat.lt_irrefl offset)
  · exact same
  · exact absurd (offset?_lt after foundRight foundLeft) (Nat.lt_irrefl offset)

theorem offset?_lt_iff {text : List Char} {left right : Position} {start stop : Nat}
    (foundLeft : offset? text left = some start) (foundRight : offset? text right = some stop) :
    start < stop ↔ left.Before right := by
  refine ⟨fun less => ?_, fun before => offset?_lt before foundLeft foundRight⟩
  rcases left.before_or_eq_or_before right with before | rfl | after
  · exact before
  · cases foundLeft.symm.trans foundRight
    exact absurd less (Nat.lt_irrefl start)
  · exact absurd less (Nat.lt_asymm (offset?_lt after foundRight foundLeft))

theorem length_text_of_isClosed {row : Row} (closed : row.ending.isClosed = true) :
    row.text.length = row.piece.length + 1 := by
  simp [Row.text, Row.piece, Ending.text_of_isClosed closed, Nat.add_assoc]

theorem foldr_length_pieces {front : List Row} (closed : ∀ row ∈ front, row.ending.isClosed = true)
    (character : Nat) :
    (front.map Row.piece).foldr (fun piece count => piece.length + 1 + count) character =
      (rowsText front).length + character := by
  induction front with
  | nil => simp
  | cons row later ih =>
      obtain ⟨first, others⟩ := List.forall_mem_cons.mp closed
      rw [List.map_cons, List.foldr_cons, ih others, rowsText_cons, List.length_append,
        length_text_of_isClosed first]
      omega

/-- A line of a text, between the lines before it and what stands behind it. Behind the last line
feed there is a line as well, be it an empty one. -/
structure LineAt (text : List Char) (line : Nat) (front : List Row) (row : Row)
    (back : List Char) : Prop where
  whole : text = rowsText front ++ row.text ++ back
  count : front.length = line
  above : ∀ other ∈ front, other.IsLine ∧ other.ending.isClosed = true
  isLine : row.IsLine
  last : row.ending.isClosed = false → back = []

namespace LineAt

variable {text back : List Char} {line : Nat} {front : List Row} {row : Row}

theorem of_arranged {before later : List Row} (arranged : Arranged (before ++ row :: later)) :
    LineAt (rowsText (before ++ row :: later)) before.length before row (rowsText later) where
  whole := by simp
  count := rfl
  above other member :=
    ⟨arranged.isLine other (List.mem_append_left _ member),
      arranged.isClosed (List.cons_ne_nil row later) other member⟩
  isLine := arranged.isLine row (by simp)
  last unclosed := by
    cases later with
    | nil => rfl
    | cons next later => simp [arranged.append_right.1.2] at unclosed

theorem pieces (stands : LineAt text line front row back) :
    ∃ later, pieces text = front.map Row.piece ++ row.piece :: later := by
  rw [stands.whole, List.append_assoc, pieces_rowsText_append stands.above]
  cases closed : row.ending.isClosed with
  | true => exact ⟨_, congrArg _ (pieces_append_closed stands.isLine closed back)⟩
  | false =>
      rw [stands.last closed, List.append_nil, pieces_text_unclosed stands.isLine closed]
      exact ⟨[], rfl⟩

theorem getElem?_pieces (stands : LineAt text line front row back) :
    (Text.pieces text)[line]? = some row.piece := by
  obtain ⟨later, cut⟩ := stands.pieces
  simp [cut, ← stands.count]

/-- A position of the line is behind all lines before it. -/
theorem offset? (stands : LineAt text line front row back) (character : Nat) :
    offset? text ⟨line, character⟩ =
      if character ≤ row.content.length then some ((rowsText front).length + character)
      else none := by
  obtain ⟨later, cut⟩ := stands.pieces
  have taken : (Text.pieces text).take line = front.map Row.piece := by
    rw [cut, ← stands.count, List.take_left' (List.length_map Row.piece)]
  unfold Document.offset?
  simp only [stands.getElem?_pieces, taken, withoutReturn_piece stands.isLine,
    foldr_length_pieces fun other member => (stands.above other member).2]

end LineAt

/-- A character of a row, or the end of its content. -/
theorem offset?_rowsText {before later : List Row} {row : Row} {character : Nat}
    (arranged : Arranged (before ++ row :: later)) (inside : character ≤ row.content.length) :
    offset? (rowsText (before ++ row :: later)) ⟨before.length, character⟩ =
      some ((rowsText before).length + character) := by
  rw [(LineAt.of_arranged arranged).offset?, if_pos inside]

end ConstructorAction.Document
