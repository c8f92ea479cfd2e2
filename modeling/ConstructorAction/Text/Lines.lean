namespace ConstructorAction.Text

/-!
Lines of a text. A text is cut at every line feed; a carriage return before the cut belongs to the
terminator. A document and the output of a program read a last, unterminated piece differently:
in a document one carriage return at its end is taken for a terminator as well, in a program's
output it is kept.
-/

/-- The pieces between line feeds; a text without one is a single piece. -/
def pieces : List Char → List (List Char)
  | [] => [[]]
  | c :: rest =>
      if c = '\n' then [] :: pieces rest
      else match pieces rest with
        | [] => [[c]]
        | piece :: later => (c :: piece) :: later

/-- A piece less one carriage return at its end. -/
def withoutReturn (piece : List Char) : List Char :=
  if piece.getLast? = some '\r' then piece.dropLast else piece

/-- The pieces less an empty one at the end, which stands for no line. -/
def dropFinalEmpty (all : List (List Char)) : List (List Char) :=
  if all.getLast? = some [] then all.dropLast else all

/-- The lines of a document. -/
def lines (text : List Char) : List (List Char) :=
  (dropFinalEmpty (pieces text)).map withoutReturn

/-- The lines that a program wrote: only a piece that a line feed ends loses its return. -/
def outputLines (text : List Char) : List (List Char) :=
  let all := pieces text
  all.dropLast.map withoutReturn ++ match all.getLast? with
    | none | some [] => []
    | some piece => [piece]

/-- Lines put together with a line feed between each two. -/
def joinLines (all : List (List Char)) : List Char :=
  ['\n'].intercalate all

theorem pieces_ne_nil (text : List Char) : pieces text ≠ [] := by
  cases text with
  | nil => simp [pieces]
  | cons c rest =>
      unfold pieces
      split
      · simp
      · split <;> simp

theorem joinLines_pieces (text : List Char) : joinLines (pieces text) = text := by
  induction text with
  | nil => rfl
  | cons c rest ih =>
      unfold pieces
      have present := pieces_ne_nil rest
      cases cut : pieces rest with
      | nil => exact absurd cut present
      | cons piece later =>
          rw [cut] at ih
          split
          · next same =>
              subst same
              cases later <;> simp_all [joinLines, List.intercalate]
          · cases later <;> simp_all [joinLines, List.intercalate]

end ConstructorAction.Text
