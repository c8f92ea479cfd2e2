import ConstructorAction.Text.Lines

namespace ConstructorAction.Text

/-!
A text as a list of rows: lines, each with the characters that end it. Every text has rows
(`rowsText_rowsOf`), and the contents of the rows are its lines (`lines_rowsText`), so that an edit
of a text can be followed row by row.
-/

theorem pieces_eq_splitOn (text : List Char) : pieces text = text.splitOn '\n' := by
  induction text with
  | nil => rfl
  | cons c rest ih =>
      rw [List.splitOn, List.splitOnP_cons_eq_if_modifyHead, ← List.splitOn, ← ih]
      by_cases feed : c = '\n'
      · simp [pieces, feed]
      · obtain ⟨piece, later, cut⟩ := List.exists_cons_of_ne_nil (pieces_ne_nil rest)
        simp [pieces, feed, cut]

theorem pieces_of_notMem {piece : List Char} (whole : '\n' ∉ piece) : pieces piece = [piece] := by
  induction piece with
  | nil => rfl
  | cons c rest ih =>
      have apart : c ≠ '\n' := fun same => whole (by simp [same])
      have later : '\n' ∉ rest := fun member => whole (List.mem_cons_of_mem c member)
      simp [pieces, apart, ih later]

theorem pieces_append_lineFeed {piece : List Char} (whole : '\n' ∉ piece) (rest : List Char) :
    pieces (piece ++ '\n' :: rest) = piece :: pieces rest := by
  induction piece with
  | nil => simp [pieces]
  | cons c inner ih =>
      have apart : c ≠ '\n' := fun same => whole (by simp [same])
      have later : '\n' ∉ inner := fun member => whole (List.mem_cons_of_mem c member)
      simp [pieces, apart, ih later]

theorem pieces_append_left {front text piece : List Char} {later : List (List Char)}
    (whole : '\n' ∉ front) (cut : pieces text = piece :: later) :
    pieces (front ++ text) = (front ++ piece) :: later := by
  induction front with
  | nil => exact cut
  | cons c rest ih =>
      have apart : c ≠ '\n' := fun same => whole (by simp [same])
      have inner := ih fun member => whole (List.mem_cons_of_mem c member)
      simp [pieces, apart, inner]

theorem lineFeed_notMem_of_mem_pieces {text piece : List Char} (member : piece ∈ pieces text) :
    '\n' ∉ piece := by
  induction text generalizing piece with
  | nil => simp [pieces] at member; simp [member]
  | cons c rest ih =>
      unfold pieces at member
      split at member
      · rcases List.mem_cons.mp member with rfl | later
        · simp
        · exact ih later
      · next apart =>
          cases cut : pieces rest with
          | nil => exact absurd cut (pieces_ne_nil rest)
          | cons first later =>
              rw [cut] at member ih
              rcases List.mem_cons.mp member with rfl | inLater
              · have clean := ih List.mem_cons_self
                simp [clean, Ne.symm apart]
              · exact ih (List.mem_cons_of_mem first inLater)

theorem subset_of_mem_pieces {text piece : List Char} (member : piece ∈ pieces text) :
    piece ⊆ text := by
  induction text generalizing piece with
  | nil => simp [pieces] at member; simp [member]
  | cons c rest ih =>
      obtain ⟨first, later, cut⟩ := List.exists_cons_of_ne_nil (pieces_ne_nil rest)
      unfold pieces at member
      rw [cut] at member ih
      split at member
      · rcases List.mem_cons.mp member with rfl | inRest
        · exact List.nil_subset _
        · exact List.Subset.trans (ih inRest) (List.subset_cons_self c rest)
      · rcases List.mem_cons.mp member with rfl | inLater
        · exact List.cons_subset_cons c (ih List.mem_cons_self)
        · exact List.Subset.trans (ih (List.mem_cons_of_mem first inLater))
            (List.subset_cons_self c rest)

theorem length_pieces (text : List Char) : (pieces text).length = text.count '\n' + 1 := by
  induction text with
  | nil => rfl
  | cons c rest ih =>
      unfold pieces
      by_cases same : c = '\n'
      · subst same
        simp [ih]
      · cases cut : pieces rest with
        | nil => exact absurd cut (pieces_ne_nil rest)
        | cons first later =>
            rw [cut] at ih
            simpa [same] using ih

theorem joinLines_singleton (line : List Char) : joinLines [line] = line := by
  simp [joinLines, List.intercalate]

theorem joinLines_cons_cons (line next : List Char) (later : List (List Char)) :
    joinLines (line :: next :: later) = line ++ '\n' :: joinLines (next :: later) := by
  simp [joinLines, List.intercalate]

theorem joinLines_append_singleton (front : List (List Char)) (last text : List Char) :
    joinLines (front ++ [last]) ++ text = joinLines (front ++ [last ++ text]) := by
  induction front with
  | nil => simp [joinLines_singleton]
  | cons line later ih =>
      cases later with
      | nil => simp [joinLines_cons_cons, joinLines_singleton]
      | cons next later => simpa [joinLines_cons_cons] using ih

theorem pieces_joinLines {all : List (List Char)} (present : all ≠ [])
    (whole : ∀ piece ∈ all, '\n' ∉ piece) : pieces (joinLines all) = all := by
  induction all with
  | nil => exact absurd rfl present
  | cons piece later ih =>
      have clean := whole piece List.mem_cons_self
      cases later with
      | nil => rw [joinLines_singleton, pieces_of_notMem clean]
      | cons next later =>
          have rest := ih (List.cons_ne_nil next later)
            fun other member => whole other (List.mem_cons_of_mem piece member)
          rw [joinLines_cons_cons, pieces_append_lineFeed clean, rest]

theorem pieces_joinLines_append {all : List (List Char)} (present : all ≠ [])
    (whole : ∀ piece ∈ all, '\n' ∉ piece) (rest : List Char) :
    pieces (joinLines all ++ '\n' :: rest) = all ++ pieces rest := by
  induction all with
  | nil => exact absurd rfl present
  | cons piece later ih =>
      obtain ⟨clean, laterClean⟩ := List.forall_mem_cons.mp whole
      cases later with
      | nil => rw [joinLines_singleton, pieces_append_lineFeed clean, List.singleton_append]
      | cons next later =>
          rw [joinLines_cons_cons, List.append_assoc, List.cons_append,
            pieces_append_lineFeed clean, ih (List.cons_ne_nil next later) laterClean]
          rfl

theorem mem_joinLines {all : List (List Char)} {line : List Char} {c : Char} (shown : line ∈ all)
    (member : c ∈ line) : c ∈ joinLines all := by
  induction all with
  | nil => cases shown
  | cons first later ih =>
      cases later with
      | nil =>
          obtain rfl := List.mem_singleton.mp shown
          rwa [joinLines_singleton]
      | cons next later =>
          rw [joinLines_cons_cons]
          cases shown with
          | head => exact List.mem_append_left _ member
          | tail _ inLater => exact List.mem_append_right _ (List.mem_cons_of_mem _ (ih inLater))

/-- How a line may end. Only the last one may lack the line feed. -/
inductive Ending where
  | lineFeed
  | returnLineFeed
  | loneReturn
  | missing
  deriving DecidableEq, Repr

namespace Ending

def text : Ending → List Char
  | lineFeed => ['\n']
  | returnLineFeed => ['\r', '\n']
  | loneReturn => ['\r']
  | missing => []

def isClosed : Ending → Bool
  | lineFeed | returnLineFeed => true
  | loneReturn | missing => false

def hasReturn : Ending → Bool
  | returnLineFeed | loneReturn => true
  | lineFeed | missing => false

/-- The part that a line feed leaves in the piece in front of it. -/
def inPiece (ending : Ending) : List Char := if ending.hasReturn then ['\r'] else []

theorem text_of_isClosed {ending : Ending} (closed : ending.isClosed = true) :
    ending.text = ending.inPiece ++ ['\n'] := by
  cases ending <;> simp_all [isClosed, text, inPiece, hasReturn]

theorem text_of_not_isClosed {ending : Ending} (unclosed : ending.isClosed = false) :
    ending.text = ending.inPiece := by
  cases ending <;> simp_all [isClosed, text, inPiece, hasReturn]

end Ending

structure Row where
  content : List Char
  ending : Ending
  deriving DecidableEq, Repr

def Row.text (row : Row) : List Char := row.content ++ row.ending.text

def rowsText (rows : List Row) : List Char := rows.flatMap Row.text

@[simp] theorem rowsText_nil : rowsText [] = [] := rfl

@[simp] theorem rowsText_cons (row : Row) (rows : List Row) :
    rowsText (row :: rows) = row.text ++ rowsText rows := rfl

@[simp] theorem rowsText_append (front rows : List Row) :
    rowsText (front ++ rows) = rowsText front ++ rowsText rows := by
  simp [rowsText]

/-- The content is one line, and a carriage return at its end is not taken for a part of the
ending. -/
structure Row.IsLine (row : Row) : Prop where
  lineFeed_notMem : '\n' ∉ row.content
  hasReturn : row.content.getLast? = some '\r' → row.ending.hasReturn = true

/-- Every row but the last is closed, and a last row without any ending has some content. -/
def Arranged : List Row → Prop
  | [] => True
  | [row] => row.IsLine ∧ (row.ending = .missing → row.content ≠ [])
  | row :: next :: later =>
      (row.IsLine ∧ row.ending.isClosed = true) ∧ Arranged (next :: later)

theorem Arranged.tail {row : Row} {later : List Row} (arranged : Arranged (row :: later)) :
    Arranged later := by
  cases later with
  | nil => trivial
  | cons next later => exact arranged.2

theorem Arranged.append_right {front rows : List Row} (arranged : Arranged (front ++ rows)) :
    Arranged rows := by
  induction front with
  | nil => exact arranged
  | cons row front ih => exact ih arranged.tail

theorem Arranged.isLine {rows : List Row} (arranged : Arranged rows) :
    ∀ row ∈ rows, row.IsLine := by
  induction rows with
  | nil => simp
  | cons row later ih =>
      intro other member
      rcases List.mem_cons.mp member with rfl | inLater
      · cases later with
        | nil => exact arranged.1
        | cons next later => exact arranged.1.1
      · exact ih arranged.tail other inLater

/-- Closed lines may stand in front of any rows. -/
theorem Arranged.append {front rows : List Row}
    (closed : ∀ row ∈ front, row.IsLine ∧ row.ending.isClosed = true)
    (arranged : Arranged rows) : Arranged (front ++ rows) := by
  induction front with
  | nil => exact arranged
  | cons row later ih =>
      have first := closed row List.mem_cons_self
      have rest := ih fun other member => closed other (List.mem_cons_of_mem row member)
      cases tail : later ++ rows with
      | nil =>
          have notMissing : row.ending ≠ .missing := by
            intro missing
            simp [missing, Ending.isClosed] at first
          rw [List.cons_append, tail]
          exact ⟨first.1, fun missing => absurd missing notMissing⟩
      | cons next later =>
          rw [tail] at rest
          rw [List.cons_append, tail]
          exact ⟨first, rest⟩

theorem Arranged.isClosed {front rows : List Row} (arranged : Arranged (front ++ rows))
    (present : rows ≠ []) : ∀ row ∈ front, row.ending.isClosed = true := by
  induction front with
  | nil => simp
  | cons first later ih =>
      intro row member
      obtain ⟨next, rest, cut⟩ := List.exists_cons_of_ne_nil
        (show later ++ rows ≠ [] from List.append_ne_nil_of_right_ne_nil later present)
      rw [List.cons_append, cut] at arranged
      rcases List.mem_cons.mp member with rfl | inLater
      · exact arranged.1.2
      · rw [← cut] at arranged
        exact ih arranged.tail row inLater

/-- What stands between two line feeds: the content, and the carriage return of the ending. -/
def Row.piece (row : Row) : List Char := row.content ++ row.ending.inPiece

theorem withoutReturn_piece {row : Row} (line : row.IsLine) :
    withoutReturn row.piece = row.content := by
  unfold withoutReturn Row.piece Ending.inPiece
  cases returns : row.ending.hasReturn with
  | true => simp
  | false =>
      have kept : row.content.getLast? ≠ some '\r' := fun last => by
        simp [line.hasReturn last] at returns
      simp [kept]

theorem lineFeed_notMem_piece {row : Row} (line : row.IsLine) : '\n' ∉ row.piece := by
  have content := line.lineFeed_notMem
  unfold Row.piece Ending.inPiece
  split <;> simp [content]

theorem pieces_append_closed {row : Row} (line : row.IsLine) (closed : row.ending.isClosed = true)
    (rest : List Char) : pieces (row.text ++ rest) = row.piece :: pieces rest := by
  have text : row.text ++ rest = row.piece ++ '\n' :: rest := by
    simp [Row.text, Row.piece, Ending.text_of_isClosed closed]
  rw [text]
  exact pieces_append_lineFeed (lineFeed_notMem_piece line) rest

theorem pieces_rowsText_append {front : List Row}
    (closed : ∀ row ∈ front, row.IsLine ∧ row.ending.isClosed = true) (rest : List Char) :
    pieces (rowsText front ++ rest) = front.map Row.piece ++ pieces rest := by
  induction front with
  | nil => rfl
  | cons row later ih =>
      obtain ⟨first, others⟩ := List.forall_mem_cons.mp closed
      rw [rowsText_cons, List.append_assoc, pieces_append_closed first.1 first.2, ih others]
      rfl

theorem pieces_text_unclosed {row : Row} (line : row.IsLine)
    (unclosed : row.ending.isClosed = false) : pieces row.text = [row.piece] := by
  have text : row.text = row.piece := by
    simp [Row.text, Row.piece, Ending.text_of_not_isClosed unclosed]
  rw [text]
  exact pieces_of_notMem (lineFeed_notMem_piece line)

theorem lines_append_closed {row : Row} (line : row.IsLine) (closed : row.ending.isClosed = true)
    (rest : List Char) : lines (row.text ++ rest) = row.content :: lines rest := by
  obtain ⟨first, later, cut⟩ := List.exists_cons_of_ne_nil (pieces_ne_nil rest)
  have drop : dropFinalEmpty (row.piece :: pieces rest) =
      row.piece :: dropFinalEmpty (pieces rest) := by
    simp only [dropFinalEmpty, cut, List.getLast?_cons_cons, List.dropLast_cons_cons]
    split <;> rfl
  rw [lines, pieces_append_closed line closed, drop, List.map_cons, withoutReturn_piece line]
  rfl

theorem lines_text_last {row : Row} (line : row.IsLine)
    (present : row.ending = .missing → row.content ≠ []) : lines row.text = [row.content] := by
  cases closed : row.ending.isClosed with
  | true => simpa [lines, pieces, dropFinalEmpty] using lines_append_closed line closed []
  | false =>
      have nonempty : row.piece ≠ [] := by
        unfold Row.piece
        cases ending : row.ending <;>
          simp_all [Ending.isClosed, Ending.inPiece, Ending.hasReturn]
      rw [lines, pieces_text_unclosed line closed]
      simp [dropFinalEmpty, nonempty, withoutReturn_piece line]

/-- The lines of a text are the contents of its rows. -/
theorem lines_rowsText {rows : List Row} (arranged : Arranged rows) :
    lines (rowsText rows) = rows.map Row.content := by
  induction rows with
  | nil => rfl
  | cons row later ih =>
      cases later with
      | nil => simpa using lines_text_last arranged.1 arranged.2
      | cons next later =>
          rw [rowsText_cons, lines_append_closed arranged.1.1 arranged.1.2, ih arranged.tail]
          rfl

/-- The row of a piece that a line feed follows. -/
def closedRow (piece : List Char) : Row :=
  ⟨withoutReturn piece, if piece.getLast? = some '\r' then .returnLineFeed else .lineFeed⟩

/-- The row of the last piece, be it an empty one. -/
def openRow (piece : List Char) : Row :=
  ⟨withoutReturn piece, if piece.getLast? = some '\r' then .loneReturn else .missing⟩

/-- The rows of the last piece, which is no line if it is empty. -/
def lastRow (piece : List Char) : List Row :=
  if piece = [] then []
  else [⟨withoutReturn piece, if piece.getLast? = some '\r' then .loneReturn else .missing⟩]

def rowsOfPieces : List (List Char) → List Row
  | [] => []
  | [last] => lastRow last
  | piece :: next :: later => closedRow piece :: rowsOfPieces (next :: later)

def rowsOf (text : List Char) : List Row := rowsOfPieces (pieces text)

theorem withoutReturn_append (piece : List Char) :
    withoutReturn piece ++ (if piece.getLast? = some '\r' then ['\r'] else []) = piece := by
  unfold withoutReturn
  split
  · next returns =>
      obtain ⟨front, rfl⟩ := List.getLast?_eq_some_iff.mp returns
      simp
  · simp

theorem withoutReturn_eq_self_iff {piece : List Char} :
    withoutReturn piece = piece ↔ piece.getLast? ≠ some '\r' := by
  have whole := withoutReturn_append piece
  constructor
  · intro same last
    rw [same, if_pos last] at whole
    simp at whole
  · intro kept
    simpa [kept] using whole

theorem eq_map_withoutReturn_iff {all : List (List Char)} :
    all = all.map withoutReturn ↔ ∀ line ∈ all, line.getLast? ≠ some '\r' := by
  have each : all.map withoutReturn = all.map id ↔ ∀ line ∈ all, withoutReturn line = line :=
    List.map_inj_left
  rw [List.map_id] at each
  rw [eq_comm, each]
  simp only [withoutReturn_eq_self_iff]

theorem lineFeed_notMem_withoutReturn {piece : List Char} (whole : '\n' ∉ piece) :
    '\n' ∉ withoutReturn piece := by
  intro member
  apply whole
  rw [← withoutReturn_append piece]
  exact List.mem_append_left _ member

theorem getLast?_withoutReturn {piece : List Char}
    (last : (withoutReturn piece).getLast? = some '\r') : piece.getLast? = some '\r' := by
  unfold withoutReturn at last
  split at last
  · next returns => exact returns
  · exact last

theorem closedRow_isLine {piece : List Char} (whole : '\n' ∉ piece) : (closedRow piece).IsLine where
  lineFeed_notMem := lineFeed_notMem_withoutReturn whole
  hasReturn last := by simp [closedRow, getLast?_withoutReturn last, Ending.hasReturn]

theorem closedRow_isClosed (piece : List Char) : (closedRow piece).ending.isClosed = true := by
  unfold closedRow
  dsimp only
  split <;> rfl

theorem text_closedRow (piece : List Char) : (closedRow piece).text = piece ++ ['\n'] := by
  have whole := withoutReturn_append piece
  unfold Row.text closedRow
  split at whole
  · next returns => simpa [returns, Ending.text] using congrArg (· ++ ['\n']) whole
  · next kept => simpa [kept, Ending.text] using whole

theorem openRow_isLine {piece : List Char} (whole : '\n' ∉ piece) : (openRow piece).IsLine where
  lineFeed_notMem := lineFeed_notMem_withoutReturn whole
  hasReturn last := by simp [openRow, getLast?_withoutReturn last, Ending.hasReturn]

theorem text_openRow (piece : List Char) : (openRow piece).text = piece := by
  have whole := withoutReturn_append piece
  unfold Row.text openRow
  split at whole
  · next returns => simpa [returns, Ending.text] using whole
  · next kept => simpa [kept, Ending.text] using whole

theorem lastRow_eq (piece : List Char) :
    lastRow piece = if piece = [] then [] else [openRow piece] := rfl

theorem rowsText_lastRow (piece : List Char) : rowsText (lastRow piece) = piece := by
  rw [lastRow_eq]
  split
  · next empty => simp [empty]
  · simp [text_openRow]

theorem arranged_lastRow {piece : List Char} (whole : '\n' ∉ piece) : Arranged (lastRow piece) := by
  rw [lastRow_eq]
  split
  · trivial
  · next present =>
      refine ⟨openRow_isLine whole, fun missing => ?_⟩
      have content : (openRow piece).content = piece := by
        simpa [Row.text, missing, Ending.text] using text_openRow piece
      rwa [content]

theorem rowsText_rowsOfPieces {all : List (List Char)} (present : all ≠ []) :
    rowsText (rowsOfPieces all) = joinLines all := by
  induction all with
  | nil => exact absurd rfl present
  | cons piece later ih =>
      cases later with
      | nil => simpa [rowsOfPieces, joinLines, List.intercalate] using rowsText_lastRow piece
      | cons next later =>
          have rest := ih (List.cons_ne_nil next later)
          rw [rowsOfPieces, rowsText_cons, text_closedRow, rest]
          simp [joinLines, List.intercalate]

theorem arranged_rowsOfPieces {all : List (List Char)} (whole : ∀ piece ∈ all, '\n' ∉ piece) :
    Arranged (rowsOfPieces all) := by
  induction all with
  | nil => trivial
  | cons piece later ih =>
      have clean := whole piece List.mem_cons_self
      cases later with
      | nil => exact arranged_lastRow clean
      | cons next later =>
          have rest := ih fun other member => whole other (List.mem_cons_of_mem piece member)
          have front : ∀ row ∈ [closedRow piece], row.IsLine ∧ row.ending.isClosed = true := by
            simp [closedRow_isLine clean, closedRow_isClosed piece]
          exact Arranged.append front rest

theorem rowsText_rowsOf (text : List Char) : rowsText (rowsOf text) = text :=
  (rowsText_rowsOfPieces (pieces_ne_nil text)).trans (joinLines_pieces text)

theorem arranged_rowsOf (text : List Char) : Arranged (rowsOf text) :=
  arranged_rowsOfPieces fun _ member => lineFeed_notMem_of_mem_pieces member

theorem lines_eq_content (text : List Char) : lines text = (rowsOf text).map Row.content := by
  have shown := lines_rowsText (arranged_rowsOf text)
  rwa [rowsText_rowsOf] at shown

theorem lineFeed_notMem_of_mem_lines {text line : List Char} (member : line ∈ lines text) :
    '\n' ∉ line := by
  rw [lines_eq_content] at member
  obtain ⟨row, inRows, rfl⟩ := List.mem_map.mp member
  exact ((arranged_rowsOf text).isLine row inRows).lineFeed_notMem

/-- What belongs to no ending stands in a line. -/
theorem exists_line_of_mem {text : List Char} {c : Char} (member : c ∈ text)
    (noLineFeed : c ≠ '\n') (noReturn : c ≠ '\r') : ∃ line ∈ lines text, c ∈ line := by
  rw [← rowsText_rowsOf text] at member
  obtain ⟨row, inRows, inRow⟩ := List.mem_flatMap.mp member
  refine ⟨row.content, ?_, ?_⟩
  · rw [lines_eq_content]
    exact List.mem_map_of_mem inRows
  · cases List.mem_append.mp inRow with
    | inl inContent => exact inContent
    | inr inEnding => cases ending : row.ending <;> simp_all [Ending.text]

/-- Lines that were written are read less one carriage return at their ends. -/
theorem outputLines_joinLines {all : List (List Char)} (present : all ≠ [])
    (whole : ∀ piece ∈ all, '\n' ∉ piece) :
    outputLines (joinLines all ++ ['\n']) = all.map withoutReturn := by
  simp [outputLines, pieces_joinLines_append present whole, pieces]

end ConstructorAction.Text
