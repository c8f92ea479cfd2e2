import ConstructorAction.Proofs.Document.LineIndex

namespace ConstructorAction.Document

open ConstructorAction.Text

/-!
Insertions between the lines of a document. Whole lines put in front of a line become lines of their
own there, and all others stay (`lines_insertion`). One past the last line is the end of the text if
a line feed stands there, and no position otherwise (`Buffer.apply_behind_lines`).
-/

def terminated (line : List Char) : Row := ⟨line, .lineFeed⟩

theorem rowsText_terminated {added : List (List Char)} (present : added ≠ []) :
    rowsText (added.map terminated) = joinLines added ++ ['\n'] := by
  induction added with
  | nil => exact absurd rfl present
  | cons line later ih =>
      cases later with
      | nil => simp [terminated, Row.text, Ending.text, joinLines_singleton]
      | cons next more =>
          rw [List.map_cons, rowsText_cons, ih (List.cons_ne_nil next more), joinLines_cons_cons]
          simp [terminated, Row.text, Ending.text]

theorem content_terminated (added : List (List Char)) :
    (added.map terminated).map Row.content = added := by
  simp [terminated, Function.comp_def]

/-- Rows before and behind the start of a line. -/
theorem exists_rows_of_offset? {text : List Char} {first offset : Nat}
    (inside : first < (lines text).length) (found : offset? text ⟨first, 0⟩ = some offset) :
    ∃ front row back, Arranged (front ++ row :: back) ∧ front.length = first ∧
      lines text = (front ++ row :: back).map Row.content ∧
      text.take offset = rowsText front ∧ text.drop offset = rowsText (row :: back) := by
  have contents := lines_eq_content text
  have bound : first < (rowsOf text).length := by simpa [contents] using inside
  have split : rowsOf text = (rowsOf text).take first ++ (rowsOf text)[first] ::
      (rowsOf text).drop (first + 1) := by
    rw [← List.drop_eq_getElem_cons bound, List.take_append_drop]
  have length : ((rowsOf text).take first).length = first :=
    List.length_take_of_le (Nat.le_of_lt bound)
  have arranged := arranged_rowsOf text
  have whole := rowsText_rowsOf text
  generalize (rowsOf text).take first = front at split length
  generalize (rowsOf text)[first] = row at split
  generalize (rowsOf text).drop (first + 1) = back at split
  rw [split] at contents arranged whole
  have same := offset?_rowsText arranged (Nat.zero_le row.content.length)
  rw [whole, length, found, Nat.add_zero] at same
  obtain rfl := Option.some.inj same
  rw [rowsText_append] at whole
  refine ⟨front, row, back, arranged, length, contents, ?_, ?_⟩
  · rw [← whole, List.take_left]
  · rw [← whole, List.drop_left]

/-- Whole lines may be put in front of a line. -/
theorem lines_insertion {text : List Char} {first offset : Nat} {added : List (List Char)}
    (present : added ≠ []) (fits : ∀ line ∈ added, '\n' ∉ line ∧ line.getLast? ≠ some '\r')
    (inside : first < (lines text).length) (found : offset? text ⟨first, 0⟩ = some offset) :
    lines (text.take offset ++ (joinLines added ++ ['\n']) ++ text.drop offset) =
      (lines text).take first ++ added ++ (lines text).drop first := by
  obtain ⟨front, row, back, arranged, length, contents, before, behind⟩ :=
    exists_rows_of_offset? inside found
  have closed : ∀ other ∈ front ++ added.map terminated,
      other.IsLine ∧ other.ending.isClosed = true := by
    intro other member
    rcases List.mem_append.mp member with inFront | inAdded
    · exact ⟨arranged.isLine other (List.mem_append_left _ inFront),
        arranged.isClosed (List.cons_ne_nil row back) other inFront⟩
    · obtain ⟨line, inLines, rfl⟩ := List.mem_map.mp inAdded
      obtain ⟨noFeed, noReturn⟩ := fits line inLines
      exact ⟨⟨noFeed, fun last => absurd last noReturn⟩, rfl⟩
  have rows : Arranged ((front ++ added.map terminated) ++ row :: back) :=
    Arranged.append closed arranged.append_right
  have frontLength : (front.map Row.content).length = first := by rw [List.length_map, length]
  rw [before, behind, ← rowsText_terminated present, ← rowsText_append, ← rowsText_append,
    lines_rowsText rows, contents]
  simp only [List.map_append, content_terminated, ← frontLength, List.take_left, List.drop_left]

/-- Whether a text is without a last line that no line feed ends. -/
def Terminated (text : List Char) : Prop := text = [] ∨ text.getLast? = some '\n'

instance (text : List Char) : Decidable (Terminated text) := inferInstanceAs (Decidable (_ ∨ _))

theorem getLast?_pieces_iff_terminated {text : List Char} :
    (pieces text).getLast? = some [] ↔ Terminated text := by
  by_cases empty : text = []
  · subst empty
    exact iff_of_true rfl (.inl rfl)
  · rw [getLast?_pieces_eq_nil_iff empty, Terminated, or_iff_right empty]

/-- The last piece stands at the end of the text. -/
theorem offset?_last_piece {text : List Char} {front : List (List Char)}
    (cut : pieces text = front ++ [[]]) : offset? text ⟨front.length, 0⟩ = some text.length := by
  have found : (pieces text)[front.length]? = some [] := by simp [cut]
  obtain ⟨ahead, behind, stands⟩ := exists_stands found 0
  have noStart : (startsOf 0 (pieces text))[front.length + 1]? = none := by
    rw [List.getElem?_eq_none_iff, length_startsOf, cut]
    simp
  rcases stands.ends with ⟨rfl, -⟩ | ⟨_, _, start⟩
  · have whole : text = ahead := by
      rw [← joinLines_pieces text, stands.whole, List.append_nil, List.append_nil]
    rw [offset?]
    simp only [found]
    rw [if_pos (Nat.zero_le _), stands.before, Nat.add_zero, whole]
  · cases noStart.symm.trans start

/-- One past the last line is the end of the text, or no position. -/
theorem offset?_length_lines (text : List Char) :
    offset? text ⟨(lines text).length, 0⟩ =
      if Terminated text then some text.length else none := by
  rw [lines, List.length_map, dropFinalEmpty]
  by_cases terminated : Terminated text
  · have last := getLast?_pieces_iff_terminated.mpr terminated
    obtain ⟨front, cut⟩ := List.getLast?_eq_some_iff.mp last
    rw [if_pos last, if_pos terminated, cut, List.dropLast_concat]
    exact offset?_last_piece cut
  · have last := mt getLast?_pieces_iff_terminated.mp terminated
    rw [if_neg last, if_neg terminated, offset?, List.getElem?_eq_none (Nat.le_refl _)]

theorem editText_insertion_eq_error {text : List Char} {position : Position}
    (outside : offset? text position = none) (added : String) :
    editText text [.insertion position added] = .error (.startOutOfRange position) := by
  simp [editText, resolveAll, TextEdit.resolve, TextEdit.insertion, Range.at, outside]

/-- An insertion one past the last line adds to the end of a text that is empty or ends in a line
feed; any other text turns it down. -/
theorem Buffer.apply_behind_lines (buffer : Buffer) (added : String) :
    buffer.apply [.insertion ⟨buffer.lineCount, 0⟩ added] =
      if Terminated buffer.text.toList then
        .ok { buffer with text := buffer.text ++ added, version := buffer.version + 1 }
      else .error (.startOutOfRange ⟨buffer.lineCount, 0⟩) := by
  have place : offset? buffer.text.toList ⟨buffer.lineCount, 0⟩ =
      if Terminated buffer.text.toList then some buffer.text.toList.length else none :=
    offset?_length_lines buffer.text.toList
  by_cases terminated : Terminated buffer.text.toList
  · rw [if_pos terminated] at place ⊢
    have edited : editText buffer.text.toList [.insertion ⟨buffer.lineCount, 0⟩ added] =
        .ok (buffer.text.toList ++ added.toList) := by
      refine editText_insertion_eq_ok_iff.mpr ⟨_, place, ?_⟩
      rw [List.take_length, List.drop_length, List.append_nil]
    rw [Buffer.apply, edited, ← String.toList_append]
    simp only [String.ofList_toList]
  · rw [if_neg terminated] at place ⊢
    rw [Buffer.apply, editText_insertion_eq_error place]

/-- A line feed at the end decides. -/
theorem Buffer.apply_behind_lines_of_missing_line_feed :
    let past : TextEdit := .insertion ⟨1, 0⟩ "x"
    let shown : Buffer := { id := "a.cs", text := "abc" }
    let closed : Buffer := { id := "a.cs", text := "abc\n" }
    (shown.lineCount = 1 ∧ shown.apply [past] = .error (.startOutOfRange ⟨1, 0⟩)) ∧
      closed.lineCount = 1 ∧
        closed.apply [past] = .ok { id := "a.cs", text := "abc\nx", version := 1 } := by
  intro past shown closed
  have one : shown.lineCount = 1 := by decide +kernel
  have oneClosed : closed.lineCount = 1 := by decide +kernel
  have refused := shown.apply_behind_lines "x"
  have accepted := closed.apply_behind_lines "x"
  rw [one, if_neg (by decide)] at refused
  rw [oneClosed, if_pos (by decide)] at accepted
  exact ⟨⟨one, refused⟩, oneClosed, accepted⟩

end ConstructorAction.Document
