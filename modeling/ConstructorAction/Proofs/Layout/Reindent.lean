import ConstructorAction.Proofs.Layout.Indent
import ConstructorAction.Proofs.Layout.LineEdits

namespace ConstructorAction.Layout

open ConstructorAction.Document ConstructorAction.Text

/-!
A document whose lines are indented anew. The edits are always accepted, and what they leave is the
indented lines (`apply_indent`). One line may be lost: a blank last line that no terminator ends.
-/

theorem replacements_eq_nil_iff {line : Nat} {current formatted : List (List Char)}
    (paired : current.length = formatted.length) :
    replacements line current formatted = [] ↔ current = formatted := by
  induction current generalizing line formatted with
  | nil =>
      obtain rfl : formatted = [] := List.length_eq_zero_iff.mp (by simpa using paired.symm)
      simp [replacements]
  | cons old current ih =>
      cases formatted with
      | nil => simp at paired
      | cons new formatted =>
          have rest : replacements (line + 1) current formatted = [] ↔ current = formatted :=
            ih (by simpa using paired)
          unfold replacements
          split
          · next same => simp [same, rest]
          · next changed => simp [changed]

theorem replacements_self (line : Nat) (lines : List (List Char)) :
    replacements line lines lines = [] :=
  (replacements_eq_nil_iff rfl).mpr rfl

theorem lineEdits_self (lines : List (List Char)) : lineEdits lines lines = [] :=
  (lineEdits_paired rfl).trans (replacements_self 0 lines)

theorem refilled_append_singleton {front : List Row} {formatted : List (List Char)}
    (paired : front.length = formatted.length) (last : Row) (new : List Char) :
    refilled (front ++ [last]) (formatted ++ [new]) =
      refilled front formatted ++ [⟨new, last.ending⟩] := by
  induction front generalizing formatted with
  | nil =>
      have empty : formatted = [] := List.length_eq_zero_iff.mp (by simpa using paired.symm)
      subst empty
      rfl
  | cons row front ih =>
      cases formatted with
      | nil => simp at paired
      | cons other formatted =>
          have rest := ih (show front.length = formatted.length by simpa using paired)
          simp only [List.cons_append, refilled, rest]

/-- Two lists of one length end together. -/
theorem exists_last_of_paired {α β : Type} {left : List α} {right : List β}
    (paired : left.length = right.length) (present : left ≠ []) :
    ∃ front last otherFront otherLast, left = front ++ [last] ∧
      right = otherFront ++ [otherLast] ∧ front.length = otherFront.length := by
  have otherPresent : right ≠ [] := by
    rintro rfl
    exact present (List.length_eq_zero_iff.mp paired)
  refine ⟨_, _, _, _, (List.dropLast_concat_getLast present).symm,
    (List.dropLast_concat_getLast otherPresent).symm, ?_⟩
  rw [List.length_dropLast, List.length_dropLast, paired]

/-- Every row gets a new content and keeps its ending. -/
theorem editText_refilled {rows : List Row} {formatted : List (List Char)}
    (arranged : Arranged rows) (paired : rows.length = formatted.length) :
    editText (rowsText rows) (lineEdits (rows.map Row.content) formatted) =
      .ok (rowsText (refilled rows formatted)) := by
  by_cases nonempty : rows = []
  · subst nonempty
    obtain rfl : formatted = [] := List.length_eq_zero_iff.mp (by simpa using paired.symm)
    exact editText_nil []
  · obtain ⟨front, last, otherFront, new, rfl, rfl, frontPaired⟩ :=
      exists_last_of_paired paired nonempty
    rw [editText_paired arranged frontPaired, refilled_append_singleton frontPaired,
      rowsText_append, rowsText_cons, rowsText_nil, List.append_nil, Row.text]

/-- Refilled rows read back as their contents. Only the last one is no line if nothing is left
of it and no line feed ends the text. -/
theorem lines_refilled {rows : List Row} {formatted : List (List Char)}
    (arranged : Arranged rows) (paired : rows.length = formatted.length)
    (fits : ∀ row ∈ refilled rows formatted, row.IsLine) :
    lines (rowsText (refilled rows formatted)) = formatted ∨
      (rowsText rows).getLast? ≠ some '\n' ∧ formatted.getLast? = some [] ∧
        lines (rowsText (refilled rows formatted)) = formatted.dropLast := by
  by_cases nonempty : rows = []
  · subst nonempty
    obtain rfl : formatted = [] := List.length_eq_zero_iff.mp (by simpa using paired.symm)
    exact .inl rfl
  obtain ⟨front, last, otherFront, new, rfl, rfl, frontPaired⟩ :=
    exists_last_of_paired paired nonempty
  rw [refilled_append_singleton frontPaired] at fits ⊢
  have closed : ∀ row ∈ refilled front otherFront, row.IsLine ∧ row.ending.isClosed = true := by
    intro row member
    obtain ⟨-, old, inFront, ending⟩ := mem_refilled member
    refine ⟨fits row (List.mem_append_left _ member), ?_⟩
    rw [ending]
    exact arranged.isClosed (List.cons_ne_nil last []) old inFront
  have lastLine : Row.IsLine ⟨new, last.ending⟩ := fits _ (by simp)
  -- without a terminator and without content the last row leaves no trace in the text
  by_cases lost : last.ending = .missing ∧ new = []
  · obtain ⟨missing, rfl⟩ := lost
    right
    have shown := lines_rowsText (Arranged.append closed (show Arranged [] from trivial))
    rw [List.append_nil, content_refilled frontPaired] at shown
    refine ⟨getLast?_rowsText_of_missing arranged missing, List.getLast?_concat, ?_⟩
    simpa [Row.text, missing, Ending.text] using shown
  · left
    have last' : Arranged [(⟨new, last.ending⟩ : Row)] :=
      ⟨lastLine, fun missing empty => lost ⟨missing, empty⟩⟩
    have shown := lines_rowsText (Arranged.append closed last')
    rwa [List.map_append, content_refilled frontPaired] at shown

theorem mem_placeLine {tabSize level : Nat} {incoming outgoing : Mode} {line : List Char}
    {c : Char} (member : c ∈ placeLine tabSize incoming outgoing level line) :
    c = ' ' ∨ c ∈ line := by
  rcases placeLine_cases tabSize incoming outgoing level line with
    same | ends | ⟨-, margin, whole | front⟩
  · exact .inr (same ▸ member)
  · exact .inr (mem_of_mem_trimEnd (ends ▸ member))
  · rw [whole] at member
    exact (List.mem_append.mp member).imp List.eq_of_mem_replicate mem_of_mem_trim
  · rw [front] at member
    exact (List.mem_append.mp member).imp List.eq_of_mem_replicate mem_of_mem_trimStart

/-- A line that ends in a carriage return after it was moved did so before. -/
theorem getLast?_placeLine {tabSize level : Nat} {incoming outgoing : Mode} {line : List Char}
    (last : (placeLine tabSize incoming outgoing level line).getLast? = some '\r') :
    line.getLast? = some '\r' := by
  have returnBlank : isBlank '\r' = true := by decide
  have noMargin (margin : Nat) : (List.replicate margin ' ').getLast? ≠ some '\r' := by
    rw [List.getLast?_replicate]
    split <;> simp
  rcases placeLine_cases tabSize incoming outgoing level line with
    same | ends | ⟨-, margin, whole | front⟩
  · exact same ▸ last
  · rw [ends] at last
    simp [visible_of_getLast?_trimEnd last] at returnBlank
  · rw [whole, List.getLast?_append] at last
    cases stop : (trim line).getLast? with
    | none =>
        rw [stop, Option.none_or] at last
        exact absurd last (noMargin margin)
    | some c =>
        rw [stop, Option.some_or] at last
        obtain rfl := Option.some.inj last
        simp [visible_of_getLast?_trimEnd stop] at returnBlank
  · obtain ⟨blanks, -, whole⟩ := exists_trimStart line
    rw [front, List.getLast?_append] at last
    rw [whole, List.getLast?_append]
    cases stop : (trimStart line).getLast? with
    | none =>
        rw [stop, Option.none_or] at last
        exact absurd last (noMargin margin)
    | some c => rwa [stop, Option.some_or] at last

theorem isLine_placeLine {row : Row} (line : row.IsLine) (tabSize : Nat)
    (incoming outgoing : Mode) (level : Nat) :
    Row.IsLine ⟨placeLine tabSize incoming outgoing level row.content, row.ending⟩ where
  lineFeed_notMem member := (mem_placeLine member).elim (by decide) line.lineFeed_notMem
  hasReturn last := line.hasReturn (getLast?_placeLine last)

theorem isLine_refilled_indentFrom {rows : List Row} (lines : ∀ row ∈ rows, row.IsLine)
    (tabSize : Nat) (mode : Mode) (depth : Nat) :
    ∀ row ∈ refilled rows (indentFrom tabSize mode depth (rows.map Row.content)), row.IsLine := by
  induction rows generalizing mode depth with
  | nil => simp [refilled]
  | cons first later ih =>
      obtain ⟨firstLine, laterLines⟩ := List.forall_mem_cons.mp lines
      simp only [List.map_cons, indentFrom, refilled]
      exact List.forall_mem_cons.mpr ⟨isLine_placeLine firstLine _ _ _ _, ih laterLines _ _⟩

/-- The edits of the basic formatter are accepted. They leave the indented lines, but a last line
that was blank and not terminated is gone. -/
theorem apply_indent (tabSize : Nat) (buffer : Buffer) :
    ∃ after, buffer.apply (lineEdits buffer.lines (indent tabSize buffer.lines)) = .ok after ∧
      (after.lines = indent tabSize buffer.lines ∨
        buffer.text.toList.getLast? ≠ some '\n' ∧
          (indent tabSize buffer.lines).getLast? = some [] ∧
          after.lines = (indent tabSize buffer.lines).dropLast) := by
  let rows := rowsOf buffer.text.toList
  have arranged : Arranged rows := arranged_rowsOf buffer.text.toList
  have contents : buffer.lines = rows.map Row.content := lines_eq_content buffer.text.toList
  have paired : rows.length = (indent tabSize (rows.map Row.content)).length := by simp [indent]
  have fits := isLine_refilled_indentFrom arranged.isLine tabSize .code 0
  have accepted := editText_refilled arranged paired
  have left := lines_refilled arranged paired fits
  rw [show rowsText rows = buffer.text.toList from rowsText_rowsOf _] at accepted left
  refine ⟨_, Buffer.apply_ok_iff.mpr ⟨_, by rw [contents]; exact accepted, rfl⟩, ?_⟩
  rw [contents]
  simpa [Buffer.lines] using left

/-- Nothing is left to be moved. -/
theorem indent_lines_of_apply {tabSize : Nat} {buffer after : Buffer}
    (applied : buffer.apply (lineEdits buffer.lines (indent tabSize buffer.lines)) = .ok after) :
    indent tabSize after.lines = after.lines := by
  obtain ⟨_, same, left⟩ := apply_indent tabSize buffer
  obtain rfl := Except.ok.inj (same.symm.trans applied)
  rcases left with whole | ⟨-, -, shorter⟩
  · rw [whole, indent_indent]
  · rw [shorter, indent_dropLast, indent_indent]

end ConstructorAction.Layout
