import ConstructorAction.Proofs.Document.Indexed
import ConstructorAction.Proofs.Text.Utf8

namespace ConstructorAction.Document

open ConstructorAction.Text

/-!
Positions as bytes. The positions of a document are those of its lines (`LineAt`), with one more
line behind the last line feed, and each is the byte behind the lines before it and the characters
before it in its line. The bytes are in the order of the positions (`offsets_embed_positions`), so
that a range is turned down for its direction exactly if its positions are the wrong way round.
-/

theorem exists_lineAt_joinLines {all : List (List Char)} {line : Nat}
    (whole : ∀ piece ∈ all, '\n' ∉ piece) (inside : line < all.length) :
    ∃ front row back, LineAt (joinLines all) line front row back := by
  induction all generalizing line with
  | nil => cases inside
  | cons piece later ih =>
      obtain ⟨clean, others⟩ := List.forall_mem_cons.mp whole
      cases later with
      | nil =>
          obtain rfl : line = 0 := by simpa using inside
          refine ⟨[], openRow piece, [], ?_, rfl, by simp, openRow_isLine clean, fun _ => rfl⟩
          simp [joinLines_singleton, text_openRow]
      | cons next later =>
          cases line with
          | zero =>
              refine ⟨[], closedRow piece, joinLines (next :: later), ?_, rfl, by simp,
                closedRow_isLine clean, fun unclosed => ?_⟩
              · simp [joinLines_cons_cons, text_closedRow]
              · simp [closedRow_isClosed] at unclosed
          | succ line =>
              -- the first piece is one more row in front
              obtain ⟨front, row, back, stands⟩ := ih others (Nat.lt_of_succ_lt_succ inside)
              refine ⟨closedRow piece :: front, row, back, ?_, by simp [stands.count],
                List.forall_mem_cons.mpr ⟨⟨closedRow_isLine clean, closedRow_isClosed piece⟩,
                  stands.above⟩, stands.isLine, stands.last⟩
              rw [joinLines_cons_cons, stands.whole, rowsText_cons, text_closedRow]
              simp

/-- There are as many lines as line feeds and one more. -/
theorem exists_lineAt_iff {text : List Char} {line : Nat} :
    (∃ front row back, LineAt text line front row back) ↔ line ≤ text.count '\n' := by
  have count := length_pieces text
  constructor
  · rintro ⟨front, row, back, stands⟩
    obtain ⟨inside, -⟩ := List.getElem?_eq_some_iff.mp stands.getElem?_pieces
    omega
  · intro inside
    rw [← joinLines_pieces text]
    exact exists_lineAt_joinLines (fun _ member => lineFeed_notMem_of_mem_pieces member) (by omega)

/-- No line is shown behind a line feed at the end, where the line is empty. -/
theorem getD_dropFinalEmpty {all : List (List Char)} {line : Nat} {piece : List Char}
    (found : all[line]? = some piece) : ((dropFinalEmpty all)[line]?).getD [] = piece := by
  cases kept : (dropFinalEmpty all)[line]? with
  | some other => exact Option.some.inj ((getElem?_of_dropFinalEmpty kept).symm.trans found)
  | none =>
      have inside := (List.getElem?_eq_some_iff.mp found).1
      unfold dropFinalEmpty at kept
      split at kept
      · next last =>
          rw [List.getElem?_eq_none_iff, List.length_dropLast] at kept
          obtain rfl : line = all.length - 1 := by omega
          rw [List.getLast?_eq_getElem?] at last
          exact Option.some.inj (last.symm.trans found)
      · cases found.symm.trans kept

namespace LineAt

variable {text back : List Char} {line : Nat} {front : List Row} {row : Row}

theorem getD_lines (stands : LineAt text line front row back) :
    ((lines text)[line]?).getD [] = row.content := by
  have shown := getD_dropFinalEmpty stands.getElem?_pieces
  rw [lines, List.getElem?_map, ← withoutReturn_piece stands.isLine, ← shown]
  cases (dropFinalEmpty (Text.pieces text))[line]? <;> rfl

/-- The text before and behind a position of the line. -/
theorem split (stands : LineAt text line front row back) (character : Nat) :
    text = (rowsText front ++ row.content.take character) ++
      (row.content.drop character ++ row.ending.text ++ back) := by
  rw [stands.whole, Row.text]
  simp only [List.append_assoc]
  rw [← List.append_assoc (row.content.take character), List.take_append_drop]

theorem bytesBefore (stands : LineAt text line front row back) {character : Nat}
    (inside : character ≤ row.content.length) :
    bytesBefore text ((rowsText front).length + character) =
      byteLength (rowsText front ++ row.content.take character) := by
  have length : (rowsText front ++ row.content.take character).length =
      (rowsText front).length + character := by
    rw [List.length_append, List.length_take_of_le inside]
  rw [Document.bytesBefore, stands.split character, ← length, List.take_left]

end LineAt

theorem utf8ByteSize_ofList (text : List Char) :
    (String.ofList text).utf8ByteSize = byteLength text := by
  have bytes := congrArg List.length (toUtf8_toList (String.ofList text))
  rw [String.toList_ofList] at bytes
  exact bytes.symm

/-- Where a text is cut there is a boundary between characters. -/
theorem isValid_byteLength (front back : List Char) :
    (String.Pos.Raw.mk (byteLength front)).IsValid (String.ofList (front ++ back)) := by
  refine String.Pos.Raw.isValid_iff_exists_append.mpr
    ⟨String.ofList front, String.ofList back, String.ofList_append, ?_⟩
  rw [String.Pos.Raw.ext_iff, String.byteIdx_rawEndPos, utf8ByteSize_ofList]

/-- A range whose end stands before its start. -/
def Range.Reversed (range : Range) : Prop := range.stop.Before range.start

namespace Indexed

/-- Both ends of an edit are positions of the document. -/
def Locates (document : Indexed) (edit : TextEdit) : Prop :=
  (document.offset? edit.range.start).isSome ∧ (document.offset? edit.range.stop).isSome

section Positions

variable {buffer : Buffer} {position left right : Position} {offset start stop : Nat}

theorem offset?_of_lineAt {line : Nat} {front : List Row} {row : Row} {back : List Char}
    (stands : LineAt buffer.text.toList line front row back) (character : Nat) :
    (ofBuffer buffer).offset? ⟨line, character⟩ =
      if character ≤ row.content.length then
        some (byteLength (rowsText front ++ row.content.take character))
      else none := by
  rw [offset?_ofBuffer, stands.offset?]
  split
  · next inside => rw [Option.map_some, stands.bytesBefore inside]
  · rfl

theorem offset?_of_count_lt (past : buffer.text.toList.count '\n' < position.line) :
    (ofBuffer buffer).offset? position = none := by
  have count := length_pieces buffer.text.toList
  rw [offset?, row?_ofBuffer_of_length_le (by omega)]

/-- What is in front of a position is the lines before its line, whole, and the characters before it
in its line. -/
theorem offset?_eq_some_iff :
    (ofBuffer buffer).offset? position = some offset ↔
      ∃ front row back, LineAt buffer.text.toList position.line front row back ∧
        position.character ≤ row.content.length ∧
        offset = byteLength (rowsText front ++ row.content.take position.character) := by
  constructor
  · intro found
    by_cases inside : position.line ≤ buffer.text.toList.count '\n'
    · obtain ⟨front, row, back, stands⟩ := exists_lineAt_iff.mpr inside
      rw [offset?_of_lineAt stands, Option.ite_none_right_eq_some, Option.some.injEq] at found
      exact ⟨front, row, back, stands, found.1, found.2.symm⟩
    · rw [offset?_of_count_lt (Nat.lt_of_not_le inside)] at found
      cases found
  · rintro ⟨front, row, back, stands, inside, rfl⟩
    rw [offset?_of_lineAt stands, if_pos inside]

theorem offset?_isSome_iff :
    ((ofBuffer buffer).offset? position).isSome ↔
      position.line ≤ buffer.text.toList.count '\n' ∧
        position.character ≤ (((ofBuffer buffer).line? position.line).getD []).length := by
  by_cases inside : position.line ≤ buffer.text.toList.count '\n'
  · obtain ⟨front, row, back, stands⟩ := exists_lineAt_iff.mpr inside
    rw [offset?_of_lineAt stands, line?_ofBuffer, Buffer.line?, Buffer.lines, stands.getD_lines]
    split <;> simp_all
  · rw [offset?_of_count_lt (Nat.lt_of_not_le inside)]
    simp [inside]

theorem offset?_lt_iff (foundLeft : (ofBuffer buffer).offset? left = some start)
    (foundRight : (ofBuffer buffer).offset? right = some stop) :
    start < stop ↔ left.Before right := by
  rw [offset?_ofBuffer, Option.map_eq_some_iff] at foundLeft foundRight
  obtain ⟨before, characters, rfl⟩ := foundLeft
  obtain ⟨behind, charactersRight, rfl⟩ := foundRight
  rw [bytesBefore_lt_iff (offset?_le characters) (offset?_le charactersRight),
    Document.offset?_lt_iff characters charactersRight]

theorem isValid_of_offset? (found : (ofBuffer buffer).offset? position = some offset) :
    (String.Pos.Raw.mk offset).IsValid (String.ofList buffer.text.toList) := by
  obtain ⟨front, row, back, stands, -, rfl⟩ := offset?_eq_some_iff.mp found
  have valid := isValid_byteLength (rowsText front ++ row.content.take position.character)
    (row.content.drop position.character ++ row.ending.text ++ back)
  rwa [← stands.split] at valid

theorem cutAt_of_offset? {front : List Row} {row : Row} {back : List Char}
    (found : (ofBuffer buffer).offset? position = some offset)
    (stands : LineAt buffer.text.toList position.line front row back) :
    cutAt offset buffer.text.toList =
      (rowsText front ++ row.content.take position.character,
        row.content.drop position.character ++ row.ending.text ++ back) := by
  rw [offset?_of_lineAt stands, Option.ite_none_right_eq_some, Option.some.injEq] at found
  obtain ⟨-, rfl⟩ := found
  conv_lhs => rw [stands.split position.character]
  exact cutAt_append _ _

end Positions

section Reversed

variable {buffer : Buffer} {document : Indexed} {edit : TextEdit} {edits : List TextEdit}
  {reason : EditRejection}

/-- An edit is out of range, or reversed, or in order. -/
theorem resolve_cases (buffer : Buffer) (edit : TextEdit) :
    ¬ (ofBuffer buffer).Locates edit ∧
        ((ofBuffer buffer).resolve edit = .error (.startOutOfRange edit.range.start) ∨
          (ofBuffer buffer).resolve edit = .error (.endOutOfRange edit.range.stop)) ∨
      ((ofBuffer buffer).Locates edit ∧ edit.range.Reversed) ∧
        (ofBuffer buffer).resolve edit = .error .endBeforeStart ∨
      ((ofBuffer buffer).Locates edit ∧ ¬ edit.range.Reversed) ∧
        ∃ span, (ofBuffer buffer).resolve edit = .ok span := by
  unfold resolve Locates Range.Reversed
  cases foundStart : (ofBuffer buffer).offset? edit.range.start with
  | none => simp
  | some start =>
      cases foundStop : (ofBuffer buffer).offset? edit.range.stop with
      | none => simp
      | some stop =>
          rw [← offset?_lt_iff foundStop foundStart]
          by_cases before : stop < start <;> simp [before]

theorem resolve_eq_ok_iff : (∃ span, (ofBuffer buffer).resolve edit = .ok span) ↔
    (ofBuffer buffer).Locates edit ∧ ¬ edit.range.Reversed := by
  rcases resolve_cases buffer edit with
    ⟨outside, refused | refused⟩ | ⟨⟨located, reversed⟩, refused⟩ | ⟨ordered, resolved⟩
  · simp [outside, refused]
  · simp [outside, refused]
  · simp [reversed, refused]
  · exact iff_of_true resolved ordered

theorem resolve_eq_endBeforeStart_iff :
    (ofBuffer buffer).resolve edit = .error .endBeforeStart ↔
      (ofBuffer buffer).Locates edit ∧ edit.range.Reversed := by
  rcases resolve_cases buffer edit with
    ⟨outside, refused | refused⟩ | ⟨reversed, refused⟩ | ⟨⟨located, ordered⟩, span, resolved⟩
  · simp [outside, refused]
  · simp [outside, refused]
  · exact iff_of_true refused reversed
  · simp [ordered, resolved]

theorem resolveAll_cons_eq_error_iff {later : List TextEdit} :
    document.resolveAll (edit :: later) = .error reason ↔
      document.resolve edit = .error reason ∨
        (∃ span, document.resolve edit = .ok span) ∧ document.resolveAll later = .error reason := by
  rw [resolveAll]
  cases document.resolve edit with
  | error other => simp
  | ok span => cases resolveAll document later <;> simp

/-- The first edit that does not resolve is the one that is reported. -/
theorem resolveAll_eq_error_iff : document.resolveAll edits = .error reason ↔
    ∃ front edit back, edits = front ++ edit :: back ∧
      (∀ earlier ∈ front, ∃ span, document.resolve earlier = .ok span) ∧
      document.resolve edit = .error reason := by
  induction edits with
  | nil => simp [resolveAll]
  | cons first later ih =>
      rw [resolveAll_cons_eq_error_iff, ih]
      constructor
      · rintro (turned | ⟨fits, front, edit, back, rfl, ahead, turned⟩)
        · exact ⟨[], first, later, rfl, by simp, turned⟩
        · exact ⟨first :: front, edit, back, rfl, List.forall_mem_cons.mpr ⟨fits, ahead⟩, turned⟩
      · rintro ⟨front, edit, back, cut, ahead, turned⟩
        cases front with
        | nil =>
            cases cut
            exact .inl turned
        | cons earlier front =>
            cases cut
            obtain ⟨fits, others⟩ := List.forall_mem_cons.mp ahead
            exact .inr ⟨fits, front, edit, back, rfl, others, turned⟩

theorem apply_eq_endBeforeStart_iff : document.apply edits = .error .endBeforeStart ↔
    document.resolveAll edits = .error .endBeforeStart := by
  unfold apply
  cases document.resolveAll edits with
  | error reason => simp
  | ok spans =>
      dsimp only
      split <;> simp

end Reversed

end Indexed

theorem EditRejection.message_eq_iff {reason : EditRejection} :
    reason.message = "range end precedes start" ↔ reason = .endBeforeStart := by
  cases reason with
  | startOutOfRange position => simp [EditRejection.message, toString, ← String.toList_inj]
  | endOutOfRange position => simp [EditRejection.message, toString, ← String.toList_inj]
  | endBeforeStart => simp [EditRejection.message]
  | overlapping => simp [EditRejection.message]
  | readOnly => simp [EditRejection.message]

/-- What the positions of a document are, and where they are in its bytes. -/
structure Indexed.Embeds (document : Indexed) : Prop where
  lines {line : Nat} : (∃ front row back, LineAt document.text line front row back) ↔
    line ≤ document.text.count '\n'
  content {line : Nat} {front : List Row} {row : Row} {back : List Char}
    (stands : LineAt document.text line front row back) :
    row.content = (document.line? line).getD []
  resolves {position : Position} : (document.offset? position).isSome ↔
    position.line ≤ document.text.count '\n' ∧
      position.character ≤ ((document.line? position.line).getD []).length
  before {position : Position} {offset : Nat} : document.offset? position = some offset ↔
    ∃ front row back, LineAt document.text position.line front row back ∧
      position.character ≤ row.content.length ∧
      offset = byteLength (rowsText front ++ row.content.take position.character)
  boundary {position : Position} {offset : Nat} (found : document.offset? position = some offset) :
    (String.Pos.Raw.mk offset).IsValid (String.ofList document.text)
  cut {position : Position} {offset : Nat} {front : List Row} {row : Row} {back : List Char}
    (found : document.offset? position = some offset)
    (stands : LineAt document.text position.line front row back) :
    cutAt offset document.text =
      (rowsText front ++ row.content.take position.character,
        row.content.drop position.character ++ row.ending.text ++ back)
  ordered {left right : Position} {start stop : Nat}
    (foundLeft : document.offset? left = some start)
    (foundRight : document.offset? right = some stop) : start < stop ↔ left.Before right
  /-- The first edit that is not in order decides: both of its ends are positions, the wrong way
  round. -/
  reversed {edits : List TextEdit} :
    (∃ reason, document.apply edits = .error reason ∧
      reason.message = "range end precedes start") ↔
    ∃ front edit back, edits = front ++ edit :: back ∧
      (∀ earlier ∈ front, document.Locates earlier ∧ ¬ earlier.range.Reversed) ∧
      document.Locates edit ∧ edit.range.Reversed

theorem Indexed.embeds_ofBuffer (buffer : Buffer) : (ofBuffer buffer).Embeds where
  lines := exists_lineAt_iff
  content {line front row back} stands := by
    rw [line?_ofBuffer, Buffer.line?, Buffer.lines]
    exact stands.getD_lines.symm
  resolves := offset?_isSome_iff
  before := offset?_eq_some_iff
  boundary := isValid_of_offset?
  cut found stands := cutAt_of_offset? found stands
  ordered := offset?_lt_iff
  reversed {edits} := by
    simp only [EditRejection.message_eq_iff, exists_eq_right, apply_eq_endBeforeStart_iff,
      resolveAll_eq_error_iff, resolve_eq_ok_iff, resolve_eq_endBeforeStart_iff]

/-- Whatever batches were tried on a document, its positions are in the order of the bytes that they
stand for. -/
theorem offsets_embed_positions (id : DocumentId) (text : String)
    (batches : List (List TextEdit)) :
    let buffer := batches.foldl Buffer.attempt { id, text }
    let document := batches.foldl Indexed.attempt (Indexed.new id text.toList)
    (document = Indexed.ofBuffer buffer ∧
      (∀ position, document.offset? position =
        (offset? buffer.text.toList position).map (bytesBefore buffer.text.toList)) ∧
      ∀ edits, document.apply edits = (buffer.apply edits).map Indexed.ofBuffer) ∧
    document.Embeds := by
  intro buffer document
  have same : document = Indexed.ofBuffer buffer :=
    Indexed.foldl_attempt_ofBuffer { id, text } batches
  rw [same]
  exact ⟨⟨rfl, Indexed.offset?_ofBuffer buffer, Indexed.apply_ofBuffer buffer⟩,
    Indexed.embeds_ofBuffer buffer⟩

/-- A character of two bytes is put in behind a return and a line feed, and a range that ends before
it starts is turned down. -/
theorem offsets_embed_positions_of_two_bytes :
    let backward : TextEdit := ⟨⟨⟨1, 1⟩, ⟨0, 1⟩⟩, ""⟩
    let document := [[TextEdit.insertion ⟨1, 0⟩ "ü"], [backward]].foldl Indexed.attempt
      (Indexed.new "a.cs" "é\r\nb\n".toList)
    document.text = "é\r\nüb\n".toList ∧
      (document.offset? ⟨2, 0⟩).isSome ∧ ¬ (document.offset? ⟨0, 2⟩).isSome ∧
      (String.Pos.Raw.mk 6).IsValid (String.ofList document.text) ∧
      (∃ start stop, document.offset? ⟨1, 1⟩ = some start ∧ document.offset? ⟨2, 0⟩ = some stop ∧
        start < stop) ∧
      ∃ reason, document.apply [backward] = .error reason ∧
        reason.message = "range end precedes start" := by
  intro backward document
  obtain ⟨-, embeds⟩ := offsets_embed_positions "a.cs" "é\r\nb\n"
    [[TextEdit.insertion ⟨1, 0⟩ "ü"], [backward]]
  have inside : document.offset? ⟨1, 1⟩ = some 6 := by decide +kernel
  have last : document.offset? ⟨2, 0⟩ = some 8 := by decide +kernel
  have located : document.Locates backward := by
    unfold Indexed.Locates
    decide +kernel
  exact ⟨by decide +kernel, embeds.resolves.mpr (by decide +kernel),
    mt embeds.resolves.mp (by decide +kernel), embeds.boundary inside,
    ⟨6, 8, inside, last, (embeds.ordered inside last).mpr (.inl (by decide))⟩,
    embeds.reversed.mpr ⟨[], backward, [], rfl, by simp, located, .inl (by decide)⟩⟩

end ConstructorAction.Document
