import ConstructorAction.Document.Host
import ConstructorAction.Proofs.Document.LineIndex

namespace ConstructorAction.Document

open ConstructorAction.Text

/-!
Documents that look up lines and place edits by an index of line starts in bytes, built anew with
every batch. They do what buffers do, step by step (`apply_ofBuffer`), so that the index never is
another one than that of the text: whatever batches were tried before, a document reads and changes
like one that is opened with its text (`indexed_reads_as_fresh`).
-/

/-- A text with the bytes at which its lines start. -/
structure Indexed where
  id : DocumentId
  text : List Char
  lineStarts : List Nat
  version : UInt32 := 0

/-- A slice of a text that ends with its line, without the line feed. -/
def withoutLineFeed (slice : List Char) : List Char :=
  if slice.getLast? = some '\n' then slice.dropLast else slice

def Span.replaceBytes (span : Span) (text : List Char) : List Char :=
  (cutAt span.start text).1 ++ span.newText ++ (cutAt span.stop text).2

namespace Indexed

def new (id : DocumentId) (text : List Char) : Indexed := ⟨id, text, lineStartsOf text, 0⟩

/-- The start of a line and the line, up to the next start or the end of the text. -/
def row? (document : Indexed) (line : Nat) : Option (Nat × List Char) :=
  match document.lineStarts[line]? with
  | none => none
  | some start =>
      let stop := (document.lineStarts[line + 1]?).getD (byteLength document.text)
      let slice := (cutAt (stop - start) (cutAt start document.text).2).1
      some (start, withoutReturn (withoutLineFeed slice))

def lineCount (document : Indexed) : Nat :=
  if document.text = [] then 0
  else if document.text.getLast? = some '\n' then document.lineStarts.length - 1
  else document.lineStarts.length

def line? (document : Indexed) (line : Nat) : Option (List Char) :=
  if document.lineCount ≤ line then none else (document.row? line).map Prod.snd

def offset? (document : Indexed) (position : Position) : Option Nat :=
  match document.row? position.line with
  | none => none
  | some (start, shown) =>
      if position.character = 0 then some start
      else match shown[position.character]? with
        | some _ => some (start + bytesBefore shown position.character)
        | none =>
            if shown.length = position.character then some (start + byteLength shown) else none

def resolve (document : Indexed) (edit : TextEdit) : Except EditRejection Span :=
  match document.offset? edit.range.start with
  | none => .error (.startOutOfRange edit.range.start)
  | some start =>
      match document.offset? edit.range.stop with
      | none => .error (.endOutOfRange edit.range.stop)
      | some stop =>
          if stop < start then .error .endBeforeStart
          else .ok ⟨start, stop, edit.newText.toList⟩

def resolveAll (document : Indexed) : List TextEdit → Except EditRejection (List Span)
  | [] => .ok []
  | edit :: later =>
      match document.resolve edit with
      | .error reason => .error reason
      | .ok span =>
          match document.resolveAll later with
          | .error reason => .error reason
          | .ok spans => .ok (span :: spans)

/-- Puts the spans in from the last to the first, and indexes the text anew. -/
def apply (document : Indexed) (edits : List TextEdit) : Except EditRejection Indexed :=
  match document.resolveAll edits with
  | .error reason => .error reason
  | .ok spans =>
      let spans := spans.mergeSort Span.ordered
      if separated spans then
        let text := spans.foldr Span.replaceBytes document.text
        .ok ⟨document.id, text, lineStartsOf text, document.version + 1⟩
      else .error .overlapping

/-- A batch that is turned down changes nothing. -/
def attempt (document : Indexed) (edits : List TextEdit) : Indexed :=
  match document.apply edits with
  | .error _ => document
  | .ok after => after

/-- A buffer with the index of its text. -/
def ofBuffer (buffer : Buffer) : Indexed :=
  ⟨buffer.id, buffer.text.toList, lineStartsOf buffer.text.toList, buffer.version⟩

end Indexed

def Buffer.attempt (buffer : Buffer) (edits : List TextEdit) : Buffer :=
  match buffer.apply edits with
  | .error _ => buffer
  | .ok after => after

theorem Buffer.id_of_attempts (buffer : Buffer) (batches : List (List TextEdit)) :
    (batches.foldl Buffer.attempt buffer).id = buffer.id := by
  induction batches generalizing buffer with
  | nil => rfl
  | cons edits later ih =>
      rw [List.foldl_cons, ih, Buffer.attempt]
      cases applied : buffer.apply edits with
      | error reason => rfl
      | ok after => exact Buffer.id_of_apply applied

namespace Indexed

variable {buffer : Buffer} {line : Nat} {piece : List Char}

theorem withoutLineFeed_of_notMem (whole : '\n' ∉ piece) : withoutLineFeed piece = piece := by
  unfold withoutLineFeed
  split
  · next last => exact absurd (List.mem_of_getLast? last) whole
  · rfl

theorem row?_ofBuffer {front back : List Char}
    (found : (pieces buffer.text.toList)[line]? = some piece)
    (stands : Stands (pieces buffer.text.toList) 0 line piece front back) :
    (ofBuffer buffer).row? line = some (byteLength front, withoutReturn piece) := by
  have whole : '\n' ∉ piece := lineFeed_notMem_of_mem_pieces (List.mem_of_getElem? found)
  have text : buffer.text.toList = front ++ (piece ++ back) := by
    rw [← joinLines_pieces buffer.text.toList, stands.whole, List.append_assoc]
  have start := stands.start
  rw [Nat.zero_add, ← lineStartsOf_eq] at start
  have behind : (cutAt (byteLength front) buffer.text.toList).2 = piece ++ back := by
    rw [text, cutAt_append]
  have sliced : withoutLineFeed (cutAt
      ((lineStartsOf buffer.text.toList)[line + 1]?.getD (byteLength buffer.text.toList) -
        byteLength front) (piece ++ back)).1 = piece := by
    -- the slice ends with the text, or with the line feed behind the piece
    rcases stands.ends with ⟨rfl, last⟩ | ⟨rest, rfl, next⟩
    · have length : byteLength buffer.text.toList - byteLength front = byteLength piece := by
        rw [text, byteLength_append, byteLength_append, byteLength_nil]
        omega
      rw [lineStartsOf_eq, last, Option.getD_none, length, cutAt_append]
      exact withoutLineFeed_of_notMem whole
    · have feed : piece ++ '\n' :: rest = (piece ++ ['\n']) ++ rest := by simp
      have length : 0 + byteLength front + byteLength piece + 1 - byteLength front =
          byteLength (piece ++ ['\n']) := by
        rw [byteLength_append, show byteLength ['\n'] = 1 from rfl]
        omega
      rw [lineStartsOf_eq, next, Option.getD_some, length, feed, cutAt_append]
      simp [withoutLineFeed]
  unfold row? ofBuffer
  simp only [start, behind, sliced]

theorem row?_ofBuffer_of_length_le (past : (pieces buffer.text.toList).length ≤ line) :
    (ofBuffer buffer).row? line = none := by
  have noStart : (lineStartsOf buffer.text.toList)[line]? = none := by
    rw [lineStartsOf_eq, List.getElem?_eq_none_iff, length_startsOf]
    exact past
  unfold row? ofBuffer
  simp only [noStart]

theorem lineCount_ofBuffer (buffer : Buffer) : (ofBuffer buffer).lineCount = buffer.lineCount := by
  have entries : (lineStartsOf buffer.text.toList).length = (pieces buffer.text.toList).length := by
    rw [lineStartsOf_eq, length_startsOf]
  unfold lineCount ofBuffer Buffer.lineCount Buffer.lines lines
  rw [List.length_map, entries]
  generalize buffer.text.toList = text
  by_cases empty : text = []
  · subst empty
    rfl
  · rw [if_neg empty, dropFinalEmpty]
    by_cases last : text.getLast? = some '\n'
    · rw [if_pos last, if_pos ((getLast?_pieces_eq_nil_iff empty).mpr last), List.length_dropLast]
    · rw [if_neg last, if_neg (mt (getLast?_pieces_eq_nil_iff empty).mp last)]

theorem line?_ofBuffer (buffer : Buffer) (line : Nat) :
    (ofBuffer buffer).line? line = buffer.line? line := by
  unfold line?
  rw [lineCount_ofBuffer]
  by_cases past : buffer.lineCount ≤ line
  · rw [if_pos past, Buffer.line?, List.getElem?_eq_none past]
  · rw [if_neg past]
    have shown := Nat.lt_of_not_le past
    unfold Buffer.lineCount Buffer.lines lines at shown
    rw [List.length_map] at shown
    obtain ⟨piece, found⟩ : ∃ piece,
        (dropFinalEmpty (pieces buffer.text.toList))[line]? = some piece :=
      ⟨_, List.getElem?_eq_getElem shown⟩
    have cut := getElem?_of_dropFinalEmpty found
    obtain ⟨front, back, stands⟩ := exists_stands cut 0
    rw [row?_ofBuffer cut stands, Buffer.line?, Buffer.lines, lines, List.getElem?_map, found]
    rfl

theorem offset?_ofBuffer (buffer : Buffer) (position : Position) :
    (ofBuffer buffer).offset? position =
      (Document.offset? buffer.text.toList position).map (bytesBefore buffer.text.toList) := by
  unfold offset? Document.offset?
  cases found : (pieces buffer.text.toList)[position.line]? with
  | none =>
      rw [row?_ofBuffer_of_length_le (List.getElem?_eq_none_iff.mp found)]
      rfl
  | some piece =>
      obtain ⟨front, back, stands⟩ := exists_stands found 0
      have bytes (character : Nat) (inside : character ≤ (withoutReturn piece).length) :
          bytesBefore buffer.text.toList (front.length + character) =
            byteLength front + bytesBefore (withoutReturn piece) character := by
        have counted := stands.bytesBefore inside
        rwa [joinLines_pieces] at counted
      rw [row?_ofBuffer found stands]
      simp only [stands.before]
      generalize withoutReturn piece = content at bytes
      obtain ⟨line, character⟩ := position
      dsimp only
      rcases Nat.lt_trichotomy character content.length with inside | rfl | outside
      · rw [if_pos (Nat.le_of_lt inside), Option.map_some, bytes character (Nat.le_of_lt inside),
          List.getElem?_eq_getElem inside]
        split
        · next first => simp [first, bytesBefore]
        · rfl
      · rw [if_pos (Nat.le_refl _), Option.map_some, bytes content.length (Nat.le_refl _),
          List.getElem?_eq_none (Nat.le_refl _), if_pos rfl]
        split
        · next empty => simp [List.length_eq_zero_iff.mp empty, bytesBefore]
        · rw [bytesBefore, List.take_length]
      · have apart : ¬ character = 0 := by omega
        have differs : ¬ content.length = character := by omega
        rw [if_neg (Nat.not_le_of_lt outside), if_neg apart,
          List.getElem?_eq_none (Nat.le_of_lt outside), if_neg differs]
        rfl

end Indexed

def Span.inBytes (text : List Char) (span : Span) : Span :=
  ⟨bytesBefore text span.start, bytesBefore text span.stop, span.newText⟩

/-- A span that is directed and in a text. -/
def Span.Within (text : List Char) (span : Span) : Prop :=
  span.start ≤ span.stop ∧ span.stop ≤ text.length

theorem Span.ordered_inBytes {text : List Char} {left right : Span} (leftWithin : left.Within text)
    (rightWithin : right.Within text) :
    (left.inBytes text).ordered (right.inBytes text) = left.ordered right := by
  obtain ⟨leftDirected, leftInside⟩ := leftWithin
  obtain ⟨rightDirected, rightInside⟩ := rightWithin
  have startLeft : left.start ≤ text.length := Nat.le_trans leftDirected leftInside
  have startRight : right.start ≤ text.length := Nat.le_trans rightDirected rightInside
  have starts := bytesBefore_lt_iff startLeft startRight
  have startsBack := bytesBefore_lt_iff startRight startLeft
  have stops := bytesBefore_lt_iff rightInside leftInside
  rw [Bool.eq_iff_iff, Span.ordered_iff, Span.ordered_iff]
  simp only [Span.inBytes]
  omega

theorem separated_inBytes {text : List Char} {spans : List Span}
    (within : ∀ span ∈ spans, span.Within text) :
    separated (spans.map (Span.inBytes text)) = separated spans := by
  induction spans with
  | nil => rfl
  | cons left later ih =>
      have rest := ih fun span member => within span (List.mem_cons_of_mem left member)
      cases later with
      | nil => rfl
      | cons right later =>
          have ofLeft := within left List.mem_cons_self
          have ofRight := within right (by simp)
          have startInside := Nat.le_trans ofRight.1 ofRight.2
          have between := bytesBefore_lt_iff startInside ofLeft.2
          have touching : bytesBefore text left.stop ≤ bytesBefore text right.start ↔
              left.stop ≤ right.start := by omega
          rw [List.map_cons, List.map_cons, separated, separated, ← List.map_cons, rest]
          exact congrArg (· && separated (right :: later)) (decide_eq_decide.mpr touching)

/-- What is put in behind an offset does not change the text in front of it. -/
theorem take_foldr_replaceIn {text : List Char} {spans : List Span} {reach : Nat}
    (inside : reach ≤ text.length) (behind : ∀ span ∈ spans, reach ≤ span.start) :
    (spans.foldr Span.replaceIn text).take reach = text.take reach := by
  induction spans with
  | nil => rfl
  | cons span later ih =>
      obtain ⟨first, others⟩ := List.forall_mem_cons.mp behind
      have rest := ih others
      have long := congrArg List.length rest
      rw [List.length_take, List.length_take] at long
      rw [List.foldr_cons, Span.replaceIn, List.append_assoc, List.take_append_of_le_length,
        List.take_take, Nat.min_eq_left first, rest]
      rw [List.length_take]
      omega

theorem foldr_replaceBytes {text : List Char} {spans : List Span}
    (following : spans.Pairwise Span.Precedes) (within : ∀ span ∈ spans, span.Within text) :
    (spans.map (Span.inBytes text)).foldr Span.replaceBytes text =
      spans.foldr Span.replaceIn text := by
  induction spans with
  | nil => rfl
  | cons span later ih =>
      obtain ⟨first, others⟩ := List.forall_mem_cons.mp within
      have behind : ∀ other ∈ later, span.stop ≤ other.start :=
        fun other member => List.rel_of_pairwise_cons following member
      -- what was put in behind the span has left its bytes where they were
      have keptStop := take_foldr_replaceIn first.2 behind
      have keptStart := take_foldr_replaceIn (Nat.le_trans first.1 first.2)
        fun other member => Nat.le_trans first.1 (behind other member)
      rw [List.map_cons, List.foldr_cons, List.foldr_cons, ih following.of_cons others]
      simp only [Span.replaceBytes, Span.inBytes, cutAt_bytesBefore keptStart,
        cutAt_bytesBefore keptStop, Span.replaceIn]

namespace Indexed

theorem resolve_ofBuffer (buffer : Buffer) (edit : TextEdit) :
    (ofBuffer buffer).resolve edit =
      (edit.resolve buffer.text.toList).map (Span.inBytes buffer.text.toList) := by
  unfold resolve TextEdit.resolve
  rw [offset?_ofBuffer, offset?_ofBuffer]
  cases foundStart : Document.offset? buffer.text.toList edit.range.start with
  | none => rfl
  | some start =>
      cases foundStop : Document.offset? buffer.text.toList edit.range.stop with
      | none => rfl
      | some stop =>
          have order := bytesBefore_lt_iff (offset?_le foundStop) (offset?_le foundStart)
          dsimp only [Option.map_some]
          by_cases before : stop < start
          · rw [if_pos before, if_pos (order.mpr before)]
            rfl
          · rw [if_neg before, if_neg (mt order.mp before)]
            rfl

theorem resolveAll_ofBuffer (buffer : Buffer) (edits : List TextEdit) :
    (ofBuffer buffer).resolveAll edits =
      (Document.resolveAll buffer.text.toList edits).map
        (List.map (Span.inBytes buffer.text.toList)) := by
  induction edits with
  | nil => rfl
  | cons edit later ih =>
      rw [resolveAll, Document.resolveAll, resolve_ofBuffer, ih]
      cases edit.resolve buffer.text.toList with
      | error reason => rfl
      | ok span =>
          dsimp only [Except.map]
          cases Document.resolveAll buffer.text.toList later with
          | error reason => rfl
          | ok spans => rfl

/-- A document with the index of its text does what its buffer does. -/
theorem apply_ofBuffer (buffer : Buffer) (edits : List TextEdit) :
    (ofBuffer buffer).apply edits = (buffer.apply edits).map ofBuffer := by
  unfold apply Buffer.apply editText
  rw [resolveAll_ofBuffer]
  cases resolved : Document.resolveAll buffer.text.toList edits with
  | error reason => rfl
  | ok spans =>
      obtain ⟨denotes, directed⟩ := resolveAll_eq_ok_iff.mp resolved
      have within : ∀ span ∈ spans.mergeSort Span.ordered, span.Within buffer.text.toList := by
        intro span member
        have inSpans := List.mem_mergeSort.mp member
        exact ⟨directed span inSpans, bounds_of_denotes denotes span inSpans⟩
      have sorted : (spans.map (Span.inBytes buffer.text.toList)).mergeSort Span.ordered =
          (spans.mergeSort Span.ordered).map (Span.inBytes buffer.text.toList) := by
        refine (List.map_mergeSort fun left leftMember right rightMember => ?_).symm
        exact (Span.ordered_inBytes (within left (List.mem_mergeSort.mpr leftMember))
          (within right (List.mem_mergeSort.mpr rightMember))).symm
      dsimp only [Except.map]
      rw [sorted, separated_inBytes within]
      by_cases apart : separated (spans.mergeSort Span.ordered) = true
      · have following := (separated_iff fun span member => (within span member).1).mp apart
        have text : ((spans.mergeSort Span.ordered).map
            (Span.inBytes buffer.text.toList)).foldr Span.replaceBytes buffer.text.toList =
              splice 0 buffer.text.toList (spans.mergeSort Span.ordered) := by
          rw [foldr_replaceBytes following within, splice_eq_foldr_replaceIn following within]
        rw [if_pos apart, if_pos apart]
        simp only [ofBuffer, text, String.toList_ofList]
      · rw [if_neg apart, if_neg apart]

theorem attempt_ofBuffer (buffer : Buffer) (edits : List TextEdit) :
    (ofBuffer buffer).attempt edits = ofBuffer (buffer.attempt edits) := by
  unfold attempt Buffer.attempt
  rw [apply_ofBuffer]
  cases buffer.apply edits <;> rfl

theorem foldl_attempt_ofBuffer (buffer : Buffer) (batches : List (List TextEdit)) :
    batches.foldl attempt (ofBuffer buffer) = ofBuffer (batches.foldl Buffer.attempt buffer) := by
  induction batches generalizing buffer with
  | nil => rfl
  | cons edits later ih => rw [List.foldl_cons, List.foldl_cons, attempt_ofBuffer, ih]

/-- All of a document but its version. -/
def content (document : Indexed) : DocumentId × List Char × List Nat :=
  (document.id, document.text, document.lineStarts)

variable {left right : Indexed}

theorem resolveAll_content (same : left.content = right.content) (edits : List TextEdit) :
    left.resolveAll edits = right.resolveAll edits := by
  obtain ⟨id, text, lineStarts, version⟩ := left
  obtain ⟨_, _, _, otherVersion⟩ := right
  cases same
  induction edits with
  | nil => rfl
  | cons edit later ih =>
      rw [resolveAll, resolveAll, ih]
      rfl

theorem apply_content (same : left.content = right.content) (edits : List TextEdit) :
    (left.apply edits).map content = (right.apply edits).map content := by
  have spans := resolveAll_content same edits
  obtain ⟨id, text, lineStarts, version⟩ := left
  obtain ⟨_, _, _, otherVersion⟩ := right
  cases same
  unfold apply
  rw [spans]
  cases resolveAll ⟨id, text, lineStarts, otherVersion⟩ edits with
  | error reason => rfl
  | ok spans =>
      dsimp only
      split <;> rfl

theorem attempt_content (same : left.content = right.content) (edits : List TextEdit) :
    (left.attempt edits).content = (right.attempt edits).content := by
  have applied := apply_content same edits
  unfold attempt
  cases onLeft : left.apply edits with
  | error reason =>
      cases onRight : right.apply edits with
      | error other => exact same
      | ok after =>
          rw [onLeft, onRight] at applied
          cases applied
  | ok after =>
      cases onRight : right.apply edits with
      | error other =>
          rw [onLeft, onRight] at applied
          cases applied
      | ok other =>
          rw [onLeft, onRight] at applied
          exact Except.ok.inj applied

theorem foldl_attempt_content (same : left.content = right.content)
    (batches : List (List TextEdit)) :
    (batches.foldl attempt left).content = (batches.foldl attempt right).content := by
  induction batches generalizing left right with
  | nil => exact same
  | cons edits later ih => exact ih (attempt_content same edits)

end Indexed

/-- Whatever batches were tried on a document, those that were turned down included, it shows the
lines of its text, and reads and changes like a document that is opened with the text. -/
theorem indexed_reads_as_fresh (id : DocumentId) (text : String)
    (batches : List (List TextEdit)) :
    let buffer := batches.foldl Buffer.attempt { id, text }
    let document := batches.foldl Indexed.attempt (Indexed.new id text.toList)
    let fresh := Indexed.new id document.text
    let cut := document.text.splitOn '\n'
    let shown := if cut.getLast? = some [] then cut.dropLast else cut
    let lines := shown.map fun piece =>
      if piece.getLast? = some '\r' then piece.dropLast else piece
    document = Indexed.ofBuffer buffer ∧
      (document.lineCount = lines.length ∧ document.lineCount = fresh.lineCount ∧
        document.lineCount = buffer.lineCount) ∧
      (∀ line, document.line? line = lines[line]? ∧ document.line? line = fresh.line? line ∧
        document.line? line = buffer.line? line ∧
        (document.line? line = none ↔ document.lineCount ≤ line)) ∧
      ∀ (further : List (List TextEdit)) (edits : List TextEdit),
        ((further.foldl Indexed.attempt document).apply edits).map Indexed.content =
          ((further.foldl Indexed.attempt fresh).apply edits).map Indexed.content := by
  intro buffer document fresh cut shown lines
  have split : cut = pieces document.text := (pieces_eq_splitOn document.text).symm
  have asLines : lines = Text.lines document.text := by
    unfold lines shown
    rw [split]
    rfl
  have opened : Indexed.new id text.toList = Indexed.ofBuffer { id, text } := rfl
  have same : document = Indexed.ofBuffer buffer := by
    change batches.foldl Indexed.attempt (Indexed.new id text.toList) = _
    rw [opened, Indexed.foldl_attempt_ofBuffer]
  have named : buffer.id = id := Buffer.id_of_attempts { id, text } batches
  clear_value lines shown cut document buffer
  subst asLines same named
  have reopened : fresh = Indexed.ofBuffer { id := buffer.id, text := buffer.text } := rfl
  have count : (Indexed.ofBuffer buffer).lineCount = buffer.lines.length :=
    Indexed.lineCount_ofBuffer buffer
  have view (line : Nat) : (Indexed.ofBuffer buffer).line? line = buffer.lines[line]? :=
    Indexed.line?_ofBuffer buffer line
  refine ⟨rfl, ⟨count, ?_, Indexed.lineCount_ofBuffer buffer⟩, fun line => ⟨view line, ?_,
    Indexed.line?_ofBuffer buffer line, ?_⟩, fun further edits => ?_⟩
  · rw [count, reopened, Indexed.lineCount_ofBuffer]
    rfl
  · rw [view, reopened, Indexed.line?_ofBuffer]
    rfl
  · rw [view, count, List.getElem?_eq_none_iff]
  · have alike : (Indexed.ofBuffer buffer).content = fresh.content := rfl
    exact Indexed.apply_content (Indexed.foldl_attempt_content alike further) edits

/-- One batch is turned down, and one puts a carriage return in front of another. -/
theorem indexed_reads_as_fresh_of_carriage_returns :
    let batches : List (List TextEdit) := [[.insertion ⟨2, 0⟩ "x"], [.insertion ⟨1, 1⟩ "\r"]]
    let document := batches.foldl Indexed.attempt (Indexed.new "a.cs" "é\r\nb\r".toList)
    document.text = "é\r\nb\r\r".toList ∧ document.lineStarts = [0, 4] ∧
      document.line? 0 = some ['é'] ∧ document.line? 1 = some ['b', '\r'] ∧
      document.line? 2 = none := by
  intro batches document
  have text : document.text = "é\r\nb\r\r".toList := by decide +kernel
  have starts : document.lineStarts = [0, 4] := by decide +kernel
  obtain ⟨-, -, view, -⟩ := indexed_reads_as_fresh "a.cs" "é\r\nb\r" batches
  have shown (line : Nat) : document.line? line = [['é'], ['b', '\r']][line]? := by
    refine (view line).1.trans ?_
    rw [text]
    rfl
  exact ⟨text, starts, shown 0, shown 1, shown 2⟩

end ConstructorAction.Document
