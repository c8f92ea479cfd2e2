import ConstructorAction.Document.Position
import ConstructorAction.Text.Lines

namespace ConstructorAction.Document

open ConstructorAction.Text

/-!
A document held in memory. Its text is seen as lines (`lines`), and a batch of edits is applied as
one: every position is read in the text before the batch, and a batch that does not fit changes
nothing. The version is a number of 32 bits: behind the last one it starts anew with zero.
-/

structure Buffer where
  id : DocumentId
  text : String
  /-- The number of batches applied since the document was opened, counted modulo 2^32. -/
  version : UInt32 := 0
  deriving DecidableEq, Repr, Inhabited

/-- The lines of the text, without their terminators. -/
def Buffer.lines (buffer : Buffer) : List (List Char) :=
  Text.lines buffer.text.toList

def Buffer.lineCount (buffer : Buffer) : Nat := buffer.lines.length

/-- A line without its terminator; none past the end. -/
def Buffer.line? (buffer : Buffer) (line : Nat) : Option (List Char) :=
  buffer.lines[line]?

/-- The number of characters before a position of a text, if the position is in the text. A line
has as many positions as characters and one more; a text that ends in a line feed has the
position after it. -/
def offset? (text : List Char) (position : Position) : Option Nat :=
  match (pieces text)[position.line]? with
  | none => none
  | some piece =>
      if position.character ≤ (withoutReturn piece).length then
        some (((pieces text).take position.line).foldr
          (fun piece count => piece.length + 1 + count) position.character)
      else none

/-- Why a batch of edits was turned down. -/
inductive EditRejection where
  | startOutOfRange (position : Position)
  | endOutOfRange (position : Position)
  | endBeforeStart
  | overlapping
  | readOnly
  deriving DecidableEq, Repr

def EditRejection.message : EditRejection → String
  | .startOutOfRange position => s!"start {position.describe} out of range"
  | .endOutOfRange position => s!"end {position.describe} out of range"
  | .endBeforeStart => "range end precedes start"
  | .overlapping => "overlapping edits"
  | .readOnly => "read-only"

/-- An edit with its range given in offsets. -/
structure Span where
  start : Nat
  stop : Nat
  newText : List Char
  deriving DecidableEq, Repr

/-- Spans are applied in the order of their starts, then of their ends. -/
def Span.ordered (left right : Span) : Bool :=
  left.start < right.start || (left.start == right.start && left.stop ≤ right.stop)

def TextEdit.resolve (text : List Char) (edit : TextEdit) : Except EditRejection Span :=
  match offset? text edit.range.start with
  | none => .error (.startOutOfRange edit.range.start)
  | some start =>
      match offset? text edit.range.stop with
      | none => .error (.endOutOfRange edit.range.stop)
      | some stop =>
          if stop < start then .error .endBeforeStart
          else .ok ⟨start, stop, edit.newText.toList⟩

/-- The first edit that does not resolve decides the reason. -/
def resolveAll (text : List Char) : List TextEdit → Except EditRejection (List Span)
  | [] => .ok []
  | edit :: later =>
      match edit.resolve text with
      | .error reason => .error reason
      | .ok span =>
          match resolveAll text later with
          | .error reason => .error reason
          | .ok spans => .ok (span :: spans)

/-- Whether each span ends before or where the next one starts. -/
def separated : List Span → Bool
  | [] | [_] => true
  | left :: right :: later => left.stop ≤ right.start && separated (right :: later)

/-- Puts the new texts of ordered, separated spans in place; `text` is what follows the first
`passed` characters. -/
def splice (passed : Nat) (text : List Char) : List Span → List Char
  | [] => text
  | span :: later =>
      text.take (span.start - passed) ++ span.newText ++
        splice span.stop (text.drop (span.stop - passed)) later

/-- The text after a batch. The sort is stable, so insertions at one place keep the order of the
batch. -/
def editText (text : List Char) (edits : List TextEdit) : Except EditRejection (List Char) :=
  match resolveAll text edits with
  | .error reason => .error reason
  | .ok spans =>
      let spans := spans.mergeSort Span.ordered
      if separated spans then .ok (splice 0 text spans) else .error .overlapping

/-- Applies a batch and counts it in the version. -/
def Buffer.apply (buffer : Buffer) (edits : List TextEdit) : Except EditRejection Buffer :=
  match editText buffer.text.toList edits with
  | .error reason => .error reason
  | .ok text => .ok { buffer with text := String.ofList text, version := buffer.version + 1 }

theorem Buffer.apply_ok_iff {buffer after : Buffer} {edits : List TextEdit} :
    buffer.apply edits = .ok after ↔
      ∃ text, editText buffer.text.toList edits = .ok text ∧
        after = { buffer with text := String.ofList text, version := buffer.version + 1 } := by
  unfold Buffer.apply
  cases editText buffer.text.toList edits with
  | error reason => simp
  | ok text => simp [eq_comm]

/-- The last version is followed by the first. -/
example : (Buffer.apply ⟨"a.cs", "", 4294967295⟩ []).toOption = some ⟨"a.cs", "", 0⟩ := by
  decide +kernel

@[simp] theorem editText_nil (text : List Char) : editText text [] = .ok text := by
  simp [editText, resolveAll, separated, splice]

end ConstructorAction.Document
