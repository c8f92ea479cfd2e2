import ConstructorAction.Layout.Formatter
import ConstructorAction.Proofs.Layout.Reindent
import ConstructorAction.Proofs.Source.Moved

namespace ConstructorAction.Layout

open ConstructorAction.Document ConstructorAction.Source ConstructorAction.Text

/-!
What a document declares after it was indented anew. Rules for lines do not see the blanks that
indentation moves, so that every line has the type it had, and every type its members, line by line
(`basic_keeps_declarations`).
-/

theorem lineFeed_notMem_indentFrom {tabSize : Nat} {mode : Mode} {depth : Nat}
    {lines : List (List Char)} (whole : ∀ line ∈ lines, '\n' ∉ line) :
    ∀ line ∈ indentFrom tabSize mode depth lines, '\n' ∉ line := by
  induction lines generalizing mode depth with
  | nil => simp [indentFrom]
  | cons first later ih =>
      obtain ⟨clean, others⟩ := List.forall_mem_cons.mp whole
      refine List.forall_mem_cons.mpr ⟨fun member => ?_, ih others⟩
      exact (mem_placeLine member).elim (by decide) clean

/-- What blanks at the ends of lines do not change, indentation does not change. -/
theorem map_indent {α : Type} {read : List Char → α}
    (trims : ∀ line, '\n' ∉ line → read (trim line) = read line) (tabSize : Nat)
    {lines : List (List Char)} (whole : ∀ line ∈ lines, '\n' ∉ line) :
    (indent tabSize lines).map read = lines.map read := by
  have through {all : List (List Char)} (clean : ∀ line ∈ all, '\n' ∉ line) :
      all.map read = (all.map trim).map read := by
    rw [List.map_map]
    exact List.map_congr_left fun line member => (trims line (clean line member)).symm
  have indented : ∀ line ∈ indent tabSize lines, '\n' ∉ line := lineFeed_notMem_indentFrom whole
  rw [through indented, map_trim_indent, ← through whole]

theorem follows_indent {lines : List (List Char)} (whole : ∀ line ∈ lines, '\n' ∉ line)
    (tabSize : Nat) (declaration : Nat × List Char) :
    Follows id declaration lines (indent tabSize lines) :=
  follows_of_alike (map_indent (fun _ => declaredType?_trim) tabSize whole)
    (map_indent (fun _ => lineMembers_trim) tabSize whole)

section Documents

variable {tabSize : Nat} {before after : Buffer}

theorem lines_of_indented
    (applied : before.apply (lineEdits before.lines (indent tabSize before.lines)) = .ok after) :
    after.lines = indent tabSize before.lines ∨
      before.text.toList.getLast? ≠ some '\n' ∧
        (indent tabSize before.lines).getLast? = some [] ∧
        after.lines = (indent tabSize before.lines).dropLast := by
  obtain ⟨final, same, lines⟩ := apply_indent tabSize before
  obtain rfl := Except.ok.inj (applied.symm.trans same)
  exact lines

/-- An indented document declares what it declared. -/
theorem follows_of_indented
    (applied : before.apply (lineEdits before.lines (indent tabSize before.lines)) = .ok after)
    (declaration : Nat × List Char) : Follows id declaration before.lines after.lines := by
  have whole : ∀ line ∈ before.lines, '\n' ∉ line := fun _ => lineFeed_notMem_of_mem_lines
  have indented := follows_indent whole tabSize declaration
  rcases lines_of_indented applied with moved | ⟨-, last, shorter⟩
  · rw [moved]
    exact indented
  · obtain ⟨front, form⟩ := List.getLast?_eq_some_iff.mp last
    have dropped : Follows id declaration (front ++ [[]]) front := follows_dropLast silent_nil
    rw [form] at indented
    rw [shorter, form, List.dropLast_concat]
    exact indented.trans dropped

/-- The number of lines stays, but a blank line that no line feed ends is lost. -/
theorem lineCount_of_indented
    (applied : before.apply (lineEdits before.lines (indent tabSize before.lines)) = .ok after) :
    after.lineCount = before.lineCount ∨
      before.text.toList.getLast? ≠ some '\n' ∧ (before.lines.map trim).getLast? = some [] ∧
        after.lineCount + 1 = before.lineCount := by
  have length : (indent tabSize before.lines).length = before.lineCount :=
    length_indentFrom tabSize .code 0 before.lines
  rcases lines_of_indented applied with moved | ⟨unterminated, last, shorter⟩
  · left
    rw [Buffer.lineCount, moved, length]
  · have blank : (before.lines.map trim).getLast? = some [] := by
      rw [← map_trim_indent tabSize, List.getLast?_map, last]
      rfl
    have present : 0 < (indent tabSize before.lines).length := by
      obtain ⟨front, form⟩ := List.getLast?_eq_some_iff.mp last
      simp [form]
    refine .inr ⟨unterminated, blank, ?_⟩
    rw [Buffer.lineCount, shorter, List.length_dropLast]
    omega

end Documents

def endingAt (endLine : Nat) (owner : TypeDeclaration) : TypeDeclaration := { owner with endLine }

/-- An end past the last line makes no difference to what is collected. -/
theorem members_endingAt {lines : List (List Char)} {endLine : Nat}
    (reached : lines.length ≤ endLine) (owner : TypeDeclaration) :
    members lines (endingAt endLine owner) = members lines (endingAt lines.length owner) := by
  refine List.flatMap_congr fun (text, line) member => ?_
  obtain ⟨-, present⟩ := mem_drop_zipIdx_iff.mp member
  have inside : line < (endingAt lines.length owner).endLine :=
    (List.getElem?_eq_some_iff.mp present).1
  have within : line < (endingAt endLine owner).endLine := Nat.lt_of_lt_of_le inside reached
  dsimp only
  rw [if_pos inside, if_pos within]
  rfl

/-- The basic formatter keeps what a document declares. Its edits are accepted, and behind them
every line is in the type of the same name and first line as before, or in none as before; from such
a type the same members are collected, on the same lines, whether it is asked for with its old end
or with the new one. Only the ends of types move, when a blank line that no line feed ends is
lost. -/
theorem basic_keeps_declarations (tabSize : Nat) (before : Buffer) :
    ∃ edits after, (Formatter.basic tabSize).edits before = .ok edits ∧
      before.apply edits = .ok after ∧
      (∀ line, enclosingType? after.lines line =
        (enclosingType? before.lines line).map (endingAt after.lineCount)) ∧
      (∀ line owner, enclosingType? before.lines line = some owner →
        ∀ endLine, after.lineCount ≤ endLine →
          members after.lines (endingAt endLine owner) =
            (members before.lines owner).map fun member =>
              { member with owningType := endingAt after.lineCount member.owningType }) ∧
      (after.lineCount = before.lineCount ∨
        before.text.toList.getLast? ≠ some '\n' ∧ (before.lines.map trim).getLast? = some [] ∧
          after.lineCount + 1 = before.lineCount) := by
  obtain ⟨after, applied, -⟩ := apply_indent tabSize before
  refine ⟨_, after, rfl, applied, fun line => ?_, ?_, lineCount_of_indented applied⟩
  · have declared := (follows_of_indented applied (0, [])).declared
    rw [map_movedDeclaration_id] at declared
    rw [enclosingType?, declared, enclosingType?, Option.map_map]
    rfl
  · intro line owner enclosing endLine reached
    obtain ⟨declaration, -, rfl⟩ := enclosingType?_eq_some_iff.mp enclosing
    have collected := (follows_of_indented applied declaration).collected
    rw [members_endingAt reached]
    exact collected

/-- A blank last line is lost behind a type with an attribute, under terminators of two kinds. -/
theorem basic_keeps_declarations_of_blank_end :
    let before : Buffer :=
      { id := "a.cs", text := "\r\n [X] class A\r\n\x7b\n\t  int _x; \r\n\x7d\n  " }
    let owner : TypeDeclaration := ⟨"A", 1, 6⟩
    enclosingType? before.lines 9 = some owner ∧
      ∃ edits after, (Formatter.basic 4).edits before = .ok edits ∧
        before.apply edits = .ok after ∧
        enclosingType? after.lines 9 = some (endingAt after.lineCount owner) ∧
        members after.lines owner =
          [⟨endingAt after.lineCount owner, "int", "_x", 3, .field⟩] := by
  intro before owner
  have enclosing : enclosingType? before.lines 9 = some owner := by decide +kernel
  have declared : members before.lines owner = [⟨owner, "int", "_x", 3, .field⟩] := by
    decide +kernel
  obtain ⟨edits, after, proposed, applied, types, collected, count⟩ :=
    basic_keeps_declarations 4 before
  have atMost : after.lineCount ≤ 6 := by
    have lines : before.lineCount = 6 := by decide +kernel
    omega
  refine ⟨enclosing, edits, after, proposed, applied, ?_, ?_⟩
  · rw [types, enclosing]
    rfl
  · have found := collected 9 owner enclosing 6 atMost
    rw [declared] at found
    exact found

end ConstructorAction.Layout
