import ConstructorAction.Layout.Formatter
import ConstructorAction.Proofs.Layout.Reindent
import ConstructorAction.Proofs.Text.Utf8

namespace ConstructorAction.Layout

open ConstructorAction.Document ConstructorAction.Text ConstructorAction.Tools

/-!
A document that comes back from an external program as it was sent. Its lines are read as they were
written, except that a carriage return at the end of a line is taken for a part of the line feed
that was put behind it (`outputLines_joinLines`).
-/

/-- The program succeeds on an input and writes what it has read. -/
def Echoes (launch : Launcher) (command : FormatterCommand) (input : List UInt8) : Prop :=
  ∃ finished, launch command.program command.arguments input = .ok finished ∧
    finished.status.isSuccess = true ∧ finished.stdout = input

variable {launch : Launcher} {command : FormatterCommand} {buffer : Buffer}

theorem edits_of_echoes (visible : ∃ c ∈ buffer.text.toList, isBlank c = false)
    (echoes : Echoes launch command (toUtf8 (formatterInput buffer))) :
    (Formatter.external launch command).edits buffer =
      .ok (lineEdits buffer.lines (buffer.lines.map withoutReturn)) := by
  obtain ⟨c, member, seen⟩ := visible
  have apart (other : Char) (blank : isBlank other = true) : c ≠ other :=
    (isBlank_ne blank seen).symm
  obtain ⟨line, shown, inLine⟩ := exists_line_of_mem member (apart _ (by decide))
    (apart _ (by decide))
  have present : buffer.lines ≠ [] := List.ne_nil_of_mem shown
  have someOutput : trim (formatterInput buffer) ≠ [] :=
    trim_ne_nil (List.mem_append_left _ (mem_joinLines shown inLine)) seen
  have output : outputLines (formatterInput buffer) = buffer.lines.map withoutReturn :=
    outputLines_joinLines present fun _ inLines => lineFeed_notMem_of_mem_lines inLines
  obtain ⟨finished, run, success, same⟩ := echoes
  simp [Formatter.external, editsOfRun, run, success, same, ofUtf8Lossy_toUtf8, someOutput, output,
    Except.mapError]

/-- A program that echoes the document has one edit for each line that ends in a carriage return
besides its terminator, and it leaves the document alone if there is no such line. -/
theorem external_of_echoes (launch : Launcher) (command : FormatterCommand) (buffer : Buffer)
    (visible : ∃ c ∈ buffer.text.toList, isBlank c = false)
    (echoes : Echoes launch command (toUtf8 (formatterInput buffer))) :
    let edits := (Formatter.external launch command).edits buffer
    edits = .ok (replacements 0 buffer.lines (buffer.lines.map withoutReturn)) ∧
      (edits = .ok [] ↔ ∀ line ∈ buffer.lines, line.getLast? ≠ some '\r') := by
  intro edits
  have paired : buffer.lines.length = (buffer.lines.map withoutReturn).length :=
    (List.length_map withoutReturn).symm
  have proposed : edits = .ok (replacements 0 buffer.lines (buffer.lines.map withoutReturn)) :=
    (edits_of_echoes visible echoes).trans (congrArg Except.ok (lineEdits_paired paired))
  refine ⟨proposed, ?_⟩
  rw [proposed, Except.ok.injEq, replacements_eq_nil_iff paired, eq_map_withoutReturn_iff]

/-- A carriage return in front of a terminator that has one of its own. -/
theorem external_of_echoes_doubled_return :
    let launch : Launcher := fun _ _ input => .ok ⟨.code 0, input, [], {}⟩
    let command : FormatterCommand := ⟨"cat", []⟩
    let buffer : Buffer := { id := "a.cs", text := "x\r\n\ty\r\r\n \r\n\r\nz" }
    let edits := (Formatter.external launch command).edits buffer
    (∃ c ∈ buffer.text.toList, isBlank c = false) ∧
      Echoes launch command (toUtf8 (formatterInput buffer)) ∧
      edits = .ok (replacements 0 buffer.lines (buffer.lines.map withoutReturn)) ∧
      (edits = .ok [] ↔ ∀ line ∈ buffer.lines, line.getLast? ≠ some '\r') ∧
      edits = .ok [⟨⟨⟨1, 0⟩, ⟨1, 3⟩⟩, "\ty"⟩] := by
  intro launch command buffer edits
  have visible : ∃ c ∈ buffer.text.toList, isBlank c = false :=
    ⟨'x', by decide +kernel, by decide⟩
  have echoes (input : List UInt8) : Echoes launch command input := ⟨_, rfl, rfl, rfl⟩
  have shown := external_of_echoes launch command buffer visible (echoes _)
  refine ⟨visible, echoes _, shown.1, shown.2, shown.1.trans (congrArg Except.ok ?_)⟩
  decide +kernel

end ConstructorAction.Layout
