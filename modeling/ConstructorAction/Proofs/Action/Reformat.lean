import ConstructorAction.Action.Provider
import ConstructorAction.Proofs.Layout.Reindent

namespace ConstructorAction.Action

open ConstructorAction.Document ConstructorAction.Layout

/-!
Reformatting by the basic formatter. On a document in memory it never fails, and done again it has
nothing left to do (`reformat_twice`).
-/

variable {workspace : Workspace} {document : DocumentId} {buffer : Buffer} {tabSize : Nat}

theorem find?_put_self {after : Buffer} (named : after.id = document) (workspace : Workspace) :
    (workspace.put after).find? document = some after := by
  rw [Workspace.find?_put, if_pos named.symm]

theorem reformat_of_no_edits (opened : workspace.find? document = some buffer)
    (none : lineEdits buffer.lines (indent tabSize buffer.lines) = []) :
    reformat workspace (.basic tabSize) document = (.unchanged, workspace) := by
  have found : buffer? workspace document = some buffer := opened
  have proposed : (Formatter.basic tabSize).edits buffer = .ok [] := congrArg Except.ok none
  simp only [reformat, found, proposed]

/-- The basic formatter leaves lines alone that are in their places. -/
theorem reformat_of_indented (opened : workspace.find? document = some buffer)
    (indented : indent tabSize buffer.lines = buffer.lines) :
    reformat workspace (.basic tabSize) document = (.unchanged, workspace) := by
  refine reformat_of_no_edits opened ?_
  rw [indented, lineEdits_self]

theorem reformat_of_edits (opened : workspace.find? document = some buffer)
    (present : lineEdits buffer.lines (indent tabSize buffer.lines) ≠ []) :
    ∃ after count, buffer.apply (lineEdits buffer.lines (indent tabSize buffer.lines)) = .ok after ∧
      reformat workspace (.basic tabSize) document = (.applied count, workspace.put after) := by
  have found : buffer? workspace document = some buffer := opened
  obtain ⟨after, landed, -⟩ := apply_indent tabSize buffer
  obtain ⟨edit, later, edits⟩ := List.exists_cons_of_ne_nil present
  have proposed : (Formatter.basic tabSize).edits buffer = .ok (edit :: later) :=
    congrArg Except.ok edits
  have accepted :
      applyEdits workspace document (edit :: later) = (.ok (), workspace.put after) := by
    rw [edits] at landed
    simp only [applyEdits, Workspace.applyEdits, opened, landed]
  refine ⟨after, (edit :: later).length, landed, ?_⟩
  simp only [reformat, found, proposed, accepted]

/-- An open document is laid out anew without failure, and laid out twice it is as laid out once:
nothing of the documents changes, texts and versions included. -/
theorem reformat_twice (workspace : Workspace) (document : DocumentId) (buffer : Buffer)
    (tabSize : Nat) (opened : workspace.find? document = some buffer) :
    let first := reformat workspace (.basic tabSize) document
    (∀ reason, first.1 ≠ .failed reason) ∧
      reformat first.2 (.basic tabSize) document = (.unchanged, first.2) := by
  intro first
  by_cases none : lineEdits buffer.lines (indent tabSize buffer.lines) = []
  · have unchanged : first = (.unchanged, workspace) := reformat_of_no_edits opened none
    rw [unchanged]
    exact ⟨nofun, reformat_of_no_edits opened none⟩
  · obtain ⟨after, count, landed, applied⟩ := reformat_of_edits opened none
    have named : after.id = document :=
      (Buffer.id_of_apply landed).trans (Workspace.id_of_find? opened)
    rw [show first = (.applied count, workspace.put after) from applied]
    refine ⟨nofun, ?_⟩
    exact reformat_of_indented (find?_put_self named workspace) (indent_lines_of_apply landed)

/-- Strings, a comment without an end and a blank last line, under two kinds of line endings. -/
theorem reformat_twice_of_open_comment :
    let text := "  x = $@\"\x7b\r\n  \"\" \"; \x7b \r\n y(\"\"\" \" \"\"\")\x7d /* \n  z\x7d\n  "
    let buffer : Buffer := { id := "a.cs", text }
    let workspace : Workspace := ⟨[buffer]⟩
    let first := reformat workspace (.basic 4) "a.cs"
    workspace.find? "a.cs" = some buffer ∧ (∀ reason, first.1 ≠ .failed reason) ∧
      reformat first.2 (.basic 4) "a.cs" = (.unchanged, first.2) := by
  intro text buffer workspace first
  have opened : workspace.find? "a.cs" = some buffer := by decide +kernel
  exact ⟨opened, reformat_twice workspace "a.cs" buffer 4 opened⟩

end ConstructorAction.Action
