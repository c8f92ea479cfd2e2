import ConstructorAction.Document.Position
import ConstructorAction.Text.Lines

namespace ConstructorAction.Layout

open ConstructorAction.Document ConstructorAction.Text

/-!
The edits that turn one list of lines into another: one for each line that differs, and one for the
lines that are added or taken away at the end.
-/

/-- One edit for each line that differs from the one it is paired with. -/
def replacements (line : Nat) : List (List Char) → List (List Char) → List TextEdit
  | old :: current, new :: formatted =>
      let later := replacements (line + 1) current formatted
      if old = new then later
      else ⟨⟨⟨line, 0⟩, ⟨line, old.length⟩⟩, String.ofList new⟩ :: later
  | _, _ => []

/-- The end of the last of some lines; the start of the document if there are none. -/
def endOf (lines : List (List Char)) : Position :=
  match lines.getLast? with
  | none => ⟨0, 0⟩
  | some last => ⟨lines.length - 1, last.length⟩

/-- The edits between two lists of lines. -/
def lineEdits (current formatted : List (List Char)) : List TextEdit :=
  let common := min current.length formatted.length
  let kept := endOf (current.take common)
  replacements 0 current formatted ++
    if common < current.length then [⟨⟨kept, endOf current⟩, ""⟩]
    else if common < formatted.length then
      let extra := joinLines (formatted.drop common)
      [.insertion kept (String.ofList (if common = 0 then extra ++ ['\n'] else '\n' :: extra))]
    else []

end ConstructorAction.Layout
