import ConstructorAction.Layout.Indent
import ConstructorAction.Proofs.Layout.Scan

namespace ConstructorAction.Layout

open ConstructorAction.Text

/-!
Indentation only moves the blanks at the ends of lines (`trim_placeLine`), so that indented lines
are scanned as before (`scanLine_placeLine`) and stay where they are when they are indented again
(`indent_indent`).
-/

variable {tabSize level : Nat} {outgoing : Mode} {line : List Char}

/-- How a line is moved: it stays, it loses blanks at the end, or it is code and gets a margin. -/
theorem placeLine_cases (tabSize : Nat) (incoming outgoing : Mode) (level : Nat)
    (line : List Char) :
    placeLine tabSize incoming outgoing level line = line ∨
      placeLine tabSize incoming outgoing level line = trimEnd line ∨
      incoming = .code ∧ ∃ margin,
        placeLine tabSize incoming outgoing level line = List.replicate margin ' ' ++ trim line ∨
          placeLine tabSize incoming outgoing level line =
            List.replicate margin ' ' ++ trimStart line := by
  unfold placeLine
  cases incoming with
  | verbatim => exact .inl rfl
  | raw quotes => exact .inl rfl
  | blockComment =>
      dsimp only
      split
      · exact .inl rfl
      · exact .inr (.inl rfl)
  | code =>
      refine .inr (.inr ⟨rfl, ?_⟩)
      dsimp only
      split
      · next empty => exact ⟨0, .inl (by simpa using (List.isEmpty_iff.mp empty).symm)⟩
      · refine ⟨level * tabSize, ?_⟩
        split
        · exact .inr rfl
        · exact .inl rfl

/-- What stands between the blanks of a line is kept. -/
theorem trim_placeLine (tabSize : Nat) (incoming outgoing : Mode) (level : Nat)
    (line : List Char) : trim (placeLine tabSize incoming outgoing level line) = trim line := by
  rcases placeLine_cases tabSize incoming outgoing level line with
    same | ends | ⟨-, margin, whole | front⟩
  · rw [same]
  · rw [ends, trim_trimEnd]
  · rw [whole, trim_append_left (.replicate margin), trim_trim]
  · rw [front, trim_append_left (.replicate margin), trim_trimStart]

theorem scanLine_trimEnd (mode : Mode) (line : List Char) :
    scanLine mode (trimEnd line) = scanLine mode line := by
  obtain ⟨blanks, blank, same⟩ := exists_trimEnd line
  rw [← scanLine_append_right blank, ← same]

theorem scanLine_trimStart (line : List Char) :
    scanLine .code (trimStart line) = scanLine .code line := by
  obtain ⟨blanks, blank, same⟩ := exists_trimStart line
  rw [← scanLine_append_left blank, ← same]

theorem scanLine_placeLine (tabSize : Nat) (mode outgoing : Mode) (level : Nat)
    (line : List Char) :
    scanLine mode (placeLine tabSize mode outgoing level line) = scanLine mode line := by
  rcases placeLine_cases tabSize mode outgoing level line with
    same | ends | ⟨rfl, margin, whole | front⟩
  · rw [same]
  · rw [ends, scanLine_trimEnd]
  · rw [whole, scanLine_append_left (.replicate margin), trim, scanLine_trimEnd,
      scanLine_trimStart]
  · rw [front, scanLine_append_left (.replicate margin), scanLine_trimStart]

theorem placeLine_of_trim_eq_nil (empty : trim line = []) :
    placeLine tabSize .code outgoing level line = [] := by
  simp only [placeLine, empty, List.isEmpty_nil, if_true]

/-- A line that was moved is in its place. -/
theorem placeLine_placeLine (tabSize : Nat) (incoming outgoing : Mode) (level : Nat)
    (line : List Char) :
    placeLine tabSize incoming outgoing level
        (placeLine tabSize incoming outgoing level line) =
      placeLine tabSize incoming outgoing level line := by
  cases incoming with
  | verbatim => rfl
  | raw quotes => rfl
  | blockComment =>
      cases inString : outgoing.inString <;> simp [placeLine, inString, trimEnd_trimEnd]
  | code =>
      have margin := Blanks.replicate (level * tabSize)
      by_cases empty : trim line = []
      · rw [placeLine_of_trim_eq_nil empty, placeLine_of_trim_eq_nil rfl]
      · cases inString : outgoing.inString with
        | true =>
            have kept := trim_append_left margin (trimStart line)
            simp [placeLine, empty, inString, kept, trim_trimStart, trimStart_append_left margin,
              trimStart_trimStart]
        | false =>
            have kept := trim_append_left margin (trim line)
            simp [placeLine, empty, inString, kept, trim_trim]

theorem indentFrom_indentFrom (tabSize : Nat) (mode : Mode) (depth : Nat)
    (lines : List (List Char)) :
    indentFrom tabSize mode depth (indentFrom tabSize mode depth lines) =
      indentFrom tabSize mode depth lines := by
  induction lines generalizing mode depth with
  | nil => rfl
  | cons line later ih =>
      simp only [indentFrom, scanLine_placeLine, placeLine_placeLine, ih]

/-- Indenting twice is indenting once. -/
theorem indent_indent (tabSize : Nat) (lines : List (List Char)) :
    indent tabSize (indent tabSize lines) = indent tabSize lines :=
  indentFrom_indentFrom tabSize .code 0 lines

/-- Lines are moved with no regard to those behind them. -/
theorem indentFrom_dropLast (tabSize : Nat) (mode : Mode) (depth : Nat)
    (lines : List (List Char)) :
    indentFrom tabSize mode depth lines.dropLast =
      (indentFrom tabSize mode depth lines).dropLast := by
  induction lines generalizing mode depth with
  | nil => rfl
  | cons line later ih =>
      cases later with
      | nil => rfl
      | cons next more =>
          simpa only [indentFrom, List.dropLast_cons_cons, List.cons.injEq, true_and] using ih _ _

theorem indent_dropLast (tabSize : Nat) (lines : List (List Char)) :
    indent tabSize lines.dropLast = (indent tabSize lines).dropLast :=
  indentFrom_dropLast tabSize .code 0 lines

theorem map_trim_indentFrom (tabSize : Nat) (mode : Mode) (depth : Nat)
    (lines : List (List Char)) :
    (indentFrom tabSize mode depth lines).map trim = lines.map trim := by
  induction lines generalizing mode depth with
  | nil => rfl
  | cons line later ih => simp only [indentFrom, List.map_cons, trim_placeLine, ih]

/-- Of every line only the blanks at its ends may change. -/
theorem map_trim_indent (tabSize : Nat) (lines : List (List Char)) :
    (indent tabSize lines).map trim = lines.map trim :=
  map_trim_indentFrom tabSize .code 0 lines

end ConstructorAction.Layout
