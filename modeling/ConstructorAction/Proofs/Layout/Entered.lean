import ConstructorAction.Proofs.Layout.Indent
import ConstructorAction.Proofs.Layout.Strings
import Mathlib.Data.List.Forall2

namespace ConstructorAction.Layout

open ConstructorAction.Text

/-!
Lines with the states that they are entered in. Indentation sets those blanks that mean nothing in
these states, and no others: two documents are indented to the same lines exactly if they differ in
such blanks only (`Respaced`, `indent_eq_indent_iff`). All else is kept, and with it the strings
(`indent_keeps_lines`).
-/

/-- Two lines that are entered in `mode` and differ in blanks only: in those in front if they are
code, and in those at the end if neither the line before nor the line itself ends in a string. -/
def Respaced (mode : Mode) (line other : List Char) : Prop :=
  ∃ front margin core back room, Blanks front ∧ Blanks margin ∧ Blanks back ∧ Blanks room ∧
    line = front ++ core ++ back ∧ other = margin ++ core ++ room ∧
    (front = margin ∨ mode = .code) ∧
    (back = room ∨
      (mode = .code ∨ mode = .blockComment) ∧ (scanLine mode line).mode.inString = false)

variable {mode : Mode} {line other : List Char}

theorem Respaced.trim_eq (respaced : Respaced mode line other) : trim other = trim line := by
  obtain ⟨front, margin, core, back, room, blankFront, blankMargin, blankBack, blankRoom, rfl, rfl,
    -, -⟩ := respaced
  rw [trim_append blankFront blankBack, trim_append blankMargin blankRoom]

theorem Respaced.trimStart_eq (respaced : Respaced mode line other)
    (inside : (scanLine mode line).mode.inString = true) : trimStart other = trimStart line := by
  obtain ⟨front, margin, core, back, room, blankFront, blankMargin, -, -, rfl, rfl, -, stop⟩ :=
    respaced
  rcases stop with rfl | ⟨-, outside⟩
  · simp only [List.append_assoc, trimStart_append_left blankFront,
      trimStart_append_left blankMargin]
  · cases outside.symm.trans inside

theorem Respaced.trimEnd_eq (respaced : Respaced mode line other) (noCode : mode ≠ .code) :
    trimEnd other = trimEnd line := by
  obtain ⟨front, margin, core, back, room, -, -, blankBack, blankRoom, rfl, rfl, start, -⟩ :=
    respaced
  rw [start.resolve_right noCode, trimEnd_append blankBack, trimEnd_append blankRoom]

/-- Nothing may differ in a line that is entered in a string, or in a comment that a string ends. -/
theorem Respaced.eq (respaced : Respaced mode line other) (noCode : mode ≠ .code)
    (inside : mode.inString = true ∨ (scanLine mode line).mode.inString = true) : other = line := by
  obtain ⟨front, margin, core, back, room, -, -, -, -, rfl, rfl, start, stop⟩ := respaced
  have same : back = room := by
    refine stop.resolve_right ?_
    rintro ⟨rfl | rfl, outside⟩
    · exact noCode rfl
    · rcases inside with inside | inside
      · cases inside
      · cases outside.symm.trans inside
  rw [start.resolve_right noCode, same]

theorem Respaced.scanLine_eq (respaced : Respaced mode line other) :
    scanLine mode other = scanLine mode line := by
  obtain ⟨front, margin, core, back, room, blankFront, blankMargin, blankBack, blankRoom, rfl, rfl,
    same | rfl, -⟩ := respaced
  · rw [scanLine_append_right blankBack, scanLine_append_right blankRoom, same]
  · rw [scanLine_append_right blankBack, scanLine_append_right blankRoom,
      scanLine_append_left blankFront, scanLine_append_left blankMargin]

theorem Respaced.lineStrings_eq (respaced : Respaced mode line other) :
    lineStrings mode other = lineStrings mode line := by
  obtain ⟨front, margin, core, back, room, blankFront, blankMargin, blankBack, blankRoom, rfl, rfl,
    start, stop⟩ := respaced
  have ends : lineStrings mode (front ++ core ++ room) =
      lineStrings mode (front ++ core ++ back) := by
    rcases stop with rfl | ⟨-, outside⟩
    · rfl
    · rw [scanLine_append_right blankBack] at outside
      rw [lineStrings_append_right blankRoom outside, lineStrings_append_right blankBack outside]
  rw [← ends]
  rcases start with rfl | rfl
  · rfl
  · rw [List.append_assoc, List.append_assoc, lineStrings_append_left blankMargin,
      lineStrings_append_left blankFront]

/-- Lines that are the same behind the blanks in front. -/
theorem respaced_of_trimStart (same : trimStart line = trimStart other) :
    Respaced .code line other := by
  obtain ⟨front, blankFront, whole⟩ := exists_trimStart line
  obtain ⟨margin, blankMargin, wholeOther⟩ := exists_trimStart other
  refine ⟨front, margin, trimStart line, [], [], blankFront, blankMargin, .nil, .nil, ?_, ?_,
    .inr rfl, .inl rfl⟩
  · rw [List.append_nil, ← whole]
  · rw [List.append_nil, same, ← wholeOther]

theorem respaced_of_trimEnd (same : trimEnd line = trimEnd other)
    (outside : (scanLine .blockComment line).mode.inString = false) :
    Respaced .blockComment line other := by
  obtain ⟨back, blankBack, whole⟩ := exists_trimEnd line
  obtain ⟨room, blankRoom, wholeOther⟩ := exists_trimEnd other
  refine ⟨[], [], trimEnd line, back, room, .nil, .nil, blankBack, blankRoom, ?_, ?_,
    .inl rfl, .inr ⟨.inr rfl, outside⟩⟩
  · rw [List.nil_append, ← whole]
  · rw [List.nil_append, same, ← wholeOther]

theorem respaced_of_trim (same : trim line = trim other)
    (outside : (scanLine .code line).mode.inString = false) : Respaced .code line other := by
  obtain ⟨front, blankFront, whole⟩ := exists_trimStart line
  obtain ⟨margin, blankMargin, wholeOther⟩ := exists_trimStart other
  obtain ⟨back, blankBack, inner⟩ := exists_trimEnd (trimStart line)
  obtain ⟨room, blankRoom, innerOther⟩ := exists_trimEnd (trimStart other)
  refine ⟨front, margin, trim line, back, room, blankFront, blankMargin, blankBack, blankRoom,
    ?_, ?_, .inr rfl, .inr ⟨.inl rfl, outside⟩⟩
  · rw [List.append_assoc, trim, ← inner, ← whole]
  · rw [List.append_assoc, same, trim, ← innerOther, ← wholeOther]

theorem respaced_refl (mode : Mode) (line : List Char) : Respaced mode line line :=
  ⟨[], [], line, [], [], .nil, .nil, .nil, .nil, by simp, by simp, .inl rfl, .inl rfl⟩

/-- With the state behind a line two lines get the same place exactly if they are respaced. -/
theorem placeLine_eq_iff (tabSize level : Nat) :
    placeLine tabSize mode (scanLine mode line).mode level line =
        placeLine tabSize mode (scanLine mode line).mode level other ↔
      Respaced mode line other := by
  constructor
  · intro placed
    have content : trim line = trim other := by
      simpa only [trim_placeLine] using congrArg trim placed
    cases mode with
    | verbatim | raw quotes =>
        obtain rfl : line = other := placed
        exact respaced_refl _ line
    | blockComment =>
        cases outside : (scanLine .blockComment line).mode.inString with
        | true =>
            obtain rfl : line = other := by simpa [placeLine, outside] using placed
            exact respaced_refl _ line
        | false => exact respaced_of_trimEnd (by simpa [placeLine, outside] using placed) outside
    | code =>
        cases outside : (scanLine .code line).mode.inString with
        | true =>
            refine respaced_of_trimStart ?_
            by_cases empty : trim line = []
            · have emptyOther : trim other = [] := content ▸ empty
              rw [trim_eq_nil_iff.mp empty, trim_eq_nil_iff.mp emptyOther]
            · have present : trim other ≠ [] := content ▸ empty
              simpa [placeLine, outside, empty, present] using placed
        | false => exact respaced_of_trim content outside
  · intro respaced
    cases mode with
    | verbatim | raw quotes => rw [respaced.eq (by simp) (.inl rfl)]
    | blockComment =>
        cases outside : (scanLine .blockComment line).mode.inString with
        | true => rw [respaced.eq (by simp) (.inr outside)]
        | false => simp [placeLine, outside, respaced.trimEnd_eq (by simp)]
    | code =>
        cases outside : (scanLine .code line).mode.inString with
        | true => simp [placeLine, outside, respaced.trim_eq, respaced.trimStart_eq outside]
        | false => simp [placeLine, outside, respaced.trim_eq]

structure Entered where
  mode : Mode
  line : List Char

/-- The lines of a document, read from the first one on. -/
def entered (mode : Mode) : List (List Char) → List Entered
  | [] => []
  | line :: later => ⟨mode, line⟩ :: entered (scanLine mode line).mode later

theorem indentFrom_eq_iff (tabSize : Nat) (mode : Mode) (depth : Nat)
    (lines others : List (List Char)) :
    indentFrom tabSize mode depth lines = indentFrom tabSize mode depth others ↔
      List.Forall₂ (fun line other => Respaced line.mode line.line other) (entered mode lines)
        others := by
  induction lines generalizing mode depth others with
  | nil => cases others <;> simp [indentFrom, entered]
  | cons line later ih =>
      cases others with
      | nil => simp [indentFrom, entered]
      | cons other more =>
          simp only [indentFrom, entered, List.cons.injEq, List.forall₂_cons]
          constructor
          · rintro ⟨placed, behind⟩
            have same : scanLine mode other = scanLine mode line := by
              have read := congrArg (scanLine mode) placed
              rw [scanLine_placeLine, scanLine_placeLine] at read
              exact read.symm
            rw [same] at placed behind
            exact ⟨(placeLine_eq_iff tabSize _).mp placed, (ih _ _ _).mp behind⟩
          · rintro ⟨respaced, behind⟩
            rw [respaced.scanLine_eq]
            exact ⟨(placeLine_eq_iff tabSize _).mpr respaced, (ih _ _ _).mpr behind⟩

/-- One line in the place of another: it is entered and left in the same state, has the same braces,
and shows the same of the strings. -/
structure Keeps (line other : Entered) : Prop where
  content : trim other.line = trim line.line
  mode : other.mode = line.mode
  scan : scanLine other.mode other.line = scanLine line.mode line.line
  strings : lineStrings other.mode other.line = lineStrings line.mode line.line

theorem keeps_of_respaced {lines others : List (List Char)}
    (respaced : List.Forall₂ (fun line other => Respaced line.mode line.line other)
      (entered mode lines) others) :
    List.Forall₂ Keeps (entered mode lines) (entered mode others) := by
  induction lines generalizing mode others with
  | nil =>
      cases respaced
      exact .nil
  | cons line later ih =>
      cases respaced with
      | cons first behind =>
          rw [entered, entered, first.scanLine_eq]
          exact .cons ⟨first.trim_eq, rfl, first.scanLine_eq, first.lineStrings_eq⟩ (ih behind)

/-- Every line keeps what stands between its blanks, and also the blanks that are in strings. The
lines are read as before, with the same state in front of and behind each of them. -/
theorem indent_keeps_lines (tabSize : Nat) (lines : List (List Char)) :
    (indent tabSize lines).length = lines.length ∧
      List.Forall₂ Keeps (entered .code lines) (entered .code (indent tabSize lines)) := by
  refine ⟨length_indentFrom tabSize .code 0 lines, keeps_of_respaced ?_⟩
  exact (indentFrom_eq_iff tabSize .code 0 lines _).mp (indent_indent tabSize lines).symm

example : indent 4 ["\x7b".toList, "x = @\" ".toList, "  \"; ".toList] =
    ["\x7b".toList, "    x = @\" ".toList, "  \"; ".toList] := by decide +kernel

/-- Two documents are indented to the same lines, at whatever width, exactly if their lines differ
in those blanks only that indentation sets. -/
theorem indent_eq_indent_iff (tabSize : Nat) (lines others : List (List Char)) :
    indent tabSize lines = indent tabSize others ↔
      List.Forall₂ (fun line other => Respaced line.mode line.line other) (entered .code lines)
        others :=
  indentFrom_eq_iff tabSize .code 0 lines others

end ConstructorAction.Layout
