import ConstructorAction.Proofs.Layout.Indent

namespace ConstructorAction.Layout

open ConstructorAction.Text

/-!
Documents made of blocks. However the lines of nested blocks are moved about, indentation lays them
out by their nesting (`indent_written`): the depth that it keeps while it reads the lines is that of
the block that a line is in.
-/

/-- A line of code behind which the depth is as it was before it. -/
structure StatementLine where
  line : List Char
  visible : trim line ≠ []
  closed : (scanLine .code line).mode = .code
  balanced : (scanLine .code line).opens = (scanLine .code line).closes
  leading : (scanLine .code line).leadingCloses = 0

/-- What a document is made of. A block stands between lines of one brace each. -/
inductive Item where
  | blank
  | statement (shown : StatementLine)
  | block (inner : List Item)

def atDepth (tabSize depth : Nat) (text : List Char) : List Char :=
  List.replicate (depth * tabSize) ' ' ++ text

mutual

def Item.layOut (tabSize depth : Nat) : Item → List (List Char)
  | .blank => [[]]
  | .statement shown => [atDepth tabSize depth (trim shown.line)]
  | .block inner =>
      atDepth tabSize depth ['\x7b'] ::
        (layOutAll tabSize (depth + 1) inner ++ [atDepth tabSize depth ['\x7d']])

def layOutAll (tabSize depth : Nat) : List Item → List (List Char)
  | [] => []
  | item :: later => item.layOut tabSize depth ++ layOutAll tabSize depth later

end

/-- A line that shows a text and nothing else. -/
def Shows (text line : List Char) : Prop :=
  ∃ front back, Blanks front ∧ Blanks back ∧ line = front ++ text ++ back

/-- Lines that show the items of a document, one after the other. -/
inductive Written : List Item → List (List Char) → Prop where
  | nil : Written [] []
  | blank {line : List Char} {later : List Item} {lines : List (List Char)}
      (shows : Shows [] line) (rest : Written later lines) :
      Written (.blank :: later) (line :: lines)
  | statement {shown : StatementLine} {line : List Char} {later : List Item}
      {lines : List (List Char)} (shows : Shows shown.line line) (rest : Written later lines) :
      Written (.statement shown :: later) (line :: lines)
  | block {inner later : List Item} {first last : List Char} {inside lines : List (List Char)}
      (opens : Shows ['\x7b'] first) (body : Written inner inside) (closes : Shows ['\x7d'] last)
      (rest : Written later lines) :
      Written (.block inner :: later) (first :: (inside ++ last :: lines))

section Lines

variable {text line : List Char} {opens closes leading : Nat}

theorem Shows.scanLine_eq (shows : Shows text line) :
    scanLine .code line = scanLine .code text := by
  obtain ⟨front, back, blankFront, blankBack, rfl⟩ := shows
  rw [scanLine_append_right blankBack, scanLine_append_left blankFront]

theorem Shows.trim_eq (shows : Shows text line) : trim line = trim text := by
  obtain ⟨front, back, blankFront, blankBack, rfl⟩ := shows
  exact trim_append blankFront blankBack text

/-- What a line does that starts and ends in code: it is moved to the depth less its first closing
braces, and leaves the depth plus what it opens and less what it closes. -/
theorem indentFrom_cons_shows (shows : Shows text line)
    (read : scanLine .code text = ⟨opens, closes, leading, .code⟩) (tabSize depth : Nat)
    (later : List (List Char)) :
    indentFrom tabSize .code depth (line :: later) =
      (if trim text = [] then [] else atDepth tabSize (depth - leading) (trim text)) ::
        indentFrom tabSize .code (depth + opens - closes) later := by
  rw [indentFrom, shows.scanLine_eq, read]
  simp [placeLine, shows.trim_eq, Mode.inString, atDepth]

theorem StatementLine.read (shown : StatementLine) :
    ∃ braces, scanLine .code shown.line = ⟨braces, braces, 0, .code⟩ := by
  obtain ⟨line, -, closed, balanced, leading⟩ := shown
  cases read : scanLine .code line with
  | mk opens closes leadingCloses mode =>
      rw [read] at closed balanced leading
      exact ⟨opens, by simp_all⟩

end Lines

/-- The lines of some items are laid out, and those behind them are read from the same depth on. -/
theorem indentFrom_written {items : List Item} {lines : List (List Char)}
    (written : Written items lines) (tabSize depth : Nat) (behind : List (List Char)) :
    indentFrom tabSize .code depth (lines ++ behind) =
      layOutAll tabSize depth items ++ indentFrom tabSize .code depth behind := by
  induction written generalizing depth behind with
  | nil => rfl
  | blank shows rest ih =>
      have read : scanLine .code [] = ⟨0, 0, 0, .code⟩ := by decide +kernel
      have empty : trim [] = [] := rfl
      rw [List.cons_append, indentFrom_cons_shows shows read, if_pos empty, Nat.add_zero,
        Nat.sub_zero, ih]
      rfl
  | @statement shown line later lines shows rest ih =>
      obtain ⟨braces, read⟩ := shown.read
      rw [List.cons_append, indentFrom_cons_shows shows read, if_neg shown.visible, Nat.sub_zero,
        Nat.add_sub_cancel, ih]
      rfl
  | @block inner later first last inside lines opens body closes rest ihBody ih =>
      have readOpen : scanLine .code ['\x7b'] = ⟨1, 0, 0, .code⟩ := by decide +kernel
      have readClose : scanLine .code ['\x7d'] = ⟨0, 1, 1, .code⟩ := by decide +kernel
      have braces : trim ['\x7b'] = ['\x7b'] ∧ trim ['\x7d'] = ['\x7d'] := by decide
      have shape : first :: (inside ++ last :: lines) ++ behind =
          first :: (inside ++ (last :: (lines ++ behind))) := by simp
      rw [shape, indentFrom_cons_shows opens readOpen, ihBody,
        indentFrom_cons_shows closes readClose]
      simp [braces, ih, layOutAll, Item.layOut]

/-- Lines that show nested blocks are laid out by their nesting. -/
theorem indent_written {items : List Item} {lines : List (List Char)}
    (written : Written items lines) (tabSize : Nat) :
    indent tabSize lines = layOutAll tabSize 0 items := by
  have whole := indentFrom_written written tabSize 0 []
  simpa [indent, indentFrom] using whole

/-- A type with a property and an empty block, under margins that say nothing. -/
theorem indent_written_of_nested_block :
    let header : StatementLine :=
      ⟨"class A ".toList, by decide, by decide +kernel, by decide +kernel, by decide +kernel⟩
    let property : StatementLine :=
      ⟨"int X \x7b get; set; \x7d".toList, by decide, by decide +kernel, by decide +kernel,
        by decide +kernel⟩
    let lines := ["\tclass A ".toList, "  \x7b".toList, "\t ".toList,
      "int X \x7b get; set; \x7d  ".toList, "\x7b".toList, "\t\x7d".toList, "     \x7d ".toList]
    Written [.statement header, .block [.blank, .statement property, .block []]] lines ∧
      indent 2 lines = ["class A".toList, "\x7b".toList, [],
        "  int X \x7b get; set; \x7d".toList, "  \x7b".toList, "  \x7d".toList, "\x7d".toList] := by
  intro header property lines
  have shows (front text back : String) (blankFront : front.toList.all isBlank = true)
      (blankBack : back.toList.all isBlank = true) :
      Shows text.toList (front.toList ++ text.toList ++ back.toList) :=
    ⟨front.toList, back.toList, List.all_eq_true.mp blankFront, List.all_eq_true.mp blankBack, rfl⟩
  have written :
      Written [.statement header, .block [.blank, .statement property, .block []]] lines :=
    .statement (shows "\t" "class A " "" rfl rfl) <|
      .block (shows "  " "\x7b" "" rfl rfl)
        (.blank (shows "\t " "" "" rfl rfl) <|
          .statement (shows "" "int X \x7b get; set; \x7d" "  " rfl rfl) <|
            .block (shows "" "\x7b" "" rfl rfl) .nil (shows "\t" "\x7d" "" rfl rfl) .nil)
        (shows "     " "\x7d" " " rfl rfl) .nil
  refine ⟨written, ?_⟩
  rw [indent_written written]
  rfl

end ConstructorAction.Layout
