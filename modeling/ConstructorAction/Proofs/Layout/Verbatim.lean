import ConstructorAction.Proofs.Layout.Indent
import ConstructorAction.Proofs.Text.Rows

namespace ConstructorAction.Layout

open ConstructorAction.Text

/-!
Verbatim strings, and how far the scanner follows them. It counts the quotes behind `@` before it
looks at the `@`. One or two of them open a verbatim string, whose lines are left alone up to its
end. Content that starts with a quote makes them three at least, and these open a raw string, which
the one quote at the end of the literal does not end (`indent_statement`).
-/

/-- The content of a verbatim string as it is written. -/
def doubled : List Char → List Char
  | [] => []
  | c :: rest => if c = '"' then '"' :: '"' :: doubled rest else c :: doubled rest

def opening : List Char := ['x', ' ', '=', ' ', '@', '"']

def closing : List Char := ['"', ';']

/-- A verbatim string that is assigned to a variable. -/
def statement (content : List Char) : List Char := opening ++ doubled content ++ closing

theorem doubled_of_notMem {content : List Char} (free : '"' ∉ content) :
    doubled content = content := by
  induction content with
  | nil => rfl
  | cons c rest ih =>
      have apart : c ≠ '"' := fun same => free (by simp [same])
      rw [doubled, if_neg apart, ih fun member => free (List.mem_cons_of_mem c member)]

theorem doubled_quotes_append (count : Nat) (content : List Char) :
    doubled (List.replicate count '"' ++ content) =
      List.replicate (2 * count) '"' ++ doubled content := by
  induction count with
  | zero => rfl
  | succ count ih => simp [List.replicate_succ, doubled, ih, Nat.mul_succ]

theorem pieces_doubled (content : List Char) :
    pieces (doubled content) = (pieces content).map doubled := by
  induction content with
  | nil => rfl
  | cons c rest ih =>
      obtain ⟨first, later, cut⟩ := List.exists_cons_of_ne_nil (pieces_ne_nil rest)
      rw [cut] at ih
      by_cases quote : c = '"'
      · simp [doubled, quote, pieces, ih, cut]
      · by_cases feed : c = '\n' <;> simp [doubled, quote, pieces, feed, ih, cut]

/-- The lines of a text whose last piece is continued. -/
theorem lines_append_last {text stop last : List Char} {front : List (List Char)}
    (cut : pieces text = front ++ [last]) (whole : '\n' ∉ stop)
    (visible : stop.getLast? ≠ some '\r') (present : stop ≠ []) :
    lines (text ++ stop) = front.map withoutReturn ++ [last ++ stop] := by
  have clean : ∀ piece ∈ front ++ [last ++ stop], '\n' ∉ piece := by
    intro piece member
    rcases List.mem_append.mp member with inFront | isLast
    · exact lineFeed_notMem_of_mem_pieces (cut ▸ List.mem_append_left [last] inFront)
    · rw [List.mem_singleton.mp isLast, List.mem_append]
      have inLast : '\n' ∉ last :=
        lineFeed_notMem_of_mem_pieces (cut ▸ List.mem_append_right front List.mem_cons_self)
      exact fun member => member.elim inLast whole
  have joined : pieces (text ++ stop) = front ++ [last ++ stop] := by
    rw [← joinLines_pieces text, cut, joinLines_append_singleton,
      pieces_joinLines (by simp) clean]
  have kept : withoutReturn (last ++ stop) = last ++ stop := by
    obtain ⟨c, ends⟩ := Option.isSome_iff_exists.mp (List.getLast?_isSome.mpr present)
    rw [withoutReturn, List.getLast?_append, ends, Option.some_or, ← ends, if_neg visible]
  have lastPresent : (front ++ [last ++ stop]).getLast? ≠ some [] := by
    simpa using fun _ : last = [] => present
  rw [lines, joined, dropFinalEmpty, if_neg lastPresent, List.map_append, List.map_singleton, kept]

theorem withoutReturn_append_left {front : List Char} (visible : front.getLast? ≠ some '\r')
    (text : List Char) : withoutReturn (front ++ text) = front ++ withoutReturn text := by
  by_cases empty : text = []
  · simp [empty, withoutReturn, visible]
  · obtain ⟨c, ends⟩ := Option.isSome_iff_exists.mp (List.getLast?_isSome.mpr empty)
    have last : (front ++ text).getLast? = text.getLast? := by
      rw [List.getLast?_append, ends, Option.some_or]
    rw [withoutReturn, withoutReturn, last, List.dropLast_append_of_ne_nil empty]
    split <;> rfl

theorem scanLine_withoutReturn (mode : Mode) (piece : List Char) :
    scanLine mode (withoutReturn piece) = scanLine mode piece := by
  have whole := withoutReturn_append piece
  have blank : Blanks (if piece.getLast? = some '\r' then ['\r'] else []) := by
    split
    · exact .cons (by decide) .nil
    · exact .nil
  rw [← scanLine_append_right blank, whole]

/-- Lines inside of a string stay as they are, the one that ends it included. -/
theorem indentFrom_of_inString {mode after : Mode} (inside : mode.inString = true)
    {front : List (List Char)} {last : List Char}
    (goesOn : ∀ piece ∈ front, scanLine mode piece = ⟨0, 0, 0, mode⟩)
    (ends : scanLine mode last = ⟨0, 0, 0, after⟩) (tabSize depth : Nat)
    (later : List (List Char)) :
    indentFrom tabSize mode depth (front.map withoutReturn ++ [last] ++ later) =
      front.map withoutReturn ++ [last] ++ indentFrom tabSize after depth later := by
  have stays (outgoing : Mode) (level : Nat) (line : List Char) :
      placeLine tabSize mode outgoing level line = line := by
    cases mode with
    | code => cases inside
    | blockComment => cases inside
    | verbatim => rfl
    | raw quotes => rfl
  induction front with
  | nil => simp [indentFrom, stays, ends]
  | cons piece rest ih =>
      have first := goesOn piece List.mem_cons_self
      have inner := ih fun other member => goesOn other (List.mem_cons_of_mem piece member)
      simp only [List.map_cons, List.cons_append, indentFrom, stays, scanLine_withoutReturn, first,
        Nat.add_zero, Nat.sub_zero]
      exact congrArg _ inner

/-- A line of the statement that starts a string is in its place. -/
theorem placeLine_opening {outgoing : Mode} {text : List Char}
    (ends : outgoing.inString = true ∨ trimEnd (opening ++ text) = opening ++ text)
    (tabSize : Nat) : placeLine tabSize .code outgoing 0 (opening ++ text) = opening ++ text := by
  have start : trimStart (opening ++ text) = opening ++ text :=
    trimStart_cons_of_visible (by decide) _
  have present : trim (opening ++ text) ≠ [] := by
    rw [Ne, trim_eq_nil_iff, start]
    exact List.cons_ne_nil _ _
  rw [placeLine, if_neg (by simpa using present), Nat.zero_mul, List.replicate_zero,
    List.nil_append]
  rcases ends with inside | visible
  · rw [if_pos inside, start]
  · rw [trim, start, visible, ite_self]

theorem trimEnd_append_closing (text : List Char) :
    trimEnd (text ++ closing) = text ++ closing := by
  have visible : isBlank ';' = false := by decide
  simp [trimEnd, closing, visible]

section Statement

variable {content piece : List Char} {after : Mode}

theorem lines_statement {front : List (List Char)} {last : List Char}
    (cut : pieces (opening ++ doubled content) = front ++ [last]) :
    lines (statement content) = front.map withoutReturn ++ [last ++ closing] :=
  lines_append_last cut (by decide) (by decide) (by decide)

theorem pieces_opening_append {later : List (List Char)}
    (cut : pieces content = piece :: later) :
    pieces (opening ++ doubled content) = (opening ++ doubled piece) :: later.map doubled := by
  refine pieces_append_left (by decide) ?_
  rw [pieces_doubled, cut, List.map_cons]

/-- A statement of one line is in its place. -/
theorem indent_statement_of_single (cut : pieces content = [piece])
    (read : scanLine .code (opening ++ (doubled piece ++ closing)) = ⟨0, 0, 0, after⟩)
    (tabSize : Nat) (later : List (List Char)) :
    indent tabSize (lines (statement content) ++ later) =
      lines (statement content) ++ indentFrom tabSize after 0 later := by
  have visible : trimEnd (opening ++ (doubled piece ++ closing)) =
      opening ++ (doubled piece ++ closing) := by
    rw [← List.append_assoc]
    exact trimEnd_append_closing (opening ++ doubled piece)
  have placed : placeLine tabSize .code after 0 (opening ++ (doubled piece ++ closing)) =
      opening ++ (doubled piece ++ closing) := placeLine_opening (.inr visible) tabSize
  have single : pieces (opening ++ doubled content) = [] ++ [opening ++ doubled piece] :=
    pieces_opening_append cut
  rw [lines_statement single]
  simp [indent, indentFrom, read, placed]

/-- A statement of several lines is in its place if all but the last one end in the string. -/
theorem indent_statement_of_several {mode : Mode} (inside : mode.inString = true)
    {middle : List (List Char)} {last : List Char}
    (cut : pieces content = piece :: (middle ++ [last]))
    (starts : scanLine .code (opening ++ doubled piece) = ⟨0, 0, 0, mode⟩)
    (goesOn : ∀ other ∈ middle, scanLine mode (doubled other) = ⟨0, 0, 0, mode⟩)
    (ends : scanLine mode (doubled last ++ closing) = ⟨0, 0, 0, after⟩)
    (tabSize : Nat) (later : List (List Char)) :
    indent tabSize (lines (statement content) ++ later) =
      lines (statement content) ++ indentFrom tabSize after 0 later := by
  have pieced : pieces (opening ++ doubled content) =
      ((opening ++ doubled piece) :: middle.map doubled) ++ [doubled last] := by
    simp [pieces_opening_append cut]
  have first : withoutReturn (opening ++ doubled piece) =
      opening ++ withoutReturn (doubled piece) := withoutReturn_append_left (by decide) _
  have read : scanLine .code (opening ++ withoutReturn (doubled piece)) = ⟨0, 0, 0, mode⟩ := by
    rw [← first, scanLine_withoutReturn, starts]
  have placed : placeLine tabSize .code mode 0 (opening ++ withoutReturn (doubled piece)) =
      opening ++ withoutReturn (doubled piece) := placeLine_opening (.inl inside) tabSize
  have rest := indentFrom_of_inString inside
    (List.forall_mem_map.mpr goesOn) ends tabSize 0 later
  rw [lines_statement pieced, List.map_cons, first]
  simp only [indent, List.cons_append, indentFrom, read, placed, Nat.add_zero, Nat.sub_zero]
  exact congrArg _ rest

end Statement

/-- Up to the quote the statement is plain code. -/
theorem scanLine_opening (text : List Char) :
    scanLine .code (opening ++ text) =
      scan .code ['@', ' ', '=', ' ', 'x'] true ('"' :: text) := by
  simp only [scanLine, opening, List.cons_append, List.nil_append]
  rw [scan_code_plain (by decide), scan_code_plain (by decide), scan_code_plain (by decide),
    scan_code_plain (by decide), scan_code_plain (by decide)]
  rfl

theorem scan_doubled_append (seen : Bool) (content text : List Char) :
    scan .verbatim [] seen (doubled content ++ text) = scan .verbatim [] seen text := by
  induction content with
  | nil => rfl
  | cons c rest ih =>
      by_cases quote : c = '"'
      · rw [doubled, if_pos quote, List.cons_append, List.cons_append, scan.eq_4, ih]
      · rw [doubled, if_neg quote, List.cons_append, scan_verbatim_cons quote, ih]

theorem scan_verbatim_closing (seen : Bool) :
    scan .verbatim [] seen closing = ⟨0, 0, 0, .code⟩ := by
  cases seen <;> decide +kernel

theorem quoteRun_doubled_append_lt {piece stop : List Char} (free : piece.head? ≠ some '"')
    (short : quoteRun stop < 2) : quoteRun (doubled piece ++ stop) < 2 := by
  cases piece with
  | nil => exact short
  | cons c rest =>
      have other : c ≠ '"' := by simpa using free
      simp [doubled, other, quoteRun]

/-- Content without a quote in front leaves the scanner in a verbatim string. -/
theorem scanLine_verbatim {piece stop : List Char} (free : piece.head? ≠ some '"')
    (short : quoteRun stop < 2) :
    scanLine .code (opening ++ (doubled piece ++ stop)) = scan .verbatim [] true stop := by
  have few := quoteRun_doubled_append_lt free short
  have notRaw : ¬ 3 ≤ quoteRun (doubled piece ++ stop) + 1 := by omega
  have opens : opensVerbatim ['@', ' ', '=', ' ', 'x'] = true := rfl
  rw [scanLine_opening, scan.eq_10, if_neg notRaw, if_pos opens, scan_doubled_append]

theorem indent_statement_of_free {content : List Char} (free : content.head? ≠ some '"')
    (tabSize : Nat) (later : List (List Char)) :
    indent tabSize (lines (statement content) ++ later) =
      lines (statement content) ++ indent tabSize later := by
  obtain ⟨piece, more, cut⟩ := List.exists_cons_of_ne_nil (pieces_ne_nil content)
  have first : piece.head? ≠ some '"' := by
    intro quote
    obtain ⟨rest, rfl⟩ := List.head?_eq_some_iff.mp quote
    apply free
    rw [← joinLines_pieces content, cut]
    cases more <;> simp [joinLines, List.intercalate]
  rcases List.eq_nil_or_concat more with rfl | ⟨middle, last, rfl⟩
  · refine indent_statement_of_single cut ?_ tabSize later
    rw [scanLine_verbatim first (by decide), scan_verbatim_closing]
  · rw [List.concat_eq_append] at cut
    have inside : Mode.verbatim.inString = true := rfl
    refine indent_statement_of_several inside cut ?_ ?_ ?_ tabSize later
    · rw [← List.append_nil (doubled piece), scanLine_verbatim first (by decide), scan.eq_1]
    · intro other _
      rw [scanLine, ← List.append_nil (doubled other), scan_doubled_append, scan.eq_1]
    · rw [scanLine, scan_doubled_append, scan_verbatim_closing]

theorem scan_raw_append {quotes : Nat} {text : List Char} (free : '"' ∉ text) (seen : Bool)
    (stop : List Char) :
    scan (.raw quotes) [] seen (text ++ stop) = scan (.raw quotes) [] seen stop := by
  induction text with
  | nil => rfl
  | cons c rest ih =>
      have other : c ≠ '"' := fun same => free (by simp [same])
      have later := ih fun member => free (List.mem_cons_of_mem c member)
      rw [List.cons_append, scan_raw_cons other, later]

theorem scan_raw_of_notMem {quotes : Nat} {text : List Char} (free : '"' ∉ text) (seen : Bool) :
    scan (.raw quotes) [] seen text = ⟨0, 0, 0, .raw quotes⟩ := by
  rw [← List.append_nil text, scan_raw_append free, scan.eq_1]

theorem scan_raw_closing {quotes : Nat} (several : 1 < quotes) (seen : Bool) :
    scan (.raw quotes) [] seen closing = ⟨0, 0, 0, .raw quotes⟩ := by
  have run : ¬ quotes ≤ quoteRun [';'] + 1 := by
    change ¬ quotes ≤ 0 + 1
    omega
  rw [closing, scan.eq_6, if_neg run]
  exact scan_raw_of_notMem (by decide) seen

/-- Content with a quote in front leaves the scanner in a raw string. -/
theorem scanLine_raw (count : Nat) {body stop : List Char} (free : '"' ∉ body)
    (short : stop = [] ∨ stop = closing) :
    ∃ quotes, 1 < quotes ∧
      scanLine .code (opening ++ (doubled (List.replicate (count + 1) '"' ++ body) ++ stop)) =
        ⟨0, 0, 0, .raw quotes⟩ := by
  -- the quotes of the content, each written twice, behind the one that opens the literal; if there
  -- is nothing else in it, its closing quote is one of them too
  let quotes := 2 * (count + 1) + quoteRun (body ++ stop) + 1
  have run : quoteRun (doubled (List.replicate (count + 1) '"' ++ body) ++ stop) + 1 = quotes := by
    rw [doubled_quotes_append, doubled_of_notMem free, List.append_assoc, quoteRun_quotes_append]
  have rest : afterQuotes (doubled (List.replicate (count + 1) '"' ++ body) ++ stop) =
      afterQuotes (body ++ stop) := by
    rw [doubled_quotes_append, doubled_of_notMem free, List.append_assoc, afterQuotes_quotes_append]
  have long : 3 ≤ quotes := by omega
  refine ⟨quotes, by omega, ?_⟩
  rw [scanLine_opening, scan.eq_10, run, rest, if_pos long]
  cases body with
  | nil =>
      have noQuote : '"' ∉ afterQuotes ([] ++ stop) := by rcases short with rfl | rfl <;> decide
      exact scan_raw_of_notMem noQuote true
  | cons c inner =>
      have other : c ≠ '"' := fun same => free (by simp [same])
      have kept : afterQuotes (c :: inner ++ stop) = c :: inner ++ stop := by
        simp [afterQuotes, other]
      rw [kept, scan_raw_append free]
      rcases short with rfl | rfl
      · exact scan.eq_1 ..
      · exact scan_raw_closing (by omega) true

theorem indentFrom_raw {quotes : Nat} {later : List (List Char)}
    (free : ∀ line ∈ later, '"' ∉ line) (tabSize depth : Nat) :
    indentFrom tabSize (.raw quotes) depth later = later := by
  induction later with
  | nil => rfl
  | cons line rest ih =>
      obtain ⟨first, others⟩ := List.forall_mem_cons.mp free
      have read : scanLine (.raw quotes) line = ⟨0, 0, 0, .raw quotes⟩ :=
        scan_raw_of_notMem first false
      simp only [indentFrom, placeLine, read, Nat.add_zero, Nat.sub_zero, ih others]

theorem indent_statement_of_quotes {count : Nat} {body : List Char} (free : '"' ∉ body)
    (tabSize : Nat) {later : List (List Char)} (quoteless : ∀ line ∈ later, '"' ∉ line) :
    indent tabSize (lines (statement (List.replicate (count + 1) '"' ++ body)) ++ later) =
      lines (statement (List.replicate (count + 1) '"' ++ body)) ++ later := by
  obtain ⟨piece, more, bodyCut⟩ := List.exists_cons_of_ne_nil (pieces_ne_nil body)
  have inBody : ∀ other ∈ piece :: more, '"' ∉ other := by
    intro other member quote
    exact free (subset_of_mem_pieces (bodyCut ▸ member) quote)
  have cut : pieces (List.replicate (count + 1) '"' ++ body) =
      (List.replicate (count + 1) '"' ++ piece) :: more :=
    pieces_append_left (by simp) bodyCut
  have pieceFree := inBody piece List.mem_cons_self
  rcases List.eq_nil_or_concat more with rfl | ⟨middle, last, rfl⟩
  · obtain ⟨quotes, -, read⟩ := scanLine_raw count pieceFree (.inr rfl)
    rw [indent_statement_of_single cut read, indentFrom_raw quoteless]
  · rw [List.concat_eq_append] at cut inBody
    obtain ⟨quotes, several, read⟩ := scanLine_raw count pieceFree (.inl rfl)
    rw [List.append_nil] at read
    have others : ∀ other ∈ middle ++ [last], doubled other = other ∧ '"' ∉ other := by
      intro other member
      have clean := inBody other (List.mem_cons_of_mem piece member)
      exact ⟨doubled_of_notMem clean, clean⟩
    have goesOn : ∀ other ∈ middle,
        scanLine (.raw quotes) (doubled other) = ⟨0, 0, 0, .raw quotes⟩ := by
      intro other member
      obtain ⟨same, clean⟩ := others other (List.mem_append_left [last] member)
      rw [same]
      exact scan_raw_of_notMem clean false
    have ends : scanLine (.raw quotes) (doubled last ++ closing) = ⟨0, 0, 0, .raw quotes⟩ := by
      obtain ⟨same, clean⟩ := others last (by simp)
      rw [same, scanLine, scan_raw_append clean, scan_raw_closing several]
    rw [indent_statement_of_several rfl cut read goesOn ends, indentFrom_raw quoteless]

/-- A verbatim string is left alone, and the lines behind it are indented as if it were not there,
if its content does not start with a quote. Content of some quotes and then none makes everything
behind it a part of the string. -/
theorem indent_statement (content : List Char) (tabSize : Nat) (later : List (List Char)) :
    (content.head? ≠ some '"' →
      indent tabSize (lines (statement content) ++ later) =
        lines (statement content) ++ indent tabSize later) ∧
    ∀ count body, content = List.replicate (count + 1) '"' ++ body → '"' ∉ body →
      (∀ line ∈ later, '"' ∉ line) →
      indent tabSize (lines (statement content) ++ later) = lines (statement content) ++ later := by
  refine ⟨fun free => indent_statement_of_free free tabSize later, ?_⟩
  rintro count body rfl free quoteless
  exact indent_statement_of_quotes free tabSize quoteless

/-- A declaration keeps its wrong margin behind a literal of one quote, and only behind this one. -/
theorem indent_statement_of_one_quote :
    let later := ["  int y;".toList]
    let braced := ['\x7b', '\n', '"']
    (braced.head? ≠ some '"' ∧ indent 4 (lines (statement braced) ++ later) =
      lines (statement braced) ++ ["int y;".toList]) ∧
    ['"'] = List.replicate (0 + 1) '"' ++ [] ∧ '"' ∉ ([] : List Char) ∧
      (∀ line ∈ later, '"' ∉ line) ∧
      indent 4 (lines (statement ['"']) ++ later) = lines (statement ['"']) ++ later := by
  intro later braced
  have free : braced.head? ≠ some '"' := by decide
  have quoteless : ∀ line ∈ later, '"' ∉ line := by decide
  have inPlace : indent 4 later = ["int y;".toList] := by decide +kernel
  refine ⟨⟨free, ?_⟩, rfl, List.not_mem_nil, quoteless, ?_⟩
  · rw [(indent_statement braced 4 later).1 free, inPlace]
  · exact (indent_statement ['"'] 4 later).2 0 [] rfl List.not_mem_nil quoteless

end ConstructorAction.Layout
