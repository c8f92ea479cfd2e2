import ConstructorAction.Layout.Scan
import ConstructorAction.Proofs.Text.Blank

namespace ConstructorAction.Layout

open ConstructorAction.Text

/-!
What the braces of a line depend on. The scanner goes over a line step by step (`scan_eq_step`), and
every step leaves the blanks at the end of the line to the next one or takes them all
(`step?_append_right`). So blanks in front of code do not count (`scanLine_append_left`), and
neither do blanks at the end of any line (`scanLine_append_right`).
-/

/-- The scanner behind a step, and what the step adds to the braces of the rest. -/
structure Step where
  mode : Mode
  before : List Char
  seen : Bool
  count : LineScan → LineScan
  rest : List Char

/-- One step. There is none at the end of a line, and none into a comment that reaches up to it. -/
def step? (mode : Mode) (before : List Char) (seen : Bool) (text : List Char) : Option Step :=
  match mode, text with
  | _, [] => none
  | .blockComment, '*' :: '/' :: rest => some ⟨.code, [], seen, id, rest⟩
  | .blockComment, _ :: rest => some ⟨.blockComment, [], seen, id, rest⟩
  | .verbatim, '"' :: '"' :: rest => some ⟨.verbatim, [], seen, id, rest⟩
  | .verbatim, c :: rest => some ⟨if c = '"' then .code else .verbatim, [], seen, id, rest⟩
  | .raw quotes, '"' :: rest =>
      some ⟨if quotes ≤ quoteRun rest + 1 then .code else .raw quotes, [], seen, id,
        afterQuotes rest⟩
  | .raw quotes, _ :: rest => some ⟨.raw quotes, [], seen, id, rest⟩
  | .code, '/' :: '/' :: _ => none
  | .code, '/' :: '*' :: rest => some ⟨.blockComment, [], seen, id, rest⟩
  | .code, '"' :: rest =>
      if 3 ≤ quoteRun rest + 1 then
        some ⟨.raw (quoteRun rest + 1), [], true, id, afterQuotes rest⟩
      else if opensVerbatim before then some ⟨.verbatim, [], true, id, rest⟩
      else some ⟨.code, [], true, id, afterLiteral '"' rest⟩
  | .code, '\'' :: rest => some ⟨.code, [], true, id, afterLiteral '\'' rest⟩
  | .code, '\x7b' :: rest => some ⟨.code, '\x7b' :: before, true, .open, rest⟩
  | .code, '\x7d' :: rest => some ⟨.code, '\x7d' :: before, seen, .close (!seen), rest⟩
  | .code, c :: rest => some ⟨.code, c :: before, seen || !isBlank c, id, rest⟩

section Steps

variable {mode : Mode} {before rest text : List Char} {seen : Bool} {c : Char} {next : Step}

theorem scan_eq_step (mode : Mode) (before : List Char) (seen : Bool) (text : List Char) :
    scan mode before seen text =
      match step? mode before seen text with
      | none => ⟨0, 0, 0, mode⟩
      | some next => next.count (scan next.mode next.before next.seen next.rest) := by
  fun_cases step? mode before seen text <;> simp [scan, *]

theorem scan_of_end (ends : step? mode before seen text = none) :
    scan mode before seen text = ⟨0, 0, 0, mode⟩ := by
  rw [scan_eq_step, ends]

theorem scan_of_step (made : step? mode before seen text = some next) :
    scan mode before seen text =
      next.count (scan next.mode next.before next.seen next.rest) := by
  rw [scan_eq_step, made]

theorem ne_nil_of_step? (made : step? mode before seen text = some next) : text ≠ [] := by
  rintro rfl
  simp [step?] at made

theorem length_rest_lt (made : step? mode before seen text = some next) :
    next.rest.length < text.length := by
  have quotes (rest : List Char) : (afterQuotes rest).length < rest.length + 1 :=
    Nat.lt_succ_of_le (length_afterQuotes_le rest)
  have literal (quote : Char) (rest : List Char) :
      (afterLiteral quote rest).length < rest.length + 1 :=
    Nat.lt_succ_of_le (length_afterLiteral_le quote rest)
  revert made
  fun_cases step? mode before seen text <;> rintro ⟨⟩ <;> simp only [List.length_cons] <;>
    first
    | omega
    | exact quotes _
    | exact literal _ _

/-- The braces that a step counts have no part in the state behind the line. -/
theorem mode_count (made : step? mode before seen text = some next) (scan : LineScan) :
    (next.count scan).mode = scan.mode := by
  revert made
  fun_cases step? mode before seen text <;> rintro ⟨⟩ <;> rfl

/-- Induction along the steps over a line. -/
theorem step_induction {motive : Mode → List Char → Bool → List Char → Prop}
    (stop : ∀ mode before seen text, step? mode before seen text = none →
      motive mode before seen text)
    (step : ∀ mode before seen text next, step? mode before seen text = some next →
      motive next.mode next.before next.seen next.rest → motive mode before seen text)
    (mode : Mode) (before : List Char) (seen : Bool) (text : List Char) :
    motive mode before seen text := by
  induction size : text.length using Nat.strongRecOn generalizing mode before seen text with
  | ind count ih =>
      cases made : step? mode before seen text with
      | none => exact stop _ _ _ _ made
      | some next => exact step _ _ _ _ next made (ih _ (size ▸ length_rest_lt made) _ _ _ _ rfl)

theorem scan_verbatim_cons (other : c ≠ '"') :
    scan .verbatim before seen (c :: rest) = scan .verbatim [] seen rest := by
  rw [scan.eq_5 before seen c rest fun _ same _ => other same, if_neg other]

theorem scan_raw_cons {quotes : Nat} (other : c ≠ '"') :
    scan (.raw quotes) before seen (c :: rest) = scan (.raw quotes) [] seen rest :=
  scan.eq_7 before seen quotes c rest other

/-- Characters with which nothing but a name, a number or an operator starts. -/
def isPlain (c : Char) : Bool :=
  c != '/' && c != '"' && c != '\'' && c != '\x7b' && c != '\x7d'

theorem step?_code_plain (plain : isPlain c = true) : step? .code before seen (c :: rest) =
    some ⟨.code, c :: before, seen || !isBlank c, id, rest⟩ := by
  simp only [isPlain, Bool.and_eq_true, bne_iff_ne] at plain
  obtain ⟨⟨⟨⟨slash, quote⟩, apostrophe⟩, opening⟩, closing⟩ := plain
  exact step?.eq_14 before seen c rest (fun _ same _ => slash same) (fun _ same _ => slash same)
    quote apostrophe opening closing

theorem scan_code_plain (plain : isPlain c = true) :
    scan .code before seen (c :: rest) = scan .code (c :: before) (seen || !isBlank c) rest :=
  scan_of_step (step?_code_plain plain)

theorem isPlain_of_isBlank (blank : isBlank c = true) : isPlain c = true := by
  have apart : ∀ other, isBlank other = false → (c != other) = true := fun other visible =>
    bne_iff_ne.mpr (isBlank_ne blank visible)
  simp only [isPlain, apart '/' (by decide), apart '"' (by decide), apart '\'' (by decide),
    apart '\x7b' (by decide), apart '\x7d' (by decide), Bool.and_self]

theorem step?_code_blank (blank : isBlank c = true) :
    step? .code before seen (c :: rest) = some ⟨.code, c :: before, seen, id, rest⟩ := by
  rw [step?_code_plain (isPlain_of_isBlank blank), blank, Bool.not_true, Bool.or_false]

/-- A blank changes nothing that counts, wherever it is. -/
theorem exists_step?_blank (blank : isBlank c = true) :
    ∃ behind, step? mode before seen (c :: rest) = some ⟨mode, behind, seen, id, rest⟩ := by
  have star : c ≠ '*' := isBlank_ne blank (by decide)
  have quote : c ≠ '"' := isBlank_ne blank (by decide)
  cases mode with
  | code => exact ⟨_, step?_code_blank blank⟩
  | blockComment => exact ⟨[], step?.eq_3 before seen c rest fun _ same _ => star same⟩
  | verbatim =>
      refine ⟨[], ?_⟩
      rw [step?.eq_5 before seen c rest fun _ same _ => quote same, if_neg quote]
  | raw quotes => exact ⟨[], step?.eq_7 before seen quotes c rest quote⟩

end Steps

theorem quoteRun_quotes_append (count : Nat) (text : List Char) :
    quoteRun (List.replicate count '"' ++ text) = count + quoteRun text := by
  induction count with
  | zero => simp
  | succ count ih => simp [List.replicate_succ, quoteRun] at ih ⊢; omega

theorem afterQuotes_quotes_append (count : Nat) (text : List Char) :
    afterQuotes (List.replicate count '"' ++ text) = afterQuotes text := by
  induction count with
  | zero => rfl
  | succ count ih => simp [List.replicate_succ, afterQuotes]

/-- The same strings open behind both, whatever code comes between. -/
def Alike (before other : List Char) : Prop :=
  ∀ front, opensVerbatim (front ++ before) = opensVerbatim (front ++ other)

theorem Alike.cons {before other : List Char} (alike : Alike before other) (c : Char) :
    Alike (c :: before) (c :: other) := by
  intro front
  simpa using alike (front ++ [c])

theorem opensVerbatim_cons_of_ne {c : Char} (not : c ≠ '@') (before : List Char) :
    opensVerbatim (c :: before) = (c == '$' && before.head? == some '@') := by
  unfold opensVerbatim
  split
  · next same => exact absurd (List.cons.inj same).1 not
  · next same =>
      obtain ⟨rfl, rfl⟩ := List.cons.inj same
      rfl
  · next other _ =>
      cases before with
      | nil => simp
      | cons d rest =>
          by_cases dollar : c = '$' <;> by_cases second : d = '@' <;> simp_all

/-- What stands in front of a blank does not matter behind it. -/
theorem alike_of_blank {c : Char} (blank : isBlank c = true) (before : List Char) :
    Alike (c :: before) [] := by
  -- two characters are looked at: those of `front`, and the blank if there are fewer of them
  have first : c ≠ '@' := isBlank_ne blank (by decide)
  have dollar : c ≠ '$' := isBlank_ne blank (by decide)
  intro front
  cases front with
  | nil =>
      change opensVerbatim (c :: before) = false
      simp [opensVerbatim_cons_of_ne first, dollar]
  | cons d rest =>
      by_cases sign : d = '@'
      · subst sign
        rfl
      · cases rest with
        | nil => simp [opensVerbatim_cons_of_ne sign, first]
        | cons e more => simp [opensVerbatim_cons_of_ne sign]

/-- Only what is before a quote tells whether it opens a verbatim string. -/
theorem step?_congr {before other : List Char} (alike : Alike before other) (mode : Mode)
    (seen : Bool) (text : List Char) :
    step? mode before seen text = none ∧ step? mode other seen text = none ∨
      ∃ next behind, Alike next.before behind ∧ step? mode before seen text = some next ∧
        step? mode other seen text = some { next with before := behind } := by
  have same : opensVerbatim other = opensVerbatim before := (alike []).symm
  have nothing : Alike [] [] := fun _ => rfl
  fun_cases step? mode before seen text with
  | case1 | case8 => exact .inl ⟨rfl, rfl⟩
  | case14 | case15 | case16 => exact .inr ⟨_, _, alike.cons _, rfl, by simp [step?, *]⟩
  | _ => exact .inr ⟨_, [], nothing, rfl, by simp [step?, *]⟩

theorem scan_congr {before other : List Char} (alike : Alike before other) (mode : Mode)
    (seen : Bool) (text : List Char) : scan mode before seen text = scan mode other seen text := by
  induction mode, before, seen, text using step_induction generalizing other with
  | stop mode before seen text ends =>
      rcases step?_congr alike mode seen text with ⟨-, endsOther⟩ | ⟨next, behind, -, made, -⟩
      · rw [scan_of_end ends, scan_of_end endsOther]
      · cases ends.symm.trans made
  | step mode before seen text next made ih =>
      rcases step?_congr alike mode seen text with
        ⟨ends, -⟩ | ⟨_, behind, alikeBehind, same, madeOther⟩
      · cases made.symm.trans ends
      · obtain rfl := Option.some.inj (made.symm.trans same)
        rw [scan_of_step made, scan_of_step madeOther, ih alikeBehind]

theorem scan_code_append_left {blanks : List Char} (blank : Blanks blanks) (seen : Bool)
    (text : List Char) : scan .code [] seen (blanks ++ text) = scan .code [] seen text := by
  induction blanks with
  | nil => rfl
  | cons c later ih =>
      rw [List.cons_append, scan_of_step (step?_code_blank blank.head)]
      exact (scan_congr (alike_of_blank blank.head []) .code seen _).trans (ih blank.tail)

/-- A line of code is read the same at every margin. -/
theorem scanLine_append_left {blanks : List Char} (blank : Blanks blanks) (line : List Char) :
    scanLine .code (blanks ++ line) = scanLine .code line :=
  scan_code_append_left blank false line

theorem quoteRun_append {blanks : List Char} (blank : Blanks blanks) (text : List Char) :
    quoteRun (text ++ blanks) = quoteRun text := by
  induction text with
  | nil =>
      cases blanks with
      | nil => rfl
      | cons c later => simp [quoteRun, isBlank_ne blank.head (show isBlank '"' = false by decide)]
  | cons c rest ih =>
      unfold quoteRun at ih ⊢
      by_cases quote : c = '"' <;> simp [quote, ih]

theorem afterQuotes_append {blanks : List Char} (blank : Blanks blanks) (text : List Char) :
    afterQuotes (text ++ blanks) = afterQuotes text ++ blanks := by
  induction text with
  | nil =>
      cases blanks with
      | nil => rfl
      | cons c later =>
          simp [afterQuotes, isBlank_ne blank.head (show isBlank '"' = false by decide)]
  | cons c rest ih =>
      unfold afterQuotes at ih ⊢
      by_cases quote : c = '"' <;> simp [quote, ih]

theorem afterLiteral_cons {quote c : Char} (plain : c ≠ '\\') (rest : List Char) :
    afterLiteral quote (c :: rest) = if c = quote then rest else afterLiteral quote rest :=
  afterLiteral.eq_3 quote c rest fun _ _ same _ => plain same

theorem afterLiteral_blanks {blanks : List Char} {quote : Char} (visible : isBlank quote = false)
    (blank : Blanks blanks) : afterLiteral quote blanks = [] := by
  induction blanks with
  | nil => rfl
  | cons c later ih =>
      rw [afterLiteral_cons (isBlank_ne blank.head (by decide)),
        if_neg (isBlank_ne blank.head visible), ih blank.tail]

/-- Of the blanks at the end of a line a literal takes all or none. -/
theorem afterLiteral_append {blanks : List Char} {quote : Char} (visible : isBlank quote = false)
    (plain : quote ≠ '\\') (blank : Blanks blanks) (text : List Char) :
    ∃ left, Blanks left ∧
      afterLiteral quote (text ++ blanks) = afterLiteral quote text ++ left := by
  fun_induction afterLiteral quote text with
  | case1 => exact ⟨[], .nil, by simpa using afterLiteral_blanks visible blank⟩
  | case2 head rest ih => exact ih
  | case3 rest _ =>
      refine ⟨blanks, blank, ?_⟩
      rw [List.cons_append, afterLiteral_cons plain, if_pos rfl]
  | case4 c rest single other ih =>
      by_cases escape : c = '\\'
      · -- the backslash is the last character, and takes the first blank with it
        subst escape
        obtain rfl : rest = [] := List.eq_nil_iff_forall_not_mem.mpr fun d member => by
          obtain ⟨first, more, form⟩ := List.exists_cons_of_ne_nil (List.ne_nil_of_mem member)
          exact single first more rfl form
        refine ⟨[], .nil, ?_⟩
        cases blanks with
        | nil => simp [afterLiteral, other]
        | cons b later => simpa [afterLiteral] using afterLiteral_blanks visible blank.tail
      · obtain ⟨left, blankLeft, same⟩ := ih
        refine ⟨left, blankLeft, ?_⟩
        rw [List.cons_append, afterLiteral_cons escape, if_neg other, same]

theorem scan_blanks {blanks : List Char} (blank : Blanks blanks) (mode : Mode)
    (before : List Char) (seen : Bool) : scan mode before seen blanks = ⟨0, 0, 0, mode⟩ := by
  induction blanks generalizing before with
  | nil => rw [scan.eq_1]
  | cons c later ih =>
      obtain ⟨behind, made⟩ := exists_step?_blank blank.head
      rw [scan_of_step made]
      exact ih blank.tail behind

theorem append_blanks_ne_cons {blanks rest : List Char} {c : Char} (blank : Blanks blanks)
    (visible : isBlank c = false) (other : ∀ more, rest = c :: more → False) (later : List Char)
    (same : rest ++ blanks = c :: later) : False := by
  cases rest with
  | cons d more =>
      obtain ⟨rfl, -⟩ := List.cons.inj same
      exact other more rfl
  | nil =>
      subst same
      exact isBlank_ne blank.head visible rfl

/-- A step that reads something before the blanks at the end of a line leaves blanks over, and in a
string it leaves all of them. -/
theorem step?_append_right {blanks text : List Char} (blank : Blanks blanks) (present : text ≠ [])
    (mode : Mode) (before : List Char) (seen : Bool) :
    ∃ left, Blanks left ∧ (mode.inString = true → left = blanks) ∧
      step? mode before seen (text ++ blanks) =
        (step? mode before seen text).map fun next => { next with rest := next.rest ++ left } := by
  have unread {c first second : Char} {rest : List Char} (visible : isBlank second = false)
      (absent : ∀ more, c = first → rest = second :: more → False) :
      ∀ more, c = first → rest ++ blanks = second :: more → False := fun more same =>
    append_blanks_ne_cons blank visible (fun more => absent more same) more
  fun_cases step? mode before seen text with
  | case1 => exact absurd rfl present
  | case3 c rest notEnd =>
      refine ⟨blanks, blank, fun _ => rfl, ?_⟩
      rw [List.cons_append, step?.eq_3 _ _ _ _ (unread (by decide) notEnd), Option.map_some]
  | case5 c rest single =>
      refine ⟨blanks, blank, fun _ => rfl, ?_⟩
      rw [List.cons_append, step?.eq_5 _ _ _ _ (unread (by decide) single), Option.map_some]
  | case12 rest short plain =>
      have visible : isBlank '"' = false := by decide
      obtain ⟨left, blankLeft, same⟩ := afterLiteral_append visible (by decide) blank rest
      refine ⟨left, blankLeft, nofun, ?_⟩
      simp [step?, quoteRun_append blank, *]
  | case13 rest =>
      have visible : isBlank '\'' = false := by decide
      obtain ⟨left, blankLeft, same⟩ := afterLiteral_append visible (by decide) blank rest
      refine ⟨left, blankLeft, nofun, ?_⟩
      simp [step?, *]
  | case16 c rest line block quote apostrophe opening closing =>
      refine ⟨blanks, blank, fun _ => rfl, ?_⟩
      rw [List.cons_append, step?.eq_14 _ _ _ _ (unread (by decide) line)
        (unread (by decide) block) quote apostrophe opening closing, Option.map_some]
  | _ =>
      refine ⟨blanks, blank, fun _ => rfl, ?_⟩
      simp [step?, quoteRun_append blank, afterQuotes_append blank, *]

/-- Blanks at the end of a line are not read at all. -/
theorem scan_append_right {blanks : List Char} (blank : Blanks blanks) (mode : Mode)
    (before : List Char) (seen : Bool) (text : List Char) :
    scan mode before seen (text ++ blanks) = scan mode before seen text := by
  induction mode, before, seen, text using step_induction generalizing blanks with
  | stop mode before seen text ends =>
      rw [scan_of_end ends]
      by_cases empty : text = []
      · rw [empty, List.nil_append, scan_blanks blank]
      · obtain ⟨left, -, -, again⟩ := step?_append_right blank empty mode before seen
        rw [ends, Option.map_none] at again
        exact scan_of_end again
  | step mode before seen text next made ih =>
      obtain ⟨left, blankLeft, -, again⟩ :=
        step?_append_right blank (ne_nil_of_step? made) mode before seen
      rw [made, Option.map_some] at again
      rw [scan_of_step made, scan_of_step again]
      exact congrArg next.count (ih blankLeft)

/-- A line is read the same with and without the blanks at its end. -/
theorem scanLine_append_right {blanks : List Char} (blank : Blanks blanks) (mode : Mode)
    (line : List Char) : scanLine mode (line ++ blanks) = scanLine mode line :=
  scan_append_right blank mode [] false line

end ConstructorAction.Layout
