import ConstructorAction.Proofs.Layout.Scan
import Mathlib.Data.List.Chain
import Mathlib.Data.List.Infix

namespace ConstructorAction.Layout

open ConstructorAction.Text

/-!
Lines of code put together from tokens. Whatever a string, a character or a comment holds, the
scanner is back in code where the token ends (`scan_token`), so that it counts those braces that
are tokens, and no others (`scanLine_codeLine`).
-/

/-- What stands between the quotes of a literal. A backslash comes with the character behind it. -/
inductive Content (quote : Char) : List Char → Prop where
  | nil : Content quote []
  | plain {c : Char} {rest : List Char} (other : c ≠ quote) (single : c ≠ '\\')
      (behind : Content quote rest) : Content quote (c :: rest)
  | pair (c : Char) {rest : List Char} (behind : Content quote rest) :
      Content quote ('\\' :: c :: rest)

/-- What stands in a raw string of so many quotes. -/
structure RawContent (quotes : Nat) (content : List Char) : Prop where
  noRun : ¬ List.replicate quotes '"' <:+: content
  start : content.head? ≠ some '"'
  stop : content.getLast? ≠ some '"'

inductive Token where
  | blank (c : Char) (isBlank : isBlank c = true)
  | symbol (c : Char) (isPlain : isPlain c = true) (visible : Text.isBlank c = false)
  | openBrace
  | closeBrace
  | string (content : List Char) (valid : Content '"' content)
  | character (content : List Char) (valid : Content '\'' content)
  | raw (quotes : Nat) (content : List Char) (several : 3 ≤ quotes)
      (valid : RawContent quotes content)
  | comment (content : List Char) (inside : ¬ ['*', '/'] <:+: content)

namespace Token

@[simp] def text : Token → List Char
  | blank c _ | symbol c _ _ => [c]
  | openBrace => ['\x7b']
  | closeBrace => ['\x7d']
  | string content _ => '"' :: (content ++ ['"'])
  | character content _ => '\'' :: (content ++ ['\''])
  | raw quotes content _ _ =>
      List.replicate quotes '"' ++ (content ++ List.replicate quotes '"')
  | comment content _ => '/' :: '*' :: (content ++ ['*', '/'])

@[simp] def isOpenBrace : Token → Bool
  | openBrace => true
  | _ => false

@[simp] def isCloseBrace : Token → Bool
  | closeBrace => true
  | _ => false

def isString : Token → Bool
  | string _ _ => true
  | _ => false

def isQuoted : Token → Bool
  | string _ _ | raw _ _ _ _ => true
  | _ => false

/-- Whether closing braces behind the token may still be leading ones. -/
@[simp] def isLeading : Token → Bool
  | blank _ _ | closeBrace | comment _ _ => true
  | _ => false

/-- A raw string that is two runs of quotes and nothing between them. -/
def isHollow : Token → Bool
  | raw _ content _ _ => content.isEmpty
  | _ => false

/-- What the token adds to the braces of the tokens behind it. -/
@[simp] def count (seen : Bool) : Token → LineScan → LineScan
  | openBrace => .open
  | closeBrace => .close (!seen)
  | _ => id

end Token

def tokensText (tokens : List Token) : List Char := tokens.flatMap Token.text

@[simp] theorem tokensText_cons (token : Token) (later : List Token) :
    tokensText (token :: later) = token.text ++ tokensText later := rfl

/-- Whether a string that comes next is a verbatim one. -/
def endsInMark (front : List Char) : Bool :=
  ['@'].isSuffixOf front || ['@', '$'].isSuffixOf front

/-- Whether no string stands directly behind `@` or `@$`; `front` is what the tokens follow. -/
def ordinary (front : List Char) : List Token → Bool
  | [] => true
  | token :: later =>
      !(token.isString && endsInMark front) && ordinary (front ++ token.text) later

/-- A line of tokens, and what a comment up to its end says. -/
structure CodeLine where
  tokens : List Token
  remark : Option (List Char)
  apart : tokens.IsChain fun left right => ¬ (left.isQuoted = true ∧ right.isQuoted = true)
  ordinary : ordinary [] tokens = true

def remarkText : Option (List Char) → List Char
  | none => []
  | some remark => '/' :: '/' :: remark

def CodeLine.text (line : CodeLine) : List Char := tokensText line.tokens ++ remarkText line.remark

/-- The closing braces before the first token that shows code of another kind. -/
def leadingCloses (tokens : List Token) : Nat :=
  (tokens.takeWhile Token.isLeading).countP Token.isCloseBrace

theorem afterLiteral_content {quote : Char} {content : List Char} (valid : Content quote content)
    (escapes : quote ≠ '\\') (rest : List Char) :
    afterLiteral quote (content ++ quote :: rest) = rest := by
  induction valid with
  | nil => rw [List.nil_append, afterLiteral_cons escapes, if_pos rfl]
  | plain other single behind ih =>
      rw [List.cons_append, afterLiteral_cons single, if_neg other, ih]
  | pair c behind ih => exact ih

theorem scan_comment {content : List Char} (inside : ¬ ['*', '/'] <:+: content)
    (before : List Char) (seen : Bool) (rest : List Char) :
    scan .blockComment before seen (content ++ '*' :: '/' :: rest) = scan .code [] seen rest := by
  induction content generalizing before with
  | nil => exact scan.eq_2 before seen rest
  | cons c more ih =>
      have goesOn : ∀ later, c = '*' → more ++ '*' :: '/' :: rest = '/' :: later → False := by
        intro later star ends
        cases more with
        | nil => simp at ends
        | cons next tail =>
            obtain ⟨rfl, -⟩ := List.cons.inj ends
            exact inside ⟨[], tail, by simp [star]⟩
      have insideMore : ¬ ['*', '/'] <:+: more := fun infixed =>
        inside (infixed.trans (List.suffix_cons c more).isInfix)
      rw [List.cons_append, scan.eq_3 before seen c _ goesOn, ih insideMore]

theorem quoteRun_of_head? {text : List Char} (free : text.head? ≠ some '"') :
    quoteRun text = 0 := by
  cases text with
  | nil => rfl
  | cons c rest => simp_all [quoteRun]

theorem afterQuotes_of_head? {text : List Char} (free : text.head? ≠ some '"') :
    afterQuotes text = text := by
  cases text with
  | nil => rfl
  | cons c rest => simp_all [afterQuotes]

theorem exists_run (text : List Char) :
    ∃ count rest, text = List.replicate count '"' ++ rest ∧ rest.head? ≠ some '"' := by
  induction text with
  | nil => exact ⟨0, [], rfl, by simp⟩
  | cons c more ih =>
      by_cases quote : c = '"'
      · obtain ⟨count, rest, rfl, free⟩ := ih
        exact ⟨count + 1, rest, by simp [quote, List.replicate_succ], free⟩
      · exact ⟨0, c :: more, rfl, by simpa using quote⟩

/-- A run of quotes that a raw string is read up to ends it if it is long enough. -/
theorem scan_raw_run {quotes count : Nat} {rest : List Char} (free : rest.head? ≠ some '"')
    (before : List Char) (seen : Bool) :
    scan (.raw quotes) before seen (List.replicate (count + 1) '"' ++ rest) =
      scan (if quotes ≤ count + 1 then .code else .raw quotes) [] seen rest := by
  rw [List.replicate_succ, List.cons_append, scan.eq_6, quoteRun_quotes_append,
    afterQuotes_quotes_append, quoteRun_of_head? free, afterQuotes_of_head? free, Nat.add_zero]

/-- A shorter run is read over. -/
theorem scan_raw_short {quotes count : Nat} {c : Char} (short : count < quotes) (other : c ≠ '"')
    (before : List Char) (seen : Bool) (rest : List Char) :
    scan (.raw quotes) before seen (List.replicate count '"' ++ c :: rest) =
      scan (.raw quotes) [] seen rest := by
  cases count with
  | zero => exact scan_raw_cons other
  | succ count =>
      have free : (c :: rest).head? ≠ some '"' := by simpa using other
      rw [scan_raw_run free, if_neg (Nat.not_le_of_lt short), scan_raw_cons other]

/-- The content of a raw string is either empty, or it goes on behind a run that is too short. -/
theorem exists_short_run {quotes : Nat} {content : List Char}
    (noRun : ¬ List.replicate quotes '"' <:+: content) (stop : content.getLast? ≠ some '"') :
    content = [] ∨ ∃ count c tail, content = List.replicate count '"' ++ c :: tail ∧
      count < quotes ∧ c ≠ '"' ∧ ¬ List.replicate quotes '"' <:+: tail ∧
        tail.getLast? ≠ some '"' := by
  obtain ⟨count, rest, rfl, free⟩ := exists_run content
  cases rest with
  | nil =>
      cases count with
      | zero => exact .inl rfl
      | succ count => simp [List.getLast?_replicate] at stop
  | cons c tail =>
      refine .inr ⟨count, c, tail, rfl, ?_, by simpa using free, fun infixed => ?_, ?_⟩
      · refine Nat.lt_of_not_le fun long => noRun ?_
        have front : List.replicate quotes '"' <+: List.replicate count '"' := by
          rw [List.prefix_replicate_iff]
          simpa using long
        exact (front.trans (List.prefix_append _ _)).isInfix
      · have suffix : tail <:+ List.replicate count '"' ++ c :: tail :=
          (List.suffix_cons c tail).trans (List.suffix_append _ _)
        exact noRun (infixed.trans suffix.isInfix)
      · cases tail with
        | nil => simp
        | cons d later => simpa using stop

/-- A raw string goes up to the first run of quotes that is as long as the one it starts with. -/
theorem scan_raw {quotes : Nat} {content rest : List Char} (present : 0 < quotes)
    (noRun : ¬ List.replicate quotes '"' <:+: content) (stop : content.getLast? ≠ some '"')
    (free : rest.head? ≠ some '"') (before : List Char) (seen : Bool) :
    scan (.raw quotes) before seen (content ++ (List.replicate quotes '"' ++ rest)) =
      scan .code [] seen rest := by
  induction size : content.length using Nat.strongRecOn generalizing content before with
  | ind length ih =>
      rcases exists_short_run noRun stop with
        rfl | ⟨count, c, tail, rfl, short, other, noRunTail, stopTail⟩
      · obtain ⟨more, rfl⟩ := Nat.exists_eq_add_one.mpr present
        rw [List.nil_append, scan_raw_run free, if_pos (Nat.le_refl _)]
      · have shorter : tail.length < length := by
          rw [← size, List.length_append, List.length_cons]
          omega
        rw [List.append_assoc, List.cons_append, scan_raw_short short other]
        exact ih tail.length shorter noRunTail stopTail [] rfl

theorem scan_string {content rest : List Char} (valid : Content '"' content)
    (free : rest.head? ≠ some '"') {before : List Char} (ordinary : opensVerbatim before = false)
    (seen : Bool) :
    scan .code before seen ('"' :: (content ++ '"' :: rest)) = scan .code [] true rest := by
  have few : ¬ 3 ≤ quoteRun (content ++ '"' :: rest) + 1 := by
    cases valid with
    | nil =>
        have run : quoteRun ('"' :: rest) = 1 + quoteRun rest := quoteRun_quotes_append 1 rest
        rw [List.nil_append, run, quoteRun_of_head? free]
        omega
    | plain other single behind =>
        rw [quoteRun_of_head? (by simpa using other)]
        omega
    | pair c behind =>
        rw [quoteRun_of_head? (by simp)]
        omega
  rw [scan.eq_10, if_neg few, if_neg (Bool.not_eq_true _ ▸ ordinary),
    afterLiteral_content valid (by decide)]

theorem scan_rawString {quotes : Nat} {content rest : List Char} (several : 3 ≤ quotes)
    (valid : RawContent quotes content) (present : content ≠ []) (free : rest.head? ≠ some '"')
    (before : List Char) (seen : Bool) :
    scan .code before seen
        (List.replicate quotes '"' ++ (content ++ (List.replicate quotes '"' ++ rest))) =
      scan .code [] true rest := by
  have freeContent : (content ++ (List.replicate quotes '"' ++ rest)).head? ≠ some '"' := by
    rw [List.head?_append_of_ne_nil _ present]
    exact valid.start
  obtain ⟨more, rfl⟩ : ∃ more, quotes = more + 1 := ⟨quotes - 1, by omega⟩
  rw [List.replicate_succ, List.cons_append, ← List.replicate_succ, scan.eq_10,
    quoteRun_quotes_append, afterQuotes_quotes_append, quoteRun_of_head? freeContent,
    afterQuotes_of_head? freeContent, Nat.add_zero, if_pos several]
  exact scan_raw (Nat.succ_pos more) valid.noRun valid.stop free [] true

/-- What may stand in front of a token and behind it. -/
structure Token.Fits (token : Token) (before rest : List Char) : Prop where
  ordinary : token.isString = true → opensVerbatim before = false
  apart : token.isQuoted = true → rest.head? ≠ some '"'
  filled : token.isHollow = false

/-- The scanner counts a token that is a brace, and is in code behind each. -/
theorem scan_token {token : Token} {before rest : List Char} (fits : token.Fits before rest)
    (seen : Bool) :
    ∃ behind, behind.reverse <:+ before.reverse ++ token.text ∧
      scan .code before seen (token.text ++ rest) =
        token.count seen (scan .code behind (seen || !token.isLeading) rest) := by
  have nothing (text : List Char) : ([] : List Char).reverse <:+ text := List.nil_suffix
  have one (c : Char) : (c :: before).reverse <:+ before.reverse ++ [c] := by simp
  cases token with
  | blank c blank =>
      have read : scan .code before seen (c :: rest) = scan .code (c :: before) seen rest :=
        scan_of_step (step?_code_blank blank)
      exact ⟨c :: before, one c, by simpa using read⟩
  | symbol c plain visible =>
      have read : scan .code before seen (c :: rest) =
          scan .code (c :: before) (seen || !isBlank c) rest := scan_code_plain plain
      rw [visible] at read
      exact ⟨c :: before, one c, by simpa using read⟩
  | openBrace =>
      have read := scan.eq_12 before seen rest
      exact ⟨_, one '\x7b', by simpa using read⟩
  | closeBrace =>
      have read := scan.eq_13 before seen rest
      exact ⟨_, one '\x7d', by simpa using read⟩
  | string content valid =>
      have read := scan_string valid (fits.apart rfl) (fits.ordinary rfl) seen
      exact ⟨[], nothing _, by simpa using read⟩
  | character content valid =>
      have read := scan.eq_11 before seen (content ++ '\'' :: rest)
      rw [afterLiteral_content valid (by decide)] at read
      exact ⟨[], nothing _, by simpa using read⟩
  | raw quotes content several valid =>
      have present : content ≠ [] := by simpa [Token.isHollow] using fits.filled
      have read := scan_rawString several valid present (fits.apart rfl) before seen
      exact ⟨[], nothing _, by simpa using read⟩
  | comment content inside =>
      have read := scan.eq_9 before seen (content ++ '*' :: '/' :: rest)
      rw [scan_comment inside] at read
      exact ⟨[], nothing _, by simpa using read⟩

/-- The braces among some tokens; `seen` tells whether code stands in front of them. -/
def countTokens (seen : Bool) (tokens : List Token) : LineScan :=
  ⟨tokens.countP Token.isOpenBrace, tokens.countP Token.isCloseBrace,
    if seen then 0 else leadingCloses tokens, .code⟩

theorem count_countTokens (seen : Bool) (token : Token) (later : List Token) :
    token.count seen (countTokens (seen || !token.isLeading) later) =
      countTokens seen (token :: later) := by
  cases token <;> cases seen <;>
    simp [countTokens, leadingCloses, LineScan.open, LineScan.close, List.countP_cons,
      List.takeWhile_cons]

theorem head?_text_ne {token : Token} (unquoted : token.isQuoted = false) (rest : List Char) :
    (token.text ++ rest).head? ≠ some '"' := by
  cases token with
  | blank c blank => simpa using isBlank_ne blank (by decide)
  | symbol c plain visible =>
      rintro same
      obtain rfl : c = '"' := by simpa using same
      cases plain
  | openBrace | closeBrace | character content valid | comment content inside => simp
  | string content valid | raw quotes content several valid => cases unquoted

theorem head?_remarkText_ne (remark : Option (List Char)) :
    (remarkText remark).head? ≠ some '"' := by
  cases remark <;> simp [remarkText]

theorem scan_remark (before : List Char) (seen : Bool) (remark : Option (List Char)) :
    scan .code before seen (remarkText remark) = ⟨0, 0, 0, .code⟩ := by
  cases remark with
  | none => exact scan.eq_1 ..
  | some remark => exact scan.eq_8 before seen remark

theorem opensVerbatim_eq_false {before front : List Char} (inFront : before.reverse <:+ front)
    (unmarked : endsInMark front = false) : opensVerbatim before = false := by
  have noMark : ¬ ['@'] <:+ front ∧ ¬ ['@', '$'] <:+ front := by
    simpa [endsInMark, ← List.isSuffixOf_iff_suffix] using unmarked
  unfold opensVerbatim
  split
  · next tail =>
      rw [List.reverse_cons] at inFront
      exact absurd ((List.suffix_append _ _).trans inFront) noMark.1
  · next tail =>
      rw [List.reverse_cons, List.reverse_cons, List.append_assoc] at inFront
      exact absurd ((List.suffix_append _ _).trans inFront) noMark.2
  · rfl

/-- The scanner goes from token to token, with what it keeps of the text in front of each. -/
theorem scan_tokens {tokens : List Token} {front before : List Char}
    (inFront : before.reverse <:+ front) (plain : ordinary front tokens = true)
    (apart : tokens.IsChain fun left right => ¬ (left.isQuoted = true ∧ right.isQuoted = true))
    (filled : ∀ token ∈ tokens, token.isHollow = false) (seen : Bool)
    (remark : Option (List Char)) :
    scan .code before seen (tokensText tokens ++ remarkText remark) = countTokens seen tokens := by
  induction tokens generalizing before front seen with
  | nil =>
      have read := scan_remark before seen remark
      cases seen <;> exact read
  | cons token later ih =>
      obtain ⟨first, others⟩ := List.forall_mem_cons.mp filled
      simp only [ordinary, Bool.and_eq_true, Bool.not_eq_true'] at plain
      obtain ⟨plainFirst, plainLater⟩ := plain
      have fits : token.Fits before (tokensText later ++ remarkText remark) := by
        refine ⟨fun isString => ?_, fun isQuoted => ?_, first⟩
        · rw [isString, Bool.true_and] at plainFirst
          exact opensVerbatim_eq_false inFront plainFirst
        · cases later with
          | nil => exact head?_remarkText_ne remark
          | cons next more =>
              have pair := (List.isChain_cons_cons.mp apart).1
              have unquoted : next.isQuoted = false := by simpa [isQuoted] using pair
              rw [tokensText_cons, List.append_assoc]
              exact head?_text_ne unquoted _
      obtain ⟨behind, inBehind, read⟩ := scan_token fits seen
      have inFrontLater : behind.reverse <:+ front ++ token.text := by
        obtain ⟨passed, rfl⟩ := inFront
        rw [List.append_assoc]
        exact inBehind.trans (List.suffix_append _ _)
      rw [tokensText_cons, List.append_assoc, read, ih inFrontLater plainLater apart.tail others,
        count_countTokens]

/-- A line that is put together from tokens ends in code, and its braces are those of its tokens, if
no raw string is hollow. -/
theorem scanLine_codeLine (line : CodeLine)
    (filled : ∀ token ∈ line.tokens, token.isHollow = false) :
    scanLine .code line.text =
      ⟨line.tokens.countP Token.isOpenBrace, line.tokens.countP Token.isCloseBrace,
        leadingCloses line.tokens, .code⟩ := by
  have start : ([] : List Char).reverse <:+ [] := List.suffix_refl []
  exact scan_tokens start line.ordinary line.apart filled false line.remark

/-- A line with most kinds of tokens: a quote in a character, an opening brace in a string, and
others that are no braces in a raw string and in comments. -/
theorem scanLine_codeLine_of_mixed_tokens :
    let line : CodeLine :=
      { tokens := [.closeBrace, .comment "\x7b*".toList (by decide), .blank ' ' rfl, .closeBrace,
          .symbol '@' rfl rfl, .raw 3 "a\"\"\x7b".toList (by decide)
            ⟨by decide, by decide, by decide⟩,
          .character "\"".toList (.plain (by decide) (by decide) .nil),
          .string "\x7b\\\"".toList (.plain (by decide) (by decide) (.pair '"' .nil)), .openBrace]
        remark := some " \x7d".toList
        apart := by decide
        ordinary := by decide }
    (∀ token ∈ line.tokens, token.isHollow = false) ∧
      line.text = "\x7d/*\x7b**/ \x7d@\"\"\"a\"\"\x7b\"\"\"'\"'\"\x7b\\\"\"\x7b// \x7d".toList ∧
      scanLine .code line.text = ⟨1, 2, 2, .code⟩ := by
  intro line
  have filled : ∀ token ∈ line.tokens, token.isHollow = false := by decide
  refine ⟨filled, rfl, ?_⟩
  rw [scanLine_codeLine line filled]
  rfl

/-- Two runs of three quotes with nothing between them are one run of six: they open a raw string
and do not end it. -/
theorem scanLine_hollow :
    let line : CodeLine :=
      { tokens := [.raw 3 [] (by decide) ⟨by decide, by decide, by decide⟩]
        remark := none
        apart := by decide
        ordinary := by decide }
    line.text = "\"\"\"\"\"\"".toList ∧ scanLine .code line.text = ⟨0, 0, 0, .raw 6⟩ := by
  intro line
  refine ⟨rfl, ?_⟩
  decide +kernel

end ConstructorAction.Layout
