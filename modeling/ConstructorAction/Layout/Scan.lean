import ConstructorAction.Text.Blank

namespace ConstructorAction.Layout

open ConstructorAction.Text

/-!
The braces of one line of C#, with strings, characters and comments left out. A line starts in the
state that the line before it ended in. Braces are counted without a bound: on a line with fewer
than 2^31 of them signed counters of 32 bits come to the same.
-/

/-- What a line break may be inside of. -/
inductive Mode where
  | code
  | blockComment
  /-- Behind `@"`; two quotes stand for one. -/
  | verbatim
  /-- Behind a run of at least three quotes; a run at least as long ends it. -/
  | raw (quotes : Nat)
  deriving DecidableEq, Repr, Inhabited

def Mode.inString : Mode → Bool
  | .verbatim | .raw _ => true
  | .code | .blockComment => false

/-- The braces of a line and the state behind it. -/
structure LineScan where
  opens : Nat
  closes : Nat
  /-- Closing braces with nothing but blanks and comments before them. -/
  leadingCloses : Nat
  mode : Mode
  deriving DecidableEq, Repr, Inhabited

def LineScan.open (scan : LineScan) : LineScan := { scan with opens := scan.opens + 1 }

/-- Counts a closing brace, as a leading one if it is one. -/
def LineScan.close (leading : Bool) (scan : LineScan) : LineScan :=
  { scan with
    closes := scan.closes + 1
    leadingCloses := scan.leadingCloses + if leading then 1 else 0 }

/-- The number of quotes in front of a text. -/
def quoteRun (text : List Char) : Nat := (text.takeWhile (· == '"')).length

def afterQuotes (text : List Char) : List Char := text.dropWhile (· == '"')

/-- What follows a literal on one line, its opening quote already read. A backslash takes the next
character with it; a literal without a closing quote reaches to the end of the line. -/
def afterLiteral (quote : Char) : List Char → List Char
  | [] => []
  | '\\' :: _ :: rest => afterLiteral quote rest
  | c :: rest => if c = quote then rest else afterLiteral quote rest

/-- Whether a quote behind these characters, the nearest first, opens a verbatim string. -/
def opensVerbatim : List Char → Bool
  | '@' :: _ | '$' :: '@' :: _ => true
  | _ => false

theorem length_afterQuotes_le (text : List Char) : (afterQuotes text).length ≤ text.length :=
  (List.dropWhile_sublist _).length_le

theorem length_afterLiteral_le (quote : Char) (text : List Char) :
    (afterLiteral quote text).length ≤ text.length := by
  fun_induction afterLiteral quote text <;> simp_all <;> omega

/-- Reads the rest of a line. `before` holds the characters of code directly before it, the nearest
first; `seen` tells whether the line has shown code other than closing braces. -/
def scan (mode : Mode) (before : List Char) (seen : Bool) (text : List Char) : LineScan :=
  match mode, text with
  | mode, [] => ⟨0, 0, 0, mode⟩
  | .blockComment, '*' :: '/' :: rest => scan .code [] seen rest
  | .blockComment, _ :: rest => scan .blockComment [] seen rest
  | .verbatim, '"' :: '"' :: rest => scan .verbatim [] seen rest
  | .verbatim, c :: rest => scan (if c = '"' then .code else .verbatim) [] seen rest
  | .raw quotes, '"' :: rest =>
      scan (if quotes ≤ quoteRun rest + 1 then .code else .raw quotes) [] seen (afterQuotes rest)
  | .raw quotes, _ :: rest => scan (.raw quotes) [] seen rest
  | .code, '/' :: '/' :: _ => ⟨0, 0, 0, .code⟩
  | .code, '/' :: '*' :: rest => scan .blockComment [] seen rest
  | .code, '"' :: rest =>
      if 3 ≤ quoteRun rest + 1 then scan (.raw (quoteRun rest + 1)) [] true (afterQuotes rest)
      else if opensVerbatim before then scan .verbatim [] true rest
      else scan .code [] true (afterLiteral '"' rest)
  | .code, '\'' :: rest => scan .code [] true (afterLiteral '\'' rest)
  | .code, '\x7b' :: rest => (scan .code ('\x7b' :: before) true rest).open
  | .code, '\x7d' :: rest => (scan .code ('\x7d' :: before) seen rest).close (!seen)
  | .code, c :: rest => scan .code (c :: before) (seen || !isBlank c) rest
termination_by text.length
decreasing_by
  all_goals simp only [List.length_cons]
  all_goals first
    | omega
    | (have shorter := length_afterQuotes_le rest; omega)
    | (have shorter := length_afterLiteral_le '"' rest; omega)
    | (have shorter := length_afterLiteral_le '\'' rest; omega)

/-- A whole line. -/
def scanLine (mode : Mode) (line : List Char) : LineScan := scan mode [] false line

end ConstructorAction.Layout
