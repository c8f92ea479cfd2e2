import ConstructorAction.Text.Numeral
import ConstructorAction.Tools.Pattern

namespace ConstructorAction.Tools

open ConstructorAction.Text

/-!
The written form of regular expressions. There are several notations, which differ in what needs a
backslash to be special and what loses its special meaning by one.
-/

/-- The choices that make up a notation. -/
structure Notation where
  /-- Parentheses, bars and braces are special without a backslash, and repetition marks are so
  everywhere. -/
  extended : Bool := false
  /-- Plus and question mark repeat without a backslash, instead of with one. -/
  plainMarks : Bool := false
  hasBounds : Bool := true
  hasClasses : Bool := true
  /-- Whether the dot stands for line feeds, too. -/
  dotTakesFeed : Bool := true
  /-- Whether a negated set contains the line feed. -/
  othersTakeFeed : Bool := true
  /-- Whether an interval may end before it starts; it is empty then. -/
  takesReversed : Bool := false
  /-- A repetition mark may not follow another, and no caret an anchor. -/
  refusesDoubleMarks : Bool := false
  deriving DecidableEq, Repr, Inhabited

namespace Notation

def basic : Notation := { refusesDoubleMarks := true }

def extendedForm : Notation := { extended := true, plainMarks := true }

/-- Without bounds and classes, and with lines that end where the dot does. -/
def separator : Notation :=
  { plainMarks := true
    hasBounds := false
    hasClasses := false
    dotTakesFeed := false
    takesReversed := true }

/-- The same notation for searches in which lines end at line feeds. -/
def byLines (form : Notation) : Notation :=
  { form with dotTakesFeed := false, othersTakeFeed := false }

end Notation

/-- Why an expression cannot be read. -/
inductive PatternError where
  | unknownCollation
  | unknownClass
  | endsInBackslash
  | unknownGroup
  | openBracket
  /-- Nothing at all follows an opening bracket. -/
  | lostBracket
  | openGroup
  | openBounds
  | badBounds
  | badInterval
  | nothingToRepeat
  | tooBig
  | unopenedGroup
  | endsEarly
  /-- A class that does not stand in a set. -/
  | bareClass
  deriving DecidableEq, Repr

def PatternError.message : PatternError → String
  | .unknownCollation => "Invalid collation character"
  | .unknownClass => "Invalid character class name"
  | .endsInBackslash => "Trailing backslash"
  | .unknownGroup => "Invalid back reference"
  | .openBracket => "Unmatched [, [^, [:, [., or [="
  | .lostBracket => "Invalid regular expression"
  | .openGroup => "Unmatched ( or \\("
  | .openBounds => "Unmatched \\\x7b"
  | .badBounds => "Invalid content of \\\x7b\\\x7d"
  | .badInterval => "Invalid range end"
  | .nothingToRepeat => "Invalid preceding regular expression"
  | .tooBig => "Regular expression too big"
  | .unopenedGroup => "Unmatched ) or \\)"
  | .endsEarly => "Premature end of regular expression"
  | .bareClass => "character class syntax is [[:space:]], not [:space:]"

namespace Pattern

inductive Token where
  | char (c : Char)
  | alternative
  | backReference (number : Nat)
  | openGroup
  | closeGroup
  | openBounds
  | closeBounds
  | star
  | plus
  | question
  | bracket
  | any
  /-- What matches at a place, without a character. -/
  | anchor (pattern : Pattern)
  | ofSet (set : CharSet)
  | loneBackslash
  | finish
  deriving DecidableEq, Repr, Inhabited

def wordIntervals : List (Char × Char) := [('a', 'z'), ('A', 'Z'), ('0', '9'), ('_', '_')]

def spaceIntervals : List (Char × Char) := [('\t', '\r'), (' ', ' ')]

def escapedToken (form : Notation) (c : Char) : Token :=
  match c with
  | '|' => if form.extended then .char c else .alternative
  | '<' => .anchor .wordStart
  | '>' => .anchor .wordEnd
  | 'b' => .anchor (.wordEdge true)
  | 'B' => .anchor (.wordEdge false)
  | '\x60' => .anchor .textStart
  | '\'' => .anchor .textEnd
  | 'w' => .ofSet { intervals := wordIntervals }
  | 'W' => .ofSet { negated := true, intervals := wordIntervals }
  | 's' => .ofSet { intervals := spaceIntervals }
  | 'S' => .ofSet { negated := true, intervals := spaceIntervals }
  | '(' => if form.extended then .char c else .openGroup
  | ')' => if form.extended then .char c else .closeGroup
  | '+' => if form.plainMarks then .char c else .plus
  | '?' => if form.plainMarks then .char c else .question
  | '\x7b' => if form.hasBounds && !form.extended then .openBounds else .char c
  | '\x7d' => if form.hasBounds && !form.extended then .closeBounds else .char c
  | c => if '1' ≤ c ∧ c ≤ '9' then .backReference (c.toNat - 48) else .char c

/-- What a caret is that comes next, in notations where that depends on its place. -/
inductive CaretRole where
  | char
  | anchor
  /-- Behind another anchor. -/
  | repeated
  deriving DecidableEq, Repr, Inhabited

def nothing : Pattern := .oneOf {}

def nextToken (form : Notation) (caret : CaretRole) (text : ByteText) : Token × ByteText :=
  match text with
  | [] => (.finish, [])
  | '\\' :: [] => (.loneBackslash, [])
  | '\\' :: c :: rest => (escapedToken form c, rest)
  | c :: rest =>
      let token := match c with
        | '*' => .star
        | '[' => .bracket
        | '.' => .any
        | '+' => if form.plainMarks then .plus else .char c
        | '?' => if form.plainMarks then .question else .char c
        | '|' => if form.extended then .alternative else .char c
        | '(' => if form.extended then .openGroup else .char c
        | ')' => if form.extended then .closeGroup else .char c
        | '\x7b' => if form.extended && form.hasBounds then .openBounds else .char c
        | '\x7d' => if form.extended && form.hasBounds then .closeBounds else .char c
        | '^' =>
            if form.extended then .anchor .lineStart
            else
              match caret with
              | .char => .char c
              | .anchor => .anchor .lineStart
              | .repeated => .anchor (if form.refusesDoubleMarks then nothing else .lineStart)
        | '$' =>
            let endsHere := match rest with
              | [] => true
              | '\\' :: '|' :: _ | '\\' :: ')' :: _ => true
              | _ => false
            if form.extended || endsHere then .anchor .lineEnd else .char c
        | c => .char c
      (token, rest)

/-- The intervals of a named class such as `[:alpha:]`. -/
def classIntervals? (name : ByteText) : Option (List (Char × Char)) :=
  (characterClass? (String.ofList name)).map fun isMember =>
    (allBytes.filter isMember).map fun c => (c, c)

/-- One element of a set. -/
inductive SetElement where
  | char (c : Char)
  | members (intervals : List (Char × Char))

/-- The name between a pair of marks such as `[:` and `:]`, at most 31 characters of it. -/
def markedName (mark : Char) : Nat → ByteText → Option (ByteText × ByteText)
  | 0, _ => none
  | _ + 1, [] => none
  | fuel + 1, c :: rest =>
      match rest with
      | [] => none
      | d :: after =>
          if c = mark ∧ d = ']' then some ([], after)
          else (markedName mark fuel rest).map fun (name, after) => (c :: name, after)

/-- An element of a set; a hyphen counts as one only where `takesHyphen` says so or at the end. -/
def readElement (form : Notation) (takesHyphen : Bool) (text : ByteText) :
    Except PatternError (SetElement × ByteText) :=
  match text with
  | [] => .error .openBracket
  | '[' :: mark :: rest =>
      if mark = '.' ∨ mark = '=' ∨ (mark = ':' ∧ form.hasClasses) then
        match markedName mark 32 rest with
        | none => .error .openBracket
        | some (name, rest) =>
            if mark = ':' then
              match classIntervals? name with
              | none => .error .unknownClass
              | some intervals => .ok (.members intervals, rest)
            else
              match name with
              | [c] => .ok (if mark = '=' then .members [(c, c)] else .char c, rest)
              | _ => .error .unknownCollation
      else .ok (.char '[', mark :: rest)
  | '-' :: rest =>
      if takesHyphen || rest.head? == some ']' then .ok (.char '-', rest) else .error .badInterval
  | c :: rest => .ok (.char c, rest)

/-- The elements of a set up to its closing bracket. In front of all others a closing bracket is an
element itself. -/
def readSet (form : Notation) :
    Nat → Bool → ByteText → Except PatternError (List (Char × Char) × ByteText)
  | 0, _, _ => .error .openBracket
  | fuel + 1, isFirst, text => do
      let (start, rest) ← readElement form isFirst text
      let (intervals, rest) ← match start, rest with
        | .char _, [] => Except.error PatternError.openBracket
        | .char first, '-' :: ']' :: rest => .ok ([(first, first)], '-' :: ']' :: rest)
        | .char _, ['-'] => .error .openBracket
        | .char first, '-' :: rest =>
            match readElement form true rest with
            | .error problem => .error problem
            | .ok (.members _, _) => .error .badInterval
            | .ok (.char last, rest) =>
                if last < first && !form.takesReversed then .error .badInterval
                else .ok ([(first, last)], rest)
        | .char c, rest => .ok ([(c, c)], rest)
        | .members intervals, rest => .ok (intervals, rest)
      match rest with
      | [] => .error .openBracket
      | ']' :: rest => .ok (intervals, rest)
      | rest =>
          let (more, rest) ← readSet form fuel false rest
          .ok (intervals ++ more, rest)

def readBracket (form : Notation) (text : ByteText) : Except PatternError (CharSet × ByteText) := do
  let (negated, inside) := match text with
    | '^' :: rest => (true, rest)
    | text => (false, text)
  if inside.isEmpty then .error .lostBracket
  let (intervals, rest) ← readSet form (inside.length + 1) true inside
  let intervals :=
    if negated && !form.othersTakeFeed then ('\n', '\n') :: intervals else intervals
  .ok (⟨negated, intervals⟩, rest)

def opensClass : ByteText → Bool
  | '[' :: mark :: rest => mark == ':' || mark == '.' || mark == '=' || opensClass (mark :: rest)
  | _ :: rest => opensClass rest
  | [] => false

/-- Whether the inside of a set looks like `:alpha:`, as if its author forgot the outer brackets. -/
def isBareClass (inside : ByteText) : Bool :=
  inside.head? == some ':' && inside.getLast? == some ':' && inside.any (· != ':') &&
    !inside.contains '-' && !opensClass inside

/-- The inside of a set that `rest` follows. -/
def insideOf (text rest : ByteText) : ByteText :=
  let inside := text.take (text.length - rest.length - 1)
  if inside.head? == some '^' then inside.tail else inside

/-- A number inside bounds and the token behind it. -/
inductive BoundNumber where
  | missing
  | malformed
  | number (value : Nat)
  deriving DecidableEq, Repr

def repetitionLimit : Nat := 32767

def readBoundNumber (form : Notation) :
    Nat → BoundNumber → ByteText → BoundNumber × Token × ByteText
  | 0, _, text => (.malformed, .finish, text)
  | fuel + 1, number, text =>
      match nextToken form .char text with
      | (.finish, rest) => (.malformed, .finish, rest)
      | (.closeBounds, rest) => (number, .closeBounds, rest)
      | (.char ',', rest) => (number, .char ',', rest)
      | (.char c, rest) =>
          let number :=
            if !c.isDigit then .malformed
            else
              match number with
              | .malformed => .malformed
              | .missing => .number (digitValue c)
              | .number value => .number (min (repetitionLimit + 1) (value * 10 + digitValue c))
          readBoundNumber form fuel number rest
      | (_, rest) => readBoundNumber form fuel .malformed rest

/-- Bounds such as `2`, `2,` or `2,5`, up to the closing brace. -/
def readBounds (form : Notation) (text : ByteText) :
    Except PatternError (Nat × Option Nat × ByteText) :=
  let fuel := text.length + 1
  let (low, token, rest) := readBoundNumber form fuel .missing text
  let malformed := fun token : Token =>
    if token = .finish then PatternError.openBounds else .badBounds
  let start : Except PatternError Nat := match low with
    | .number value => .ok value
    | .missing => if token = .char ',' then .ok 0 else .error .badBounds
    | .malformed => .error (malformed token)
  match start with
  | .error problem => .error problem
  | .ok least =>
      let (most, token, rest) : Except PatternError (Option Nat) × Token × ByteText :=
        if token = .closeBounds then (.ok (some least), token, rest)
        else if token = .char ',' then
          match readBoundNumber form fuel .missing rest with
          | (.number value, token, rest) => (.ok (some value), token, rest)
          | (.missing, token, rest) => (.ok none, token, rest)
          | (.malformed, token, rest) => (.error (malformed token), token, rest)
        else (.error (malformed token), token, rest)
      match most with
      | .error problem => .error problem
      | .ok most =>
          if most.any (· < least) || token != .closeBounds then .error .badBounds
          else if repetitionLimit < most.getD least then .error .tooBig
          else .ok (least, most, rest)

/-- What is read of an expression: the current token, what follows it, and the groups that were
opened and closed so far. -/
structure Reading where
  token : Token
  rest : ByteText
  opened : Nat := 0
  closed : List Nat := []
  /-- Whether there was a set that looks like a class. -/
  hasBareClass : Bool := false
  deriving Repr, Inhabited

def Reading.advance (reading : Reading) (form : Notation) (caret : CaretRole) : Reading :=
  let (token, rest) := nextToken form caret reading.rest
  { reading with token, rest }

def isMark (token : Token) : Bool :=
  token == .star || token == .plus || token == .question || token == .openBounds

def readMarks (form : Notation) :
    Nat → Pattern → Reading → Except PatternError (Pattern × Reading)
  | 0, _, _ => .error .tooBig
  | fuel + 1, atom, reading =>
      if !isMark reading.token then .ok (atom, reading)
      else do
        let (least, most, rest) ← match reading.token with
          | .star => (.ok (0, none, reading.rest) : Except _ (Nat × Option Nat × ByteText))
          | .plus => .ok (1, none, reading.rest)
          | .question => .ok (0, some 1, reading.rest)
          | _ => readBounds form reading.rest
        let reading := { reading with rest }.advance form .char
        let atom := if most = some 0 then .empty else .repeated atom least most
        if form.refusesDoubleMarks && (reading.token == .star || reading.token == .openBounds) then
          .error .nothingToRepeat
        else readMarks form fuel atom reading

def endsSequence (nested : Bool) (token : Token) : Bool :=
  token == .alternative || token == .finish || (nested && token == .closeGroup)

mutual

def readChoice (form : Notation) :
    Nat → Bool → Reading → Except PatternError (Pattern × Reading)
  | 0, _, _ => .error .tooBig
  | fuel + 1, nested, reading => do
      let (left, reading) ← readSequence form fuel nested reading
      if reading.token = .alternative then
        let (right, reading) ← readChoice form fuel nested (reading.advance form .anchor)
        .ok (.or left right, reading)
      else .ok (left, reading)

def readSequence (form : Notation) :
    Nat → Bool → Reading → Except PatternError (Pattern × Reading)
  | 0, _, _ => .error .tooBig
  | fuel + 1, nested, reading =>
      if endsSequence nested reading.token then .ok (.empty, reading)
      else do
        let (atom, reading) ← readAtom form fuel reading
        let (later, reading) ← readSequence form fuel nested reading
        .ok (.then atom later, reading)

def readAtom (form : Notation) : Nat → Reading → Except PatternError (Pattern × Reading)
  | 0, _ => .error .tooBig
  | fuel + 1, reading => do
      let finish := fun (atom : Pattern) (reading : Reading) =>
        readMarks form (reading.rest.length + 1) atom (reading.advance form .char)
      match reading.token with
      | .char c => finish (single c) reading
      | .closeBounds => finish (single '\x7d') reading
      | .any =>
          finish (.oneOf ⟨true, if form.dotTakesFeed then [] else [('\n', '\n')]⟩) reading
      | .ofSet set => finish (.oneOf set) reading
      | .anchor pattern => .ok (pattern, reading.advance form .repeated)
      | .bracket =>
          let (set, rest) ← readBracket form reading.rest
          finish (.oneOf set)
            { reading with
              rest
              hasBareClass := reading.hasBareClass || isBareClass (insideOf reading.rest rest) }
      | .backReference number =>
          if reading.closed.contains number then finish (.again number) reading
          else .error .unknownGroup
      | .openGroup =>
          let number := reading.opened + 1
          let inside := { reading with opened := number }.advance form .anchor
          let (inner, after) ← readChoice form fuel true inside
          if after.token = .closeGroup then
            finish (.group number inner) { after with closed := number :: after.closed }
          else .error .openGroup
      | .closeGroup => .error .unopenedGroup
      | .loneBackslash => .error .endsInBackslash
      | .star | .plus | .question | .openBounds =>
          if form.refusesDoubleMarks then
            match reading.token with
            | .star => finish (single '*') reading
            | .plus => finish (single '+') reading
            | .question => finish (single '?') reading
            | _ => .error .nothingToRepeat
          else if form.extended then .error .nothingToRepeat
          else
            match reading.token with
            | .plus => finish (single '+') reading
            | .question => finish (single '?') reading
            | _ => finish (single '*') reading
      | .alternative | .finish => .ok (.empty, reading)

end

def parse (form : Notation) (text : ByteText) : Except PatternError Pattern := do
  let start : Reading := { token := .finish, rest := text }
  let (pattern, read) ← readChoice form (3 * text.length + 3) false (start.advance form .anchor)
  if form.hasClasses && read.hasBareClass then .error .bareClass else .ok pattern

end Pattern

end ConstructorAction.Tools
