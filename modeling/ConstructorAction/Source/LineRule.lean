import ConstructorAction.Text.Blank
import ConstructorAction.Text.Word

namespace ConstructorAction.Source

open ConstructorAction.Text

/-!
The rules that tell a declaration of C# from one line. A line is read as attributes in brackets,
then modifiers, then the declaration itself: `class` or `struct` and a name, or a type, a name and
what makes the line a field (`;`) or a property (`{ get; … }`). Attributes and modifiers may also be
read as part of the type, since a type may hold brackets and words: of all readings the one counts
that gives the most to the blanks, attributes and modifiers in front, and then the shortest type.

`starts` lists the places where the declaration itself may start, the preferred one first; `typeAnd`
tries the types at such a place from the shortest on. Angle brackets are counted without a bound:
signed 32 bits hold the count on a line with fewer than 2^31 of them.
-/

/-- The rests of a text after some of its leading blanks but not all of them, the shortest first. -/
def insideBlanks (text : List Char) : List (List Char) :=
  go [] text
where
  go (longer : List (List Char)) : List Char → List (List Char)
    | [] => longer
    | c :: rest => if isBlank c then go ((c :: rest) :: longer) rest else longer

/-- What follows an attribute group: a bracket and everything up to the next closing bracket. -/
def afterAttribute? : List Char → Option (List Char)
  | '[' :: rest =>
      match rest.dropWhile (· != ']') with
      | ']' :: after => some after
      | _ => none
  | _ => none

def modifierWords : List (List Char) :=
  ["public", "private", "protected", "internal", "abstract", "sealed", "static", "readonly", "ref",
    "virtual", "override", "new", "required", "volatile", "unsafe"].map String.toList

/-- What follows a word of a list, if the text starts with one and a blank stands behind it. -/
def afterWord? (known : List (List Char)) (text : List Char) : Option (List Char) :=
  let parts := firstWord text
  if known.contains parts.1 && !parts.2.isEmpty then some parts.2 else none

theorem length_afterAttribute?_lt {text rest : List Char}
    (found : afterAttribute? text = some rest) : rest.length < text.length := by
  unfold afterAttribute? at found
  split at found
  · next inner =>
      split at found
      · next after same =>
          cases found
          have shorter := (List.dropWhile_sublist (l := inner) (· != ']')).length_le
          rw [same] at shorter
          simp only [List.length_cons] at shorter ⊢
          omega
      · contradiction
  · contradiction

theorem length_afterWord?_lt {known : List (List Char)} {text rest : List Char}
    (word : [] ∉ known) (found : afterWord? known text = some rest) :
    rest.length < text.length := by
  simp only [afterWord?, Option.ite_none_right_eq_some, Option.some.injEq,
    Bool.and_eq_true] at found
  obtain ⟨⟨member, _⟩, rfl⟩ := found
  have whole := congrArg List.length
    (List.takeWhile_append_dropWhile (p := fun c => !isBlank c) (l := text))
  have nonempty : (text.takeWhile fun c => !isBlank c) ≠ [] := by
    intro empty
    rw [firstWord, empty] at member
    exact word (List.contains_iff_mem.mp member)
  have positive := List.length_pos_iff.mpr nonempty
  simp only [List.length_append] at whole
  simp only [firstWord]
  omega

theorem nil_notMem_modifierWords : [] ∉ modifierWords := by decide

/-- The places after any number of attribute groups, each with blanks behind it. -/
def afterAttributes (text : List Char) : List (List Char) :=
  match _found : afterAttribute? text with
  | none => [text]
  | some rest => afterAttributes (trimStart rest) ++ insideBlanks rest ++ [text]
termination_by text.length
decreasing_by
  exact Nat.lt_of_le_of_lt (length_trimStart_le rest) (length_afterAttribute?_lt _found)

/-- The places after any number of modifiers, each with at least one blank behind it. -/
def afterModifiers (text : List Char) : List (List Char) :=
  match _found : afterWord? modifierWords text with
  | none => [text]
  | some rest => afterModifiers (trimStart rest) ++ insideBlanks (rest.drop 1) ++ [text]
termination_by text.length
decreasing_by
  exact Nat.lt_of_le_of_lt (length_trimStart_le rest)
    (length_afterWord?_lt nil_notMem_modifierWords _found)

/-- The places where a declaration may start. -/
def starts (line : List Char) : List (List Char) :=
  (afterAttributes (trimStart line)).flatMap afterModifiers ++ insideBlanks line

/-- The longest identifier in front of a text, and what follows it. -/
def identifier? : List Char → Option (List Char × List Char)
  | [] => none
  | c :: rest =>
      if isNameStart c then some (c :: rest.takeWhile isWordChar, rest.dropWhile isWordChar)
      else none

/-- What follows at least one blank and all blanks behind it. -/
def afterBlanks? : List Char → Option (List Char)
  | [] => none
  | c :: rest => if isBlank c then some (trimStart rest) else none

/-- What follows a character that may have blanks in front of it. -/
def afterMark? (mark : Char) (text : List Char) : Option (List Char) :=
  match trimStart text with
  | [] => none
  | c :: rest => if c = mark then some rest else none

def typeKeywords : List (List Char) := ["class", "struct"].map String.toList

/-- The name behind `class` or `struct`. -/
def typeName? (text : List Char) : Option (List Char) :=
  match afterWord? typeKeywords text with
  | none => none
  | some rest => (identifier? (trimStart rest)).map (·.1)

/-- The name of the class or struct that a line declares. -/
def declaredType? (line : List Char) : Option (List Char) :=
  (starts line).findSome? typeName?

/-- Characters of which the type of a member is made. -/
def isTypeChar (c : Char) : Bool :=
  isWordChar c || c == '<' || c == '>' || c == ',' || c == '.' || c == '?' || c == '[' ||
    c == ']' || isBlank c

/-- Characters with which the type of a member ends. -/
def isTypeEnd (c : Char) : Bool := isWordChar c || c == '>' || c == '?' || c == ']'

/-- The shortest type in front of a text that `tail` can read on from, with what it reads. -/
def typeAnd (tail : List Char → Option α) : List Char → Option (List Char × α)
  | [] => none
  | c :: rest =>
      match if isTypeEnd c then tail rest else none with
      | some found => some ([c], found)
      | none =>
          if isTypeChar c then (typeAnd tail rest).map fun (type, found) => (c :: type, found)
          else none

/-- The end of a field: blanks, a name, a semicolon, and at most a line comment. -/
def fieldTail? (text : List Char) : Option (List Char) := do
  let (name, rest) ← identifier? (← afterBlanks? text)
  let rest := trimStart (← afterMark? ';' rest)
  match rest with
  | [] => some name
  | '/' :: '/' :: comment => if comment.contains '\n' then none else some name
  | _ => none

def accessWords : List (List Char) := ["private", "protected", "internal"].map String.toList

/-- What follows the word `get`, with or without an access modifier in front of it. -/
def afterGet? (text : List Char) : Option (List Char) :=
  match (match afterWord? accessWords text with
    | some rest => trimStart rest
    | none => text) with
  | 'g' :: 'e' :: 't' :: rest => some rest
  | _ => none

/-- The end of a property: blanks, a name, and braces that start with a getter and hold no braces;
with it, whether an initial value follows. -/
def propertyTail? (text : List Char) : Option (List Char × Bool) := do
  let (name, rest) ← identifier? (← afterBlanks? text)
  let rest ← afterGet? (trimStart (← afterMark? '\x7b' rest))
  let body ← afterMark? ';' rest
  match body.dropWhile fun c => c != '\x7b' && c != '\x7d' with
  | '\x7d' :: after => some (name, (trimStart after).head? == some '=')
  | _ => none

/-- Words that open a statement of the form `word name;`. What looks like a type and starts with one
of them is none. -/
def statementWords : List (List Char) :=
  ["return", "throw", "yield", "goto", "await", "using", "namespace", "break", "continue", "case",
    "else", "do", "var", "event", "delete", "const", "in", "out"].map String.toList

/-- Whether angle brackets pair up and every comma is inside a pair; `depth` pairs are open. -/
def commasInsideBrackets (depth : Nat) : List Char → Bool
  | [] => depth == 0
  | '<' :: rest => commasInsideBrackets (depth + 1) rest
  | '>' :: rest => depth != 0 && commasInsideBrackets (depth - 1) rest
  | ',' :: rest => depth != 0 && commasInsideBrackets depth rest
  | _ :: rest => commasInsideBrackets depth rest

/-- Whether a trimmed text can be the type of one member. -/
def isMemberType (type : List Char) : Bool :=
  !statementWords.contains (type.takeWhile isNameChar) && commasInsideBrackets 0 type

/-- The type and the name of a member. -/
structure Member where
  declaredType : List Char
  name : List Char
  deriving DecidableEq, Repr

def member? (type name : List Char) : Option Member :=
  if isMemberType (trim type) then some ⟨trim type, name⟩ else none

/-- A field without an initial value, such as `private readonly string _name;`. -/
def field? (line : List Char) : Option Member :=
  match (starts line).findSome? (typeAnd fieldTail?) with
  | none => none
  | some (type, name) => member? type name

/-- A property with a getter and without an initial value, such as `public int X { get; set; }`. -/
def property? (line : List Char) : Option Member :=
  match (starts line).findSome? (typeAnd propertyTail?) with
  | none => none
  | some (type, name, initialised) => if initialised then none else member? type name

end ConstructorAction.Source
