import ConstructorAction.Tools.ByteText

namespace ConstructorAction.Tools.Shell

/-!
Patterns of the command interpreter: a star for any text, a question mark for any character, and
characters or classes between brackets. A backslash takes the meaning from the next character.
-/

/-- What stands between brackets. -/
inductive SetMember where
  | range (first last : Char)
  | class_ (name : String)
  deriving DecidableEq, Repr, Inhabited

inductive PatternItem where
  | one (c : Char)
  | any
  | star
  | set (negated : Bool) (members : List SetMember)
  deriving DecidableEq, Repr, Inhabited

def SetMember.contains (member : SetMember) (c : Char) : Bool :=
  match member with
  | .range first last => first ≤ c && c ≤ last
  | .class_ name => ((characterClass? name).map (· c)).getD false

/-- The name of a class behind its opening bracket and colon, and what follows. -/
def readClass? (text : ByteText) : Option (String × ByteText) :=
  match text with
  | ':' :: rest =>
      let name := rest.takeWhile fun c => c != ':'
      match rest.drop name.length with
      | ':' :: ']' :: after =>
          let name := String.ofList name
          if (characterClass? name).isSome then some (name, after) else none
      | _ => none
  | _ => none

/-- The members of a set up to the closing bracket, and what follows it. A bracket that comes
first is a member. -/
def readMembers : Nat → Bool → ByteText → Option (List SetMember × ByteText)
  | 0, _, _ => none
  | _ + 1, _, [] => none
  | fuel + 1, isFirst, c :: rest =>
      if c = ']' ∧ !isFirst then some ([], rest)
      else
        let next := fun (member : SetMember) (rest : ByteText) => do
          let (members, rest) ← readMembers fuel false rest
          return (member :: members, rest)
        match if c = '[' then readClass? rest else none with
        | some (name, rest) => next (.class_ name) rest
        | none =>
            let (first, rest) := match c, rest with
              | '\\', first :: rest => (first, rest)
              | c, rest => (c, rest)
            match rest with
            | '-' :: '\\' :: last :: rest => next (.range first last) rest
            | '-' :: last :: after =>
                if last = ']' then next (.range first first) rest
                else next (.range first last) after
            | rest => next (.range first first) rest

/-- A pattern as a list of items. A bracket that is not closed stands for itself. -/
def readPattern : Nat → ByteText → List PatternItem
  | 0, _ => []
  | _ + 1, [] => []
  | fuel + 1, c :: rest =>
      match c, rest with
      | '\\', c :: rest => .one c :: readPattern fuel rest
      | '?', rest => .any :: readPattern fuel rest
      | '*', rest => .star :: readPattern fuel rest
      | '[', rest =>
          let (negated, inside) := match rest with
            | '!' :: inside => (true, inside)
            | inside => (false, inside)
          match readMembers (inside.length + 1) true inside with
          | some (members, rest) => .set negated members :: readPattern fuel rest
          | none => .one '[' :: readPattern fuel rest
      | c, rest => .one c :: readPattern fuel rest

def pattern (text : ByteText) : List PatternItem := readPattern (text.length + 1) text

/-- Whether a star in front of a match of `later` is a match. -/
def matchesBehindStar (later : ByteText → Bool) : ByteText → Bool
  | [] => later []
  | c :: rest => later (c :: rest) || matchesBehindStar later rest

def PatternItem.accepts (item : PatternItem) (c : Char) : Bool :=
  match item with
  | .one other => other == c
  | .any | .star => true
  | .set negated members => members.any (·.contains c) != negated

def isMatch : List PatternItem → ByteText → Bool
  | [], text => text.isEmpty
  | .star :: later, text => matchesBehindStar (isMatch later) text
  | item :: later, text =>
      match text with
      | [] => false
      | c :: rest => item.accepts c && isMatch later rest

/-- Where a pattern cuts a text in two, if it matches one side: behind the cut, or in front of it.
The longest match behind the cut and the shortest one in front of it are looked for from the start.
A NUL character ends what is looked at: as a pattern sees it, the text stops there. -/
def trimPlace? (items : List PatternItem) (atEnd longest : Bool) (text : ByteText) : Option Nat :=
  let seen := fun text : ByteText => text.takeWhile (· != '\x00')
  let places := if atEnd == longest then List.range ((seen text).length + 1)
    else (List.range (text.length + 1)).reverse
  places.find? fun place =>
    isMatch items (seen (if atEnd then text.drop place else text.take place))

end ConstructorAction.Tools.Shell
