import ConstructorAction.Tools.ByteText

namespace ConstructorAction.Tools

/-!
Regular expressions of text tools. Of all matches the one counts that starts first, and of those the
longest. How the groups share it out follows the order of preference of the expression: the left
alternative first, and as many repetitions as possible.
-/

/-- A set of characters, as members and as intervals. -/
structure CharSet where
  negated : Bool := false
  intervals : List (Char × Char) := []
  deriving DecidableEq, Repr, Inhabited

def CharSet.contains (set : CharSet) (ignoreCase : Bool) (c : Char) : Bool :=
  let within := fun d : Char => set.intervals.any fun (first, last) => first ≤ d && d ≤ last
  let found := if ignoreCase then within c.toLower || within c.toUpper else within c
  found != set.negated

inductive Pattern where
  | empty
  | oneOf (set : CharSet)
  | then (first second : Pattern)
  | or (left right : Pattern)
  | repeated (inner : Pattern) (least : Nat) (most : Option Nat)
  | group (number : Nat) (inner : Pattern)
  /-- The text of a group once more. -/
  | again (number : Nat)
  | lineStart
  | lineEnd
  | textStart
  | textEnd
  /-- Between a word character and none, or not. -/
  | wordEdge (wanted : Bool)
  | wordStart
  | wordEnd
  deriving DecidableEq, Repr, Inhabited

/-- How a pattern is looked for. -/
structure SearchMode where
  ignoreCase : Bool := false
  /-- What lines end in, if lines within the text count. -/
  lineBreak : Option Char := none
  deriving DecidableEq, Repr, Inhabited

namespace Pattern

def single (c : Char) : Pattern := .oneOf { intervals := [(c, c)] }

def isWord (c : Char) : Bool := c.isAlphanum || c == '_'

def groupCount : Pattern → Nat
  | .then first second => first.groupCount + second.groupCount
  | .or left right => left.groupCount + right.groupCount
  | .repeated inner _ _ => inner.groupCount
  | .group _ inner => inner.groupCount + 1
  | _ => 0

/-- Whether the text of a group matters for the rest of a match. -/
def hasBackReference : Pattern → Bool
  | .then first second => first.hasBackReference || second.hasBackReference
  | .or left right => left.hasBackReference || right.hasBackReference
  | .repeated inner _ _ => inner.hasBackReference
  | .group _ inner => inner.hasBackReference
  | .again _ => true
  | _ => false

/-- A place in a text: what is before it, the nearest first, what follows, and the groups matched on
the way. -/
structure Place where
  before : ByteText
  rest : ByteText
  groups : List (Nat × ByteText) := []
  deriving DecidableEq, Repr

/-- Two places that the rest of a match cannot tell apart. -/
def Place.sameAs (byGroups : Bool) (left right : Place) : Bool :=
  left.rest.length == right.rest.length && (!byGroups || left.groups == right.groups)

def distinct (byGroups : Bool) (places : List Place) : List Place :=
  (places.foldl (fun kept place =>
    if kept.any (Place.sameAs byGroups place) then kept else place :: kept) []).reverse

def fold (ignoreCase : Bool) (c : Char) : Char := if ignoreCase then c.toLower else c

def Place.wordBefore (place : Place) : Bool := place.before.head?.any isWord

def Place.wordAfter (place : Place) : Bool := place.rest.head?.any isWord

def Place.atTextStart (place : Place) : Bool := place.before.isEmpty

def Place.atTextEnd (place : Place) : Bool := place.rest.isEmpty

/-- Applies a step at least `least` and at most `most` times, more often first. -/
def repeatAtMost (byGroups : Bool) (step : Place → List Place) : Nat → Nat → Place → List Place
  | 0, _, place => [place]
  | most + 1, least, place =>
      let further := (step place).flatMap fun next =>
        if place.rest.length ≤ next.rest.length && least = 0 then []
        else repeatAtMost byGroups step most (least - 1) next
      distinct byGroups (if least = 0 then further ++ [place] else further)

/-- Applies a step any number of times, more often first. Places that were reached before are left
out; `seen` holds them. -/
def repeatFreely (byGroups : Bool) (step : Place → List Place) :
    Nat → List Place → Place → List Place × List Place
  | 0, seen, place => ([place], seen)
  | fuel + 1, seen, place =>
      let (further, seen) := (step place).foldl (fun (reached, seen) next =>
        if place.rest.length ≤ next.rest.length || seen.any (Place.sameAs byGroups next) then
          (reached, seen)
        else
          let (more, seen) := repeatFreely byGroups step fuel seen next
          (reached ++ more, seen)) (([], place :: seen) : List Place × List Place)
      (further ++ [place], seen)

/-- Every place behind a match that starts at a place, in order of preference. -/
def after (mode : SearchMode) (byGroups : Bool) : Pattern → Place → List Place
  | .empty, place => [place]
  | .oneOf set, place =>
      match place.rest with
      | [] => []
      | c :: rest =>
          if set.contains mode.ignoreCase c then
            [{ place with before := c :: place.before, rest }]
          else []
  | .then first second, place =>
      distinct byGroups
        ((after mode byGroups first place).flatMap (after mode byGroups second))
  | .or left right, place =>
      distinct byGroups (after mode byGroups left place ++ after mode byGroups right place)
  | .repeated inner least (some most), place =>
      repeatAtMost byGroups (after mode byGroups inner) most least place
  | .repeated inner least none, place =>
      let step := after mode byGroups inner
      let started := (List.range least).foldl (fun places _ =>
        distinct byGroups (places.flatMap step)) [place]
      distinct byGroups (started.flatMap fun place =>
        (repeatFreely byGroups step (place.rest.length + 1) [] place).1)
  | .group number inner, place =>
      (after mode byGroups inner place).map fun next =>
        { next with
          groups := (number, place.rest.take (place.rest.length - next.rest.length)) ::
            next.groups.filter fun group => group.1 != number }
  | .again number, place =>
      match place.groups.lookup number with
      | none => []
      | some text =>
          let found := place.rest.take text.length
          if found.map (fold mode.ignoreCase) = text.map (fold mode.ignoreCase) then
            [{ place with
              before := found.reverse ++ place.before
              rest := place.rest.drop text.length }]
          else []
  | .lineStart, place =>
      if place.atTextStart || (mode.lineBreak.isSome && place.before.head? == mode.lineBreak) then
        [place]
      else []
  | .lineEnd, place =>
      if place.atTextEnd || (mode.lineBreak.isSome && place.rest.head? == mode.lineBreak) then
        [place]
      else []
  | .textStart, place => if place.atTextStart then [place] else []
  | .textEnd, place => if place.atTextEnd then [place] else []
  | .wordEdge wanted, place =>
      if (place.wordBefore != place.wordAfter) == wanted then [place] else []
  | .wordStart, place => if !place.wordBefore && place.wordAfter then [place] else []
  | .wordEnd, place => if place.wordBefore && !place.wordAfter then [place] else []

/-- The longest match at a place; of several the preferred one. -/
def longestAt? (pattern : Pattern) (mode : SearchMode) (place : Place) : Option Place :=
  (after mode pattern.hasBackReference pattern place).foldl (fun best next =>
    match best with
    | none => some next
    | some found => if next.rest.length < found.rest.length then some next else best) none

/-- The first match from a place on: the text before it, and the place behind it. -/
def find? (pattern : Pattern) (mode : SearchMode) (before : ByteText) :
    ByteText → Option (ByteText × Place)
  | [] => (pattern.longestAt? mode ⟨before, [], []⟩).map ([], ·)
  | c :: rest =>
      match pattern.longestAt? mode ⟨before, c :: rest, []⟩ with
      | some found => some ([], found)
      | none => (find? pattern mode (c :: before) rest).map fun (skipped, found) =>
          (c :: skipped, found)

def isFoundIn (pattern : Pattern) (mode : SearchMode) (text : ByteText) : Bool :=
  (pattern.find? mode [] text).isSome

end Pattern

end ConstructorAction.Tools
