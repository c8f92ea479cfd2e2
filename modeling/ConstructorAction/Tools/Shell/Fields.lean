import ConstructorAction.Tools.ByteText

namespace ConstructorAction.Tools.Shell

/-!
Expanded words, and the fields that they are cut into. A word is only cut in the regions that come
from unquoted expansions, and a character keeps the mark that it was quoted, because a quoted one
has no meaning in patterns.
-/

/-- A character of an expanded word, or a place where quotes were. -/
inductive Cell where
  | char (c : Char)
  | quoted (c : Char)
  | mark
  deriving DecidableEq, Repr, Inhabited

/-- Where a word may be cut. Some regions are cut at NUL characters alone. -/
structure CutRegion where
  start : Nat
  stop : Nat
  atNulOnly : Bool := false
  deriving DecidableEq, Repr, Inhabited

/-- A word on its way, with its regions in order. -/
structure Expansion where
  cells : Array Cell := #[]
  regions : Array CutRegion := #[]
  deriving Repr, Inhabited

namespace Expansion

def size (expansion : Expansion) : Nat := expansion.cells.size

def add (expansion : Expansion) (cell : Cell) : Expansion :=
  { expansion with cells := expansion.cells.push cell }

def addAll (expansion : Expansion) (cells : List Cell) : Expansion :=
  { expansion with cells := expansion.cells ++ cells.toArray }

def region (expansion : Expansion) (start : Nat) (atNulOnly : Bool) : Expansion :=
  { expansion with
    regions := expansion.regions.push ⟨start, expansion.size, atNulOnly⟩ }

/-- Adds a character that may be cut; it makes one region with those in front of it. -/
def addLoose (expansion : Expansion) (c : Char) : Expansion :=
  let place := expansion.size
  let extended := match expansion.regions.back? with
    | some last =>
        if last.stop = place ∧ !last.atNulOnly then
          expansion.regions.pop.push { last with stop := place + 1 }
        else expansion.regions.push ⟨place, place + 1, false⟩
    | none => #[⟨place, place + 1, false⟩]
  { cells := expansion.cells.push (.char c), regions := extended }

def cutBack (expansion : Expansion) (place : Nat) : Expansion :=
  { cells := expansion.cells.take place
    regions := (expansion.regions.filter fun region => region.start < place).map fun region =>
      { region with stop := min region.stop place } }

def since (expansion : Expansion) (place : Nat) : List Cell :=
  expansion.cells.toList.drop place

end Expansion

def textOf (cells : List Cell) : ByteText :=
  cells.filterMap fun cell =>
    match cell with
    | .char c | .quoted c => some c
    | .mark => none

def Expansion.text (expansion : Expansion) : ByteText := textOf expansion.cells.toList

/-- A field as a pattern: quoted characters are put behind backslashes. A backslash that was not
quoted takes the meaning from the next character itself. -/
def patternText (cells : List Cell) : ByteText :=
  go true cells
where
  go (escapes : Bool) : List Cell → ByteText
    | [] => []
    | .mark :: rest => go true rest
    | .quoted c :: rest => (if escapes then ['\\', c] else [c]) ++ go true rest
    | .char c :: rest => c :: go (if c = '\\' then !escapes else true) rest

/-- Blanks separate fields together, as NUL characters do outside of regions of their own. -/
def standardSeparators : ByteText := [' ', '\t', '\n']

/-- A cut under way. -/
structure Cutting where
  /-- Where the open field starts. -/
  start : Nat := 0
  fields : List (List Cell) := []
  /-- Whether the last separator was a blank. -/
  behindBlank : Bool := false
  /-- How many more fields there may be, if that is limited. -/
  left : Option Nat := none
  /-- Where the rest of the last field is to be cut off. -/
  cutOff : Option Nat := none
  deriving Repr, Inhabited

/-- Moves over the cell at a place. In a region that is cut at NUL characters alone, or behind
one, every separator ends a field. -/
def Cutting.step (cells : Array Cell) (separators : ByteText) (isExact : Bool)
    (state : Cutting) (place : Nat) : Cutting :=
  let c := match cells[place]? with
    | some (.char c) | some (.quoted c) => some c
    | _ => none
  let isSeparator := c.any fun c => c == '\x00' || separators.contains c
  let isBlank := isSeparator && c.any fun c => c == '\x00' || standardSeparators.contains c
  match state.left with
  | some 0 =>
      if isBlank then { state with cutOff := some (state.cutOff.getD place) }
      else
        let cutOff := if isSeparator && state.behindBlank then state.cutOff else none
        { state with cutOff, behindBlank := false }
  | left =>
      let resumed := if state.behindBlank then
          { state with start := if isSeparator then place + 1 else place }
        else state
      if state.behindBlank && isBlank then resumed
      else
        let isSeparator := isSeparator && !state.behindBlank
        let state := resumed
        if isSeparator then
          let behindBlank := if isExact then state.behindBlank else isBlank
          if place = state.start ∧ behindBlank then
            { state with start := place + 1, behindBlank := false }
          else
            let isLast := left == some 1
            if isLast then
              { state with left := some 0, cutOff := some place, behindBlank }
            else
              { state with
                fields := (cells.extract state.start place).toList :: state.fields
                start := place + 1
                left := left.map (· - 1)
                behindBlank }
        else { state with behindBlank := false }

def Cutting.run (cells : Array Cell) (separators : ByteText) :
    Bool → Cutting → List CutRegion → Cutting × Bool
  | afterNul, state, [] => (state, afterNul)
  | afterNul, state, region :: later =>
      let separators' := if region.atNulOnly then [] else separators
      let places := (List.range (region.stop - region.start)).map (region.start + ·)
      let state := places.foldl
        (Cutting.step cells separators' (afterNul || region.atNulOnly))
        { state with behindBlank := false }
      run cells separators region.atNulOnly state later

/-- The fields of a word. There is one behind a region that is cut at NUL characters even if it is
empty, and otherwise none that is empty and was not quoted. -/
def cutFields (separators : ByteText) (limit : Option Nat) (expansion : Expansion) :
    List (List Cell) :=
  let cells := expansion.cells
  let (state, afterNul) :=
    Cutting.run cells separators false { left := limit } expansion.regions.toList
  let stop := state.cutOff.getD cells.size
  let last := (cells.extract state.start stop).toList
  let isWanted := afterNul || !last.isEmpty
  (if isWanted then last :: state.fields else state.fields).reverse

end ConstructorAction.Tools.Shell
