import ConstructorAction.Tools.LineSort.Numeric
import ConstructorAction.Tools.LineSort.Version

namespace ConstructorAction.Tools.LineSort

/-!
Sort keys: which part of a line is compared, and how.
-/

/-- Characters that are left out of a comparison. -/
inductive Ignored where
  | none
  /-- All but blanks, letters and digits. -/
  | nonDictionary
  | nonPrinting
  deriving DecidableEq, Repr, Inhabited

/-- How keys are compared. -/
structure KeyOrder where
  ignored : Ignored := .none
  foldCase : Bool := false
  skipStartBlanks : Bool := false
  skipEndBlanks : Bool := false
  numeric : Bool := false
  general : Bool := false
  human : Bool := false
  month : Bool := false
  version : Bool := false
  random : Bool := false
  reverse : Bool := false
  deriving DecidableEq, Repr, Inhabited

/-- A place in a line: fields and characters to skip. -/
structure KeyPlace where
  fields : Nat
  characters : Nat
  deriving DecidableEq, Repr, Inhabited

/-- A key; without an end it goes to the end of the line. An end without characters is that of its
field. -/
structure Key where
  start : KeyPlace := ⟨0, 0⟩
  stop : Option KeyPlace := none
  order : KeyOrder := {}
  deriving DecidableEq, Repr, Inhabited

namespace KeyOrder

/-- Whether nothing is said about the order, except perhaps that it is reversed. -/
def isDefault (order : KeyOrder) : Bool := { order with reverse := false } == {}

/-- Which end of a key the letter `b` is about. -/
inductive Side where
  | start
  | stop
  | both
  deriving DecidableEq, Repr

def letter? (side : Side) (order : KeyOrder) (letter : Char) : Option KeyOrder :=
  match letter with
  | 'b' =>
      some { order with
        skipStartBlanks := order.skipStartBlanks || side != .stop
        skipEndBlanks := order.skipEndBlanks || side != .start }
  | 'd' => some { order with ignored := .nonDictionary }
  | 'f' => some { order with foldCase := true }
  | 'g' => some { order with general := true }
  | 'h' => some { order with human := true }
  | 'i' =>
      some { order with
        ignored := if order.ignored = .none then .nonPrinting else order.ignored }
  | 'M' => some { order with month := true }
  | 'n' => some { order with numeric := true }
  | 'R' => some { order with random := true }
  | 'r' => some { order with reverse := true }
  | 'V' => some { order with version := true }
  | _ => none

/-- Takes over letters up to the first that is none of an order. -/
def letters (side : Side) (order : KeyOrder) : ByteText → KeyOrder × ByteText
  | [] => (order, [])
  | letter :: rest =>
      match order.letter? side letter with
      | none => (order, letter :: rest)
      | some order => order.letters side rest

/-- The letters of an order that does not fit together, or none if it does. -/
def clash? (order : KeyOrder) : Option String :=
  let kinds := [order.numeric, order.general, order.human, order.month,
    order.version || order.random || order.ignored != .none]
  if kinds.count true ≤ 1 then none
  else
    let letters := [(order.ignored == .nonDictionary, 'd'), (order.foldCase, 'f'),
      (order.general, 'g'), (order.human, 'h'), (order.ignored == .nonPrinting, 'i'),
      (order.month, 'M'), (order.numeric, 'n'), (order.random, 'R'), (order.version, 'V')]
    some (String.ofList ((letters.filter (·.1)).map (·.2)))

def view (order : KeyOrder) (key : ByteText) : ByteText :=
  let kept := key.filter fun c =>
    match order.ignored with
    | .none => true
    | .nonDictionary => isBlankInKeys c || c.isAlphanum
    | .nonPrinting => isPrintable c
  if order.foldCase then kept.map Char.toUpper else kept

def monthNames : List String :=
  ["JAN", "FEB", "MAR", "APR", "MAY", "JUN", "JUL", "AUG", "SEP", "OCT", "NOV", "DEC"]

/-- The number of the month that a key starts with, or zero. -/
def monthOf (key : ByteText) : Nat :=
  let name := ((key.dropWhile isBlankInKeys).take 3).map Char.toUpper
  match monthNames.findIdx? fun month => month.toList == name with
  | some index => index + 1
  | none => 0

def compareKeys (order : KeyOrder) (left right : ByteText) : Ordering :=
  let left := order.view left
  let right := order.view right
  let decided :=
    if order.numeric then numericOrder left right
    else if order.general then generalOrder left right
    else if order.human then humanOrder left right
    else if order.month then compare (monthOf left) (monthOf right)
    else if order.version && !order.random then versionOrder left right
    else compare left right
  if order.reverse then decided.swap else decided

end KeyOrder

/-- What is left of a line behind a number of fields. Without a separator, a field starts with the
blanks in front of it. A separator behind the last of the fields is skipped if `skipsLast`. -/
def skipFields (separator : Option Char) (skipsLast : Bool) : Nat → ByteText → ByteText
  | 0, line => line
  | count + 1, line =>
      match separator with
      | some mark =>
          let rest := line.dropWhile (· != mark)
          if count = 0 ∧ !skipsLast then rest
          else skipFields separator skipsLast count rest.tail
      | none =>
          let field := line.dropWhile isBlankInKeys
          skipFields separator skipsLast count (field.dropWhile fun c => !isBlankInKeys c)

namespace Key

def fromStart (key : Key) (separator : Option Char) (line : ByteText) : ByteText :=
  let rest := skipFields separator true (min key.start.fields (line.length + 1)) line
  let rest := if key.order.skipStartBlanks then rest.dropWhile isBlankInKeys else rest
  rest.drop key.start.characters

def fromStop (key : Key) (separator : Option Char) (line : ByteText) : ByteText :=
  match key.stop with
  | none => []
  | some stop =>
      let wholeField := stop.characters = 0
      let fields := if wholeField then stop.fields + 1 else stop.fields
      let rest := skipFields separator (!wholeField) (min fields (line.length + 1)) line
      if wholeField then rest
      else
        let rest := if key.order.skipEndBlanks then rest.dropWhile isBlankInKeys else rest
        rest.drop stop.characters

/-- The part of a line that a key is about; empty if the end is before the start. -/
def ofLine (key : Key) (separator : Option Char) (line : ByteText) : ByteText :=
  let rest := key.fromStart separator line
  rest.take (rest.length - (key.fromStop separator line).length)

def compareLines (key : Key) (separator : Option Char) (left right : ByteText) : Ordering :=
  key.order.compareKeys (key.ofLine separator left) (key.ofLine separator right)

end Key

end ConstructorAction.Tools.LineSort
