import ConstructorAction.Tools.Filter
import ConstructorAction.Tools.Transliterate.CharacterList

namespace ConstructorAction.Tools

/-!
The filter that maps, deletes and squeezes single characters, given as lists.
-/

namespace Transliterate

def options : List OptionForm :=
  [⟨"c", ["complement"], .never⟩, ⟨"C", [], .never⟩, ⟨"d", ["delete"], .never⟩,
   ⟨"s", ["squeeze-repeats"], .never⟩, ⟨"t", ["truncate-set1"], .never⟩, ⟨"A", [], .never⟩]

/-- What is to be done with characters. -/
structure Mode where
  complement : Bool := false
  delete : Bool := false
  squeeze : Bool := false
  truncate : Bool := false
  deriving DecidableEq, Repr, Inhabited

/-- Two lists that fit together, the second one as long as it has to be. -/
structure Pairing where
  first : List Element
  second : List Element
  deriving DecidableEq, Repr, Inhabited

/-- What is left of a list; `atStart` tells whether the first element is untouched. -/
structure Cursor where
  pending : List (Element × ByteText)
  atStart : Bool := true
  deriving DecidableEq, Repr, Inhabited

def Cursor.ofList (elements : List Element) : Cursor :=
  ⟨elements.map fun element => (element, element.expand), true⟩

def Cursor.next? (cursor : Cursor) : Option (Char × Element × Cursor) :=
  go cursor.pending
where
  go : List (Element × ByteText) → Option (Char × Element × Cursor)
    | [] => none
    | (_, []) :: later => go later
    | (element, [c]) :: later => some (c, element, ⟨later, true⟩)
    | (element, c :: rest) :: later => some (c, element, ⟨(element, rest) :: later, false⟩)

def Cursor.skip (cursor : Cursor) : Cursor := ⟨cursor.pending.tail, true⟩

/-- The number of characters that are left out when a class of letters stands for a change of
case. -/
def skippedLetters : Nat := 25

/-- Checks that classes of letters in the second list stand opposite of such in the first, and
counts them. -/
def alignedClasses : Nat → Cursor → Cursor → Except ListError Nat
  | 0, _, _ => .ok 0
  | fuel + 1, first, second =>
      match first.next?, second.next? with
      | left, some (_, element, after) =>
          if element.isCaseClass then
            match left with
            | some (_, opposite, before) =>
                if second.atStart && !(first.atStart && opposite.isCaseClass) then
                  .error .misaligned
                else (alignedClasses fuel before.skip after.skip).map (· + 1)
            | none => .error .misaligned
          else
            match left with
            | some (_, _, before) => alignedClasses fuel before after
            | none => .ok 0
      | _, none => .ok 0

/-- The pairs of a character and what it becomes. Opposite classes of letters change the case. -/
def pairs : Nat → Cursor → Cursor → List (Char × Char)
  | 0, _, _ => []
  | fuel + 1, first, second =>
      match first.next?, second.next? with
      | some (c, element, before), some (d, opposite, after) =>
          let these :=
            if element = .members "lower" ∧ opposite = .members "upper" then
              (interval 'a' 'z').map fun c => (c, c.toUpper)
            else if element = .members "upper" ∧ opposite = .members "lower" then
              (interval 'A' 'Z').map fun c => (c, c.toLower)
            else [(c, d)]
          if opposite.isCaseClass then these ++ pairs fuel before.skip after.skip
          else these ++ pairs fuel before after
      | _, _ => []

def complementOf (elements : List Element) : ByteText :=
  allBytes.filter fun c => !isIn elements c

/-- The number of characters that the first list stands for. -/
def Mode.firstSize (mode : Mode) (first : List Element) : Nat :=
  if mode.complement then (complementOf first).length else totalSize first

def continuation (elements : List Element) : Except ListError Char :=
  match elements.getLast? with
  | some (.members _) => .error .endsInClass
  | some (.interval _ last) => .ok last
  | some (.char c) | some (.equivalent c) | some (.repeated c _) => .ok c
  | none => .error .emptySecond

def isUniform (elements : List Element) : Bool :=
  match elements.flatMap Element.expand with
  | [] => false
  | c :: rest => rest.all (· == c)

def checkFirst (first : List Element) : Except ListError Unit :=
  if repeatLimit < totalSize first then .error .tooLong
  else if openRepeats first ≠ 0 then .error .openRepeatInFirst
  else .ok ()

def Mode.pair (mode : Mode) (translating : Bool) (first second : List Element) :
    Except ListError Pairing := do
  checkFirst first
  let firstSize := mode.firstSize first
  let size := totalSize second
  if repeatLimit < size then .error .tooLong
  let isOpen := openRepeats second = 1 ∧ size ≤ firstSize
  let length := if isOpen then firstSize - size else 0
  let fitted := second.map (Element.withLength length (firstSize + 1))
  if 1 < openRepeats second then .error .severalOpenRepeats
  if !translating then
    if openRepeats second ≠ 0 then .error .openRepeatOutside
    .ok ⟨first, fitted⟩
  else
    if second.any Element.isEquivalent then .error .equivalentInSecond
    if second.any fun element => element.isClass && !element.isCaseClass then
      .error .classInSecond
    let classes ←
      if mode.complement || !second.any Element.isClass then .ok 0
      else
        alignedClasses (totalSize first + totalSize fitted + 2) (.ofList first) (.ofList fitted)
    let firstSize := firstSize - classes * skippedLetters
    let secondSize := (if isOpen then size + length else size) - classes * skippedLetters
    let extended ←
      if firstSize ≤ secondSize || mode.truncate then .ok fitted
      else if secondSize = 0 then .error .emptySecond
      else do
        let c ← continuation fitted
        .ok (fitted ++ [.repeated c (firstSize - secondSize)])
    let extendedSize := if mode.truncate then secondSize else max firstSize secondSize
    if mode.complement && first.any Element.isClass &&
        !(extendedSize == firstSize && isUniform extended) then
      .error .complementedClass
    .ok ⟨first, extended⟩

def Mode.table (mode : Mode) (lists : Pairing) : List (Char × Char) :=
  if mode.complement then
    (complementOf lists.first).zip (lists.second.flatMap Element.expand)
  else
    (pairs (totalSize lists.first + 1) (.ofList lists.first) (.ofList lists.second)).reverse

def mapped (table : List (Char × Char)) (c : Char) : Char := (table.lookup c).getD c

/-- Keeps one of several equal characters in a row that are to be squeezed. -/
def squeezed (isMember : Char → Bool) (last : Option Char) : ByteText → ByteText
  | [] => []
  | c :: rest =>
      if last = some c ∧ isMember c then squeezed isMember last rest
      else c :: squeezed isMember (some c) rest

def Mode.applyOne (mode : Mode) (list : List Element) (text : ByteText) : ByteText :=
  let isMember := fun c => isIn list c != mode.complement
  if mode.squeeze then squeezed isMember none text else text.filter fun c => !isMember c

def Mode.applyTwo (mode : Mode) (lists : Pairing) (text : ByteText) : ByteText :=
  let changed :=
    if mode.delete then text.filter fun c => isIn lists.first c == mode.complement
    else
      let table := mode.table lists
      text.map (mapped table)
  if mode.squeeze then squeezed (isIn lists.second) none changed else changed

end Transliterate

open Transliterate

/-- Maps, deletes or squeezes the characters of its input. -/
def tr (invocation : Invocation) : Filtered :=
  let read := readArguments Transliterate.options false invocation.arguments
  let has := hasOption read.given
  let mode : Mode :=
    { complement := has "c" || has "C"
      delete := has "d"
      squeeze := has "s"
      truncate := has "t" }
  let usage := fun reason : ByteText => invocation.usageError 1 reason
  let finish := fun (warnings : List ByteText) (result : Except ListError ByteText) =>
    let warned := warnings.foldl (fun (done : Filtered) warning =>
      done.complain 0 (invocation.message warning)) {}
    match result, invocation.stdinProblem with
    | .error problem, _ => warned.complain 1 (invocation.message problem.message)
    | .ok _, some problem =>
        warned.complain 1 (invocation.message (ofString s!"read error: {problem.reason}"))
    | .ok text, none => { warned.write text with rest := some [] }
  match read.problem, read.operands with
  | some problem, _ => usage problem.message
  | none, [] => usage (ofString "missing operand")
  | none, [first] =>
      if mode.delete = mode.squeeze then
        usage (ofString "missing operand after " ++ quotedValue first ++ ['\n'] ++
          ofString (if mode.squeeze then
            "Two strings must be given when both deleting and squeezing repeats."
            else "Two strings must be given when translating."))
      else
        let (list, warnings) := parseList first
        finish warnings (do
          let list ← list
          checkFirst list
          .ok (mode.applyOne list invocation.stdin))
  | none, first :: second :: later =>
      match later with
      | extra :: _ => usage (ofString "extra operand " ++
          quotedValue (if mode.delete && !mode.squeeze then second else extra))
      | [] =>
          if mode.delete && !mode.squeeze then
            usage (ofString "extra operand " ++ quotedValue second ++ ofString
              "\nOnly one string may be given when deleting without squeezing repeats.")
          else
            let (list, warnings) := parseList first
            match list with
            | .error problem => finish warnings (.error problem)
            | .ok list =>
                let (target, more) := parseList second
                finish (warnings ++ more) (do
                  let lists ← mode.pair (!mode.delete) list (← target)
                  .ok (mode.applyTwo lists invocation.stdin))

end ConstructorAction.Tools
