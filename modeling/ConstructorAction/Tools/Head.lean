import ConstructorAction.Tools.Filter

namespace ConstructorAction.Tools

open ConstructorAction.Files ConstructorAction.Text

/-!
The filter that copies the start of its operands: a number of lines or bytes, or all but a number of
them.
-/

namespace Head

def options : List OptionForm :=
  [⟨"c", ["bytes"], .always⟩, ⟨"n", ["lines"], .always⟩, ⟨"q", ["quiet", "silent"], .never⟩,
   ⟨"v", ["verbose"], .never⟩, ⟨"z", ["zero-terminated"], .never⟩] ++
    (List.range 10).map fun digit => ⟨toString digit, [], .never⟩

structure Amount where
  count : Nat := 10
  byLines : Bool := true
  /-- Whether the count is of what is left out at the end. -/
  fromEnd : Bool := false
  deriving DecidableEq, Repr, Inhabited

/-- When operands are announced by their names. -/
inductive Announcing where
  | ifSeveral
  | always
  | never
  deriving DecidableEq, Repr, Inhabited

structure Task where
  amount : Amount := {}
  delimiter : Char := '\n'
  announcing : Announcing := .ifSeveral
  deriving DecidableEq, Repr, Inhabited

/-- The number that a size suffix multiplies by: powers of 1024, or of 1000 with a `B` behind. -/
def multiplier? (suffix : ByteText) : Option Nat :=
  let power := fun letter : Char =>
    match letter with
    | 'k' | 'K' => some 1
    | 'm' | 'M' => some 2
    | 'G' => some 3
    | 'T' => some 4
    | 'P' => some 5
    | 'E' => some 6
    | 'Z' => some 7
    | 'Y' => some 8
    | 'R' => some 9
    | 'Q' => some 10
    | _ => none
  match suffix with
  | [] => some 1
  | ['b'] => some 512
  | [letter] | [letter, 'i', 'B'] => (power letter).map (Nat.pow 1024 ·)
  | [letter, 'B'] | [letter, 'D'] => (power letter).map (Nat.pow 1000 ·)
  | _ => none

inductive NumberError where
  | invalid
  | tooLarge
  deriving DecidableEq, Repr

/-- A count with an optional suffix; a suffix alone counts once. -/
def readCount (text : ByteText) : Except NumberError Nat :=
  let text := text.dropWhile isSpaceByte
  let digitsAt := match text with
    | '+' :: rest => rest
    | text => text
  let digits := digitsAt.takeWhile Char.isDigit
  let suffix := if digits.isEmpty then text else digitsAt.drop digits.length
  if digits.isEmpty && suffix.isEmpty then .error .invalid
  else
    match multiplier? suffix with
    | none => .error .invalid
    | some factor =>
        let count := (if digits.isEmpty then 1 else decimalValue digits) * factor
        if count < wordLimit then .ok count else .error .tooLarge

def countComplaint (byLines : Bool) (text : ByteText) (problem : NumberError) : ByteText :=
  ofString (if byLines then "invalid number of lines: " else "invalid number of bytes: ") ++
    quotedValue text ++
    match problem with
    | .invalid => []
    | .tooLarge => ofString ": Value too large for defined data type"

def readAmount (byLines : Bool) (text : ByteText) : Except ByteText Amount :=
  let (fromEnd, digits) := match text with
    | '-' :: rest => (true, rest)
    | text => (false, text)
  match readCount digits with
  | .ok count => .ok { count, byLines, fromEnd }
  | .error problem => .error (countComplaint byLines digits problem)

/-- A count right behind the hyphen, with letters behind it. -/
def readOldForm (argument : ByteText) : Option (Except ByteText Task) :=
  match argument with
  | '-' :: rest =>
      let digits := rest.takeWhile Char.isDigit
      if digits.isEmpty then none
      else some (letters digits { } none (rest.drop digits.length))
  | _ => none
where
  letters (digits : ByteText) (task : Task) (suffix : Option Char) :
      ByteText → Except ByteText Task
    | [] =>
        match readAmount task.amount.byLines (digits ++ suffix.toList) with
        | .ok amount => .ok { task with amount }
        | .error problem => .error problem
    | letter :: rest =>
        match letter with
        | 'c' => letters digits { task with amount.byLines := false } none rest
        | 'b' | 'k' | 'm' => letters digits { task with amount.byLines := false } (some letter) rest
        | 'l' => letters digits { task with amount.byLines := true } suffix rest
        | 'q' => letters digits { task with announcing := .never } suffix rest
        | 'v' => letters digits { task with announcing := .always } suffix rest
        | 'z' => letters digits { task with delimiter := '\x00' } suffix rest
        | letter => .error (ofString "invalid trailing option -- " ++ [letter])

def applyOption (task : Except ByteText Task) (given : GivenOption) : Except ByteText Task := do
  let task ← task
  let value := given.value.getD []
  match given.key with
  | "c" => return { task with amount := ← readAmount false value }
  | "n" => return { task with amount := ← readAmount true value }
  | "q" => return { task with announcing := .never }
  | "v" => return { task with announcing := .always }
  | "z" => return { task with delimiter := '\x00' }
  | digit => .error (ofString s!"invalid trailing option -- {digit}")

def Task.cut (task : Task) (text : ByteText) : ByteText :=
  let units := if task.amount.byLines then recordsBy task.delimiter text
    else text.map fun c => [c]
  let kept := if task.amount.fromEnd then units.length - task.amount.count else task.amount.count
  (units.take kept).flatten

/-- How many bytes of the standard input are used, and in blocks of what size. -/
def Task.block (task : Task) : Nat :=
  if task.amount.byLines || task.amount.fromEnd then 8192 else 1

/-- Whether nothing is to be copied, so that operands are opened but not read. -/
def Task.readsNothing (task : Task) : Bool := !task.amount.fromEnd && task.amount.count == 0

/-- What is used up of the standard input to copy a part of it. -/
def Task.used (task : Task) (invocation : Invocation) (copied : ByteText) : ByteText :=
  if task.amount.fromEnd && !invocation.rewinds then []
  else invocation.restAfter task.block copied.length

def banner (isFirst : Bool) (name : ByteText) : ByteText :=
  (if isFirst then [] else ['\n']) ++ ofString "==> " ++ name ++ ofString " <==\n"

def Task.run (task : Task) (invocation : Invocation) (operands : List ByteText) : Filtered :=
  let announced := task.announcing = .always ||
    (task.announcing = .ifSeveral && 1 < operands.length)
  let operands := orStdin operands
  let unread := fun (state : Filtered × Bool) (shown : ByteText) (reason : FileError) =>
    let (done, isFirst) := state
    let action := if reason == .closed && task.amount.fromEnd then "cannot fstat "
      else "error reading "
    let done := if announced then done.write (banner isFirst shown) else done
    let done := if task.readsNothing then done
      else done.complain 1 (invocation.message
        (ofString action ++ quotedName shown ++ ofString s!": {reason.reason}"))
    (done, isFirst && !announced)
  let done := operands.foldl (fun (state : Filtered × Bool) name =>
    let (done, isFirst) := state
    let shown := if name = ['-'] then ofString "standard input" else name
    match invocation.operand done.rest.isSome name task.amount.count with
    | .error .isDirectory => unread state shown .isDirectory
    | .error .closed => unread state shown .closed
    | .error reason =>
        (done.complain 1 (invocation.message
          (ofString "cannot open " ++ quotedName shown ++
            ofString s!" for reading: {reason.reason}")), isFirst)
    | .ok ⟨text, isStdin⟩ =>
        let copied := task.cut text
        let done := if announced then done.write (banner isFirst shown) else done
        let done := done.write copied
        let rest := if done.rest.isSome then [] else task.used invocation copied
        (if isStdin then { done with rest := some rest } else done, false))
    (({}, true) : Filtered × Bool)
  if invocation.missesStdin operands then
    (done.1.complain 1 (invocation.message (ofString "-: Bad file descriptor"))).complaintsFirst
  else done.1.complaintsFirst

end Head

open Head

def head (invocation : Invocation) : Filtered :=
  let (start, arguments) : Except ByteText Task × List ByteText :=
    match invocation.arguments with
    | first :: later =>
        match readOldForm first with
        | some task => (task, later)
        | none => (.ok {}, first :: later)
    | [] => (.ok {}, [])
  let refuse := fun problem : ByteText =>
    if (ofString "invalid trailing").isPrefixOf problem then invocation.usageError 1 problem
    else .failure 1 (invocation.message problem)
  match start with
  | .error problem => refuse problem
  | .ok task =>
      let read := readArguments Head.options true arguments
      match read.given.foldl applyOption (.ok task), read.problem with
      | .error problem, _ => refuse problem
      | .ok _, some problem => invocation.usageError 1 problem.message
      | .ok task, none => task.run invocation read.operands

end ConstructorAction.Tools
