import ConstructorAction.Tools.Filter

namespace ConstructorAction.Tools

/-!
The filter that copies its operands, with lines numbered, squeezed or marked if asked.
-/

namespace Copy

def options : List OptionForm :=
  [⟨"b", ["number-nonblank"], .never⟩, ⟨"n", ["number"], .never⟩,
   ⟨"s", ["squeeze-blank"], .never⟩, ⟨"v", ["show-nonprinting"], .never⟩,
   ⟨"E", ["show-ends"], .never⟩, ⟨"T", ["show-tabs"], .never⟩, ⟨"A", ["show-all"], .never⟩,
   ⟨"e", [], .never⟩, ⟨"t", [], .never⟩, ⟨"u", [], .never⟩]

structure Style where
  numberAll : Bool := false
  numberNonblank : Bool := false
  squeeze : Bool := false
  showHidden : Bool := false
  showEnds : Bool := false
  showTabs : Bool := false
  deriving DecidableEq, Repr, Inhabited

def Style.ofOptions (given : List GivenOption) : Style :=
  let has := hasOption given
  { numberAll := has "n" && !has "b"
    numberNonblank := has "b"
    squeeze := has "s"
    showHidden := has "v" || has "A" || has "e" || has "t"
    showEnds := has "E" || has "A" || has "e"
    showTabs := has "T" || has "A" || has "t" }

/-- What one operand leaves for the next: the number of the last line, whether a line is open, and
how many empty lines came last. -/
structure Progress where
  count : Nat := 0
  inLine : Bool := false
  blanks : Nat := 0
  deriving DecidableEq, Repr, Inhabited

def numberText (count : Nat) : ByteText :=
  let digits := Nat.toDigits 10 count
  List.replicate (6 - digits.length) ' ' ++ digits ++ ['\t']

/-- A byte in a form that can be seen; tabs and line feeds stay as they are. -/
def visible (c : Char) : ByteText :=
  if c = '\t' ∨ c = '\n' then [c]
  else
    let (mark, code) : ByteText × Nat :=
      if c.toNat < 128 then ([], c.toNat) else (['M', '-'], c.toNat - 128)
    mark ++ if code < 32 then ['^', Char.ofNat (code + 64)]
      else if code = 127 then ['^', '?']
      else [Char.ofNat code]

/-- The inside of a line; a carriage return in front of the end is shown with it. -/
def Style.marked (style : Style) : ByteText → ByteText
  | [] => []
  | ['\n'] => if style.showEnds then ['$', '\n'] else ['\n']
  | c :: rest =>
      let written : ByteText :=
        if c = '\t' then if style.showTabs then ['^', 'I'] else ['\t']
        else if c = '\r' ∧ rest = ['\n'] ∧ style.showEnds then ['^', 'M']
        else if style.showHidden then visible c
        else [c]
      written ++ style.marked rest

def Style.copy (style : Style) (progress : Progress) : List ByteText → ByteText × Progress
  | [] => ([], progress)
  | line :: later =>
      let isBlank := !progress.inLine && line == ['\n']
      let blanks := if isBlank then progress.blanks + 1 else 0
      if style.squeeze && 1 < blanks then style.copy { progress with blanks } later
      else
        let numbered := !progress.inLine &&
          (style.numberAll || (style.numberNonblank && !isBlank))
        let count := if numbered then progress.count + 1 else progress.count
        let (text, final) :=
          style.copy ⟨count, line.getLast? != some '\n', blanks⟩ later
        ((if numbered then numberText count else []) ++ style.marked line ++ text, final)

end Copy

open Copy

def cat (invocation : Invocation) : Filtered :=
  let read := readArguments Copy.options true invocation.arguments
  match read.problem with
  | some problem => invocation.usageError 1 problem.message
  | none =>
      let style := Style.ofOptions read.given
      let operands := orStdin read.operands
      let copied := operands.foldl (fun (state : Filtered × Progress) name =>
        let (done, progress) := state
        match invocation.operand done.rest.isSome name with
        | .error reason =>
            (done.complain 1 (invocation.message
              (shownName name ++ ofString s!": {reason.reason}")), progress)
        | .ok ⟨text, isStdin⟩ =>
            let (copied, progress) := style.copy progress (records text)
            let done := done.write copied
            (if isStdin then { done with rest := some [] } else done, progress))
        (({}, {}) : Filtered × Progress)
      if !invocation.hasStdout then
        .failure 1 (invocation.message (ofString "standard output: Bad file descriptor"))
      else if invocation.missesStdin operands then
        copied.1.complain 1
          (invocation.message (ofString "closing standard input: Bad file descriptor"))
      else copied.1

end ConstructorAction.Tools
