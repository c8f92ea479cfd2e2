import ConstructorAction.Layout.Scan

namespace ConstructorAction.Layout

open ConstructorAction.Text

/-!
Indentation by braces. Every line of code is moved to the depth that the braces before it open, less
the closing braces it starts with; trailing blanks are dropped, but not inside a string that
goes on. Lines that start inside a string stay as they are, and those that start inside a comment
keep their indentation.

Neither the depth nor the width of an indentation has a bound. Signed 32 bits hold the depth of a
document with fewer than 2^31 braces, and unsigned 64 bits the product of level and tab size as long
as it is less than 2^64.
-/

/-- A line moved to `level`, by the states before and behind it. -/
def placeLine (tabSize : Nat) (incoming outgoing : Mode) (level : Nat) (line : List Char) :
    List Char :=
  match incoming with
  | .verbatim | .raw _ => line
  | .blockComment => if outgoing.inString then line else trimEnd line
  | .code =>
      if (trim line).isEmpty then []
      else
        List.replicate (level * tabSize) ' ' ++
          if outgoing.inString then trimStart line else trim line

/-- The lines that follow `depth` open braces and the state `mode`. -/
def indentFrom (tabSize : Nat) (mode : Mode) (depth : Nat) :
    List (List Char) → List (List Char)
  | [] => []
  | line :: later =>
      let scan := scanLine mode line
      placeLine tabSize mode scan.mode (depth - scan.leadingCloses) line ::
        indentFrom tabSize scan.mode (depth + scan.opens - scan.closes) later

/-- The lines of a document, indented anew. -/
def indent (tabSize : Nat) (lines : List (List Char)) : List (List Char) :=
  indentFrom tabSize .code 0 lines

@[simp] theorem length_indentFrom (tabSize : Nat) (mode : Mode) (depth : Nat)
    (lines : List (List Char)) : (indentFrom tabSize mode depth lines).length = lines.length := by
  induction lines generalizing mode depth with
  | nil => rfl
  | cons line later ih => simp [indentFrom, ih]

end ConstructorAction.Layout
