import ConstructorAction.Text.CaseTable

namespace ConstructorAction.Text

/-!
Full case mappings of single characters: a form may have several characters (`ß` becomes `SS`),
and does not depend on the characters around.
-/

/-- Searches the expansions first, then the runs; a character in neither is its own form. -/
def caseForm (expansions : List (Nat × List Nat)) (runs : List CaseRun) (c : Char) : List Char :=
  match expansions.lookup c.toNat with
  | some codes => codes.map Char.ofNat
  | none =>
      match runs.findSome? fun run => run.image? c.toNat with
      | some code => [Char.ofNat code]
      | none => [c]

/-- The lower-case form of a character. -/
def lowerCase (c : Char) : List Char :=
  if c.toNat < 128 then [c.toLower] else caseForm lowerExpansions lowerRuns c

/-- The upper-case form of a character. -/
def upperCase (c : Char) : List Char :=
  if c.toNat < 128 then [c.toUpper] else caseForm upperExpansions upperRuns c

theorem lowerCase_ascii {c : Char} (ascii : c.toNat < 128) : lowerCase c = [c.toLower] :=
  if_pos ascii

theorem upperCase_ascii {c : Char} (ascii : c.toNat < 128) : upperCase c = [c.toUpper] :=
  if_pos ascii

end ConstructorAction.Text
