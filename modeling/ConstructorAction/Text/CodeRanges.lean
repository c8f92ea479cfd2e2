namespace ConstructorAction.Text

/-!
Sets of characters as ascending lists of code point intervals, both ends included.
-/

abbrev CodeRanges := List (Nat × Nat)

/-- Looks no further than the first interval that starts above `code`. -/
def CodeRanges.contains : CodeRanges → Nat → Bool
  | [], _ => false
  | (first, last) :: later, code =>
      if code < first then false else code ≤ last || contains later code

/-- Each interval is in order and ends before the next one starts. -/
def CodeRanges.ascending : CodeRanges → Bool
  | [] => true
  | [(first, last)] => first ≤ last
  | (first, last) :: (next, nextLast) :: later =>
      first ≤ last && last < next && ascending ((next, nextLast) :: later)

end ConstructorAction.Text
