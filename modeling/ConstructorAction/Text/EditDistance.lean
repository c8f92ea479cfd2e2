namespace ConstructorAction.Text

/-!
The least number of insertions, deletions and replacements that turn one word into another. The
distances are computed row by row: the row of a prefix holds its distance to every prefix of the
target, the empty one first.
-/

variable {α : Type} [DecidableEq α]

/-- The rest of the row for one symbol more. `left` is the entry written last, and the entries above
start at its column. -/
def fillRow (symbol : α) (left : Nat) : List α → List Nat → List Nat
  | other :: target, diagonal :: up :: above =>
      let entry := min (min (up + 1) (left + 1)) (if symbol = other then diagonal else diagonal + 1)
      entry :: fillRow symbol entry target (up :: above)
  | _, _ => []

/-- The row for one symbol more. -/
def nextRow (target : List α) (row : List Nat) (symbol : α) : List Nat :=
  match row with
  | [] => []
  | first :: above => (first + 1) :: fillRow symbol (first + 1) target (first :: above)

/-- The number of changes between two words. -/
def editDistance (word target : List α) : Nat :=
  ((word.foldl (nextRow target) (List.range (target.length + 1))).getLast?).getD 0

theorem length_fillRow (symbol : α) (left : Nat) (target : List α) (above : List Nat)
    (aligned : above.length = target.length + 1) :
    (fillRow symbol left target above).length = target.length := by
  induction target generalizing left above with
  | nil => simp [fillRow]
  | cons other target ih =>
      match above, aligned with
      | diagonal :: up :: above, aligned =>
          simp only [fillRow, List.length_cons, Nat.add_right_cancel_iff]
          exact ih _ (up :: above) (by simpa using aligned)

/-- Every row has an entry for each prefix of the target. -/
theorem length_nextRow {target : List α} {row : List Nat} (aligned : row.length = target.length + 1)
    (symbol : α) : (nextRow target row symbol).length = target.length + 1 := by
  match row, aligned with
  | first :: above, aligned =>
      simp only [nextRow, List.length_cons, Nat.add_right_cancel_iff]
      exact length_fillRow symbol _ target _ aligned

end ConstructorAction.Text
