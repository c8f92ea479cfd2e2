import ConstructorAction.Text.EditDistance

namespace ConstructorAction.Text

/-!
The rows of `editDistance` hold the distances of all prefixes by the recursion on both words
(`editDistance_eq_levenshtein`), and so do two rows that are written over in turn, whatever the row
that is written over held (`twoRowDistance?_eq`). Scripts of changes tie the recursion to what it
counts: the shortest script from a word to another has as many changes as they are apart, and
scripts can be reversed, turned around and put behind each other.
-/

/-- A word is turned into another one from the left to the right, with so many changes. -/
inductive Turns {α : Type} : List α → List α → Nat → Prop where
  | done : Turns [] [] 0
  | keep {word target : List α} {count : Nat} (symbol : α) :
      Turns word target count → Turns (symbol :: word) (symbol :: target) count
  | replace {word target : List α} {count : Nat} (symbol other : α) :
      Turns word target count → Turns (symbol :: word) (other :: target) (count + 1)
  | delete {word target : List α} {count : Nat} (symbol : α) :
      Turns word target count → Turns (symbol :: word) target (count + 1)
  | insert {word target : List α} {count : Nat} (other : α) :
      Turns word target count → Turns word (other :: target) (count + 1)

variable {α : Type}

namespace Turns

variable {symbol : α} {word middle target : List α} {count more : Nat}

theorem refl (word : List α) : Turns word word 0 := by
  induction word with
  | nil => exact .done
  | cons symbol word ih => exact .keep symbol ih

theorem eq_of_zero (script : Turns word target 0) : word = target := by
  induction word generalizing target with
  | nil =>
      cases script with
      | done => rfl
  | cons symbol word ih =>
      cases script with
      | keep _ rest => rw [ih rest]

theorem symm (script : Turns word target count) : Turns target word count := by
  induction script with
  | done => exact .done
  | keep symbol _ ih => exact .keep symbol ih
  | replace symbol other _ ih => exact .replace other symbol ih
  | delete symbol _ ih => exact .insert symbol ih
  | insert other _ ih => exact .delete other ih

theorem append {back backTarget : List α} (script : Turns word target count)
    (behind : Turns back backTarget more) :
    Turns (word ++ back) (target ++ backTarget) (count + more) := by
  induction script with
  | done => simpa using behind
  | keep symbol _ ih => exact .keep symbol ih
  | replace symbol other _ ih =>
      rw [Nat.add_right_comm]
      exact .replace symbol other ih
  | delete symbol _ ih =>
      rw [Nat.add_right_comm]
      exact .delete symbol ih
  | insert other _ ih =>
      rw [Nat.add_right_comm]
      exact .insert other ih

theorem reverse (script : Turns word target count) : Turns word.reverse target.reverse count := by
  induction script with
  | done => exact .done
  | keep symbol _ ih => simpa using ih.append (.keep symbol .done)
  | replace symbol other _ ih => simpa using ih.append (.replace symbol other .done)
  | delete symbol _ ih => simpa using ih.append (.delete symbol .done)
  | insert other _ ih => simpa using ih.append (.insert other .done)

theorem insertAll (target : List α) : Turns [] target target.length := by
  induction target with
  | nil => exact .done
  | cons other target ih => exact .insert other ih

theorem length_le (script : Turns word target count) : target.length ≤ word.length + count := by
  induction script <;> simp_all <;> omega

/-- What becomes of the first symbol can be told from the rest. -/
theorem exists_cut (script : Turns (symbol :: word) target count) :
    ∃ front back first rest, target = front ++ back ∧ count = first + rest ∧
      Turns [symbol] front first ∧ Turns word back rest := by
  induction target generalizing count with
  | nil =>
      cases script with
      | delete _ rest => exact ⟨[], [], 1, _, rfl, by omega, .delete symbol .done, rest⟩
  | cons other target ih =>
      cases script with
      | keep _ rest => exact ⟨[symbol], target, 0, _, rfl, by omega, .refl _, rest⟩
      | replace _ _ rest =>
          exact ⟨[other], target, 1, _, rfl, by omega, .replace symbol other .done, rest⟩
      | delete _ rest =>
          exact ⟨[], other :: target, 1, _, rfl, by omega, .delete symbol .done, rest⟩
      | insert _ rest =>
          obtain ⟨front, back, first, later, rfl, rfl, ofSymbol, ofWord⟩ := ih rest
          exact ⟨other :: front, back, first + 1, later, rfl, by omega, .insert other ofSymbol,
            ofWord⟩

/-- Starting from another symbol costs one change more at most. -/
theorem exists_of_symbol (symbol : α) {other : α} (script : Turns [other] target count) :
    ∃ least ≤ count + 1, Turns [symbol] target least := by
  have bound := script.length_le
  rw [List.length_singleton] at bound
  cases target with
  | nil => exact ⟨1, by omega, .delete symbol .done⟩
  | cons first rest =>
      rw [List.length_cons] at bound
      exact ⟨rest.length + 1, by omega, .replace symbol first (insertAll rest)⟩

theorem trans (first : Turns word middle count) (second : Turns middle target more) :
    ∃ least ≤ count + more, Turns word target least := by
  induction first generalizing target more with
  | done => exact ⟨more, by omega, second⟩
  | delete symbol _ ih =>
      obtain ⟨least, bound, script⟩ := ih second
      exact ⟨least + 1, by omega, .delete symbol script⟩
  | keep symbol _ ih =>
      obtain ⟨front, back, less, rest, rfl, rfl, ofSymbol, ofMiddle⟩ := second.exists_cut
      obtain ⟨least, bound, script⟩ := ih ofMiddle
      exact ⟨less + least, by omega, ofSymbol.append script⟩
  | replace symbol other _ ih =>
      obtain ⟨front, back, less, rest, rfl, rfl, ofOther, ofMiddle⟩ := second.exists_cut
      obtain ⟨fewest, few, ofSymbol⟩ := ofOther.exists_of_symbol symbol
      obtain ⟨least, bound, script⟩ := ih ofMiddle
      exact ⟨fewest + least, by omega, ofSymbol.append script⟩
  | insert other _ ih =>
      obtain ⟨front, back, less, rest, rfl, rfl, ofOther, ofMiddle⟩ := second.exists_cut
      have few := ofOther.length_le
      rw [List.length_singleton] at few
      obtain ⟨least, bound, script⟩ := ih ofMiddle
      exact ⟨front.length + least, by omega, (insertAll front).append script⟩

end Turns

section Distance

variable [DecidableEq α] {symbol : α} {word middle target : List α} {count : Nat}

/-- The distance of two words: the first symbol is deleted, inserted, or kept or replaced. -/
def levenshtein : List α → List α → Nat
  | [], target => target.length
  | symbol :: word, [] => word.length + 1
  | symbol :: word, other :: target =>
      min (min (levenshtein word (other :: target) + 1) (levenshtein (symbol :: word) target + 1))
        (levenshtein word target + if symbol = other then 0 else 1)
termination_by word target => word.length + target.length

@[simp] theorem levenshtein_nil_left (target : List α) : levenshtein [] target = target.length := by
  rw [levenshtein]

@[simp] theorem levenshtein_nil_right (word : List α) : levenshtein word [] = word.length := by
  cases word with
  | nil => rw [levenshtein, List.length_nil]
  | cons symbol word => rw [levenshtein, List.length_cons]

theorem levenshtein_cons_cons (symbol other : α) (word target : List α) :
    levenshtein (symbol :: word) (other :: target) =
      min (min (levenshtein word (other :: target) + 1) (levenshtein (symbol :: word) target + 1))
        (levenshtein word target + if symbol = other then 0 else 1) := by
  rw [levenshtein]

theorem turns_levenshtein (word target : List α) : Turns word target (levenshtein word target) := by
  induction word, target using levenshtein.induct with
  | case1 target => simpa using Turns.insertAll target
  | case2 symbol word => simpa using (Turns.insertAll (symbol :: word)).symm
  | case3 symbol word other target deleted inserted changed =>
      rw [levenshtein_cons_cons]
      rcases Nat.le_total (min (levenshtein word (other :: target) + 1)
        (levenshtein (symbol :: word) target + 1))
        (levenshtein word target + if symbol = other then 0 else 1) with less | less
      · rw [Nat.min_eq_left less]
        rcases Nat.le_total (levenshtein word (other :: target) + 1)
          (levenshtein (symbol :: word) target + 1) with least | least
        · rw [Nat.min_eq_left least]
          exact .delete symbol deleted
        · rw [Nat.min_eq_right least]
          exact .insert other inserted
      · rw [Nat.min_eq_right less]
        by_cases same : symbol = other
        · rw [if_pos same, same]
          exact .keep other changed
        · rw [if_neg same]
          exact .replace symbol other changed

theorem levenshtein_le (script : Turns word target count) : levenshtein word target ≤ count := by
  induction script with
  | done => simp
  | keep symbol _ ih =>
      rw [levenshtein_cons_cons, if_pos rfl]
      omega
  | replace symbol other _ ih =>
      rw [levenshtein_cons_cons]
      split <;> omega
  | @delete word target _ symbol _ ih =>
      cases target with
      | nil => simpa using ih
      | cons other target =>
          rw [levenshtein_cons_cons]
          omega
  | @insert word target _ other _ ih =>
      cases word with
      | nil => simpa using ih
      | cons symbol word =>
          rw [levenshtein_cons_cons]
          omega

theorem levenshtein_comm (word target : List α) :
    levenshtein word target = levenshtein target word :=
  Nat.le_antisymm (levenshtein_le (turns_levenshtein target word).symm)
    (levenshtein_le (turns_levenshtein word target).symm)

theorem levenshtein_reverse (word target : List α) :
    levenshtein word.reverse target.reverse = levenshtein word target := by
  have back := (turns_levenshtein word.reverse target.reverse).reverse
  rw [List.reverse_reverse, List.reverse_reverse] at back
  exact Nat.le_antisymm (levenshtein_le (turns_levenshtein word target).reverse)
    (levenshtein_le back)

theorem levenshtein_eq_zero_iff : levenshtein word target = 0 ↔ word = target := by
  constructor
  · intro none
    exact (none ▸ turns_levenshtein word target).eq_of_zero
  · rintro rfl
    exact Nat.le_zero.mp (levenshtein_le (.refl word))

theorem levenshtein_triangle (word middle target : List α) :
    levenshtein word target ≤ levenshtein word middle + levenshtein middle target := by
  obtain ⟨least, bound, script⟩ :=
    (turns_levenshtein word middle).trans (turns_levenshtein middle target)
  exact Nat.le_trans (levenshtein_le script) bound

/-- The distances of a word from a front of the target and from every longer front. Words and fronts
are read from their ends, where a row adds to them. -/
def distances (word front : List α) : List α → List Nat
  | [] => [levenshtein word front]
  | other :: target => levenshtein word front :: distances word (other :: front) target

theorem distances_eq_cons (word front target : List α) :
    ∃ later, distances word front target = levenshtein word front :: later := by
  cases target with
  | nil => exact ⟨[], rfl⟩
  | cons other target => exact ⟨_, rfl⟩

theorem distances_nil (front target : List α) :
    distances [] front target = List.range' front.length (target.length + 1) := by
  induction target generalizing front with
  | nil => simp [distances, List.range']
  | cons other target ih =>
      rw [distances, ih, levenshtein_nil_left, List.length_cons, List.length_cons,
        List.range'_succ (s := front.length)]

theorem getLast?_distances (word front target : List α) :
    (distances word front target).getLast? = some (levenshtein word (target.reverse ++ front)) := by
  induction target generalizing front with
  | nil => simp [distances]
  | cons other target ih =>
      obtain ⟨later, row⟩ := distances_eq_cons word (other :: front) target
      rw [distances, row, List.getLast?_cons_cons, ← row, ih, List.reverse_cons, List.append_assoc,
        List.singleton_append]

theorem fillRow_distances (symbol : α) (word front target : List α) :
    levenshtein (symbol :: word) front ::
        fillRow symbol (levenshtein (symbol :: word) front) target (distances word front target) =
      distances (symbol :: word) front target := by
  induction target generalizing front with
  | nil => rfl
  | cons other target ih =>
      obtain ⟨later, row⟩ := distances_eq_cons word (other :: front) target
      have entry : min (min (levenshtein word (other :: front) + 1)
            (levenshtein (symbol :: word) front + 1))
          (if symbol = other then levenshtein word front else levenshtein word front + 1) =
          levenshtein (symbol :: word) (other :: front) := by
        rw [levenshtein_cons_cons]
        split <;> rfl
      have rest := ih (other :: front)
      rw [row] at rest
      rw [distances, distances, row, fillRow, entry, rest]

theorem nextRow_distances (symbol : α) (word target : List α) :
    nextRow target (distances word [] target) symbol = distances (symbol :: word) [] target := by
  have row := fillRow_distances symbol word [] target
  obtain ⟨later, form⟩ := distances_eq_cons word [] target
  rw [form] at row ⊢
  simpa [nextRow] using row

theorem foldl_nextRow (word passed target : List α) :
    word.foldl (nextRow target) (distances passed [] target) =
      distances (word.reverse ++ passed) [] target := by
  induction word generalizing passed with
  | nil => rfl
  | cons symbol word ih =>
      rw [List.foldl_cons, nextRow_distances, ih, List.reverse_cons, List.append_assoc,
        List.singleton_append]

theorem editDistance_eq_levenshtein (word target : List α) :
    editDistance word target = levenshtein word target := by
  have start : List.range (target.length + 1) = distances [] [] target := by
    rw [distances_nil, List.range_eq_range']
    rfl
  rw [editDistance, start, foldl_nextRow, getLast?_distances, List.append_nil, List.append_nil,
    Option.getD_some, levenshtein_reverse]

/-- Writes the entry behind a column over what stands there; none if a row is too short. -/
def writeEntry (symbol other : α) (column : Nat) (above below : List Nat) : Option (List Nat) :=
  match above[column + 1]?, below[column]?, above[column]? with
  | some up, some left, some diagonal =>
      let entry := min (min (up + 1) (left + 1)) (diagonal + if symbol = other then 0 else 1)
      if column + 1 < below.length then some (below.set (column + 1) entry) else none
  | _, _, _ => none

/-- Writes the entries behind a column, one for each symbol of the target. -/
def writeRow (symbol : α) (above : List Nat) (column : Nat) (below : List Nat) :
    List α → Option (List Nat)
  | [] => some below
  | other :: target => do
      writeRow symbol above (column + 1) (← writeEntry symbol other column above below) target

/-- The last row. Each row is written over the one before the row above it. -/
def writeRows (target : List α) (row : Nat) (above below : List Nat) : List α → Option (List Nat)
  | [] => some above
  | symbol :: word =>
      match below with
      | [] => none
      | _ :: stale => do
          writeRows target (row + 1) (← writeRow symbol above 0 ((row + 1) :: stale) target) above
            word

def twoRowDistance? (word target : List α) : Option Nat := do
  let columns := target.length + 1
  let last ← writeRows target 0 (List.range columns) (List.replicate columns 0) word
  last[target.length]?

/-- Every entry is written before it is read, so that the stale ones do not count. -/
theorem writeRow_eq {symbol : α} {left : Nat} {front above passed stale : List Nat}
    {target : List α} (level : front.length = passed.length)
    (wide : above.length = target.length + 1) (room : stale.length = target.length) :
    writeRow symbol (front ++ above) passed.length (passed ++ left :: stale) target =
      some (passed ++ left :: fillRow symbol left target above) := by
  induction target generalizing left front above passed stale with
  | nil =>
      obtain rfl := List.length_eq_zero_iff.mp room
      rfl
  | cons other target ih =>
      match above, stale, wide, room with
      | diagonal :: up :: above, old :: stale, wide, room =>
          have cost : (diagonal + if symbol = other then 0 else 1) =
              if symbol = other then diagonal else diagonal + 1 := by
            split <;> rfl
          have written : writeEntry symbol other passed.length (front ++ diagonal :: up :: above)
              (passed ++ left :: old :: stale) =
              some ((passed ++ [left]) ++ min (min (up + 1) (left + 1))
                (if symbol = other then diagonal else diagonal + 1) :: stale) := by
            simp [writeEntry, ← level, cost]
          rw [writeRow, written, fillRow]
          generalize min (min (up + 1) (left + 1))
            (if symbol = other then diagonal else diagonal + 1) = entry
          have rest : writeRow symbol ((front ++ [diagonal]) ++ up :: above)
              (passed ++ [left]).length ((passed ++ [left]) ++ entry :: stale) target =
              some ((passed ++ [left]) ++ entry :: fillRow symbol entry target (up :: above)) :=
            ih (by simpa using level) (by simpa using wide) (by simpa using room)
          simpa using rest

theorem writeRows_eq {row : Nat} {above below : List Nat} {word target : List α}
    (first : above.head? = some row) (wide : above.length = target.length + 1)
    (room : below.length = target.length + 1) :
    writeRows target row above below word = some (word.foldl (nextRow target) above) := by
  induction word generalizing row above below with
  | nil => rfl
  | cons symbol word ih =>
      match above, below, first, wide, room with
      | row :: above, old :: stale, rfl, wide, room =>
          have level : ([] : List Nat).length = ([] : List Nat).length := rfl
          have written : writeRow symbol (row :: above) 0 ((row + 1) :: stale) target =
              some ((row + 1) :: fillRow symbol (row + 1) target (row :: above)) :=
            writeRow_eq level wide (by simpa using room)
          rw [writeRows, written, List.foldl_cons]
          exact ih rfl (length_nextRow wide symbol) wide

theorem length_foldl_nextRow {row : List Nat} {target : List α}
    (aligned : row.length = target.length + 1) (word : List α) :
    (word.foldl (nextRow target) row).length = target.length + 1 := by
  induction word generalizing row with
  | nil => exact aligned
  | cons symbol word ih => exact ih (length_nextRow aligned symbol)

theorem twoRowDistance?_eq (word target : List α) :
    twoRowDistance? word target = some (editDistance word target) := by
  have start : (List.range (target.length + 1)).length = target.length + 1 := List.length_range
  have length := length_foldl_nextRow start word
  have rows : writeRows target 0 (List.range (target.length + 1))
      (List.replicate (target.length + 1) 0) word =
      some (word.foldl (nextRow target) (List.range (target.length + 1))) :=
    writeRows_eq (by simp [List.head?_range]) start List.length_replicate
  have inside : target.length <
      (word.foldl (nextRow target) (List.range (target.length + 1))).length := by omega
  simp only [twoRowDistance?, rows, Option.bind_eq_bind, Option.bind_some, editDistance,
    List.getLast?_eq_getElem?, length, Nat.add_sub_cancel, List.getElem?_eq_getElem inside,
    Option.getD_some]

end Distance

end ConstructorAction.Text
