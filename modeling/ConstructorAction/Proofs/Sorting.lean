import Mathlib.Data.List.Basic

namespace ConstructorAction

/-!
Stable sorting. Elements of a list that are in order among themselves are not moved past each other
(`Sorts.filter_mergeSort`).
-/

/-- A test by which every list can be put in order. -/
structure Sorts {α : Type} (before : α → α → Bool) : Prop where
  trans : ∀ a b c, before a b = true → before b c = true → before a c = true
  total : ∀ a b, (before a b || before b a) = true

theorem Sorts.filter_mergeSort {α : Type} {before : α → α → Bool} (sorts : Sorts before)
    {list : List α} {chosen : α → Bool}
    (inOrder : (list.filter chosen).Pairwise fun left right => before left right = true) :
    (list.mergeSort before).filter chosen = list.filter chosen := by
  have kept : (list.filter chosen).Sublist (list.mergeSort before) :=
    List.sublist_mergeSort sorts.trans sorts.total inOrder List.filter_sublist
  have inside := kept.filter chosen
  rw [List.filter_filter] at inside
  simp only [Bool.and_self] at inside
  have sizes := ((List.mergeSort_perm list before).filter chosen).length_eq
  exact (inside.eq_of_length sizes.symm).symm

end ConstructorAction
