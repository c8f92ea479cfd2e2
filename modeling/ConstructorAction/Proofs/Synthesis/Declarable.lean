import ConstructorAction.Proofs.Synthesis.FreshNames
import ConstructorAction.Proofs.Synthesis.Meaning
import ConstructorAction.Proofs.Synthesis.Naming
import Mathlib.Data.List.Forall2

namespace ConstructorAction.Synthesis

open ConstructorAction.Settings ConstructorAction.Source ConstructorAction.Text

/-!
Which parameters can be declared under the names they get. A name loses one underscore, and if
nothing or a digit is behind it no name is left. Neither case nor a number behind a name makes up
for that, or does harm (`parameters_declarable_iff`).
-/

/-- A name that is not empty and does not start with a digit. -/
def Declarable (name : List Char) : Prop :=
  ∃ first rest, name = first :: rest ∧ isDecimalDigit first = false

/-- A name with nothing behind its underscore that could start a name. -/
def Nameless (name : List Char) : Prop :=
  name = ['_'] ∨ ∃ digit rest, name = '_' :: digit :: rest ∧ isDecimalDigit digit = true

theorem not_declarable_nil : ¬ Declarable [] := by
  rintro ⟨first, rest, same, -⟩
  cases same

theorem declarable_cons_iff {first : Char} {rest : List Char} :
    Declarable (first :: rest) ↔ isDecimalDigit first = false := by
  constructor
  · rintro ⟨other, more, same, plain⟩
    rw [(List.cons.inj same).1]
    exact plain
  · exact fun plain => ⟨first, rest, rfl, plain⟩

theorem declarable_joinWords_iff {c : Char} (word : isWordChar c = true) (rest : List Char) :
    Declarable (joinWords none false (c :: rest)) ↔ isDecimalDigit c = false := by
  have start : ∃ first more, (if isNameChar c then lowerCase c else upperCase c) = first :: more ∧
      isDecimalDigit first = isDecimalDigit c := by
    split
    · exact lowerCase_digit c
    · exact upperCase_digit c
  obtain ⟨first, more, form, same⟩ := start
  rw [joinWords_start word, form, List.cons_append, declarable_cons_iff, same]

theorem isDecimalDigit_of_isNameStart {c : Char} (start : isNameStart c = true) :
    isDecimalDigit c = false := by
  have none : ∀ code < 128, isNameStart (Char.ofNat code) = true →
      isDecimalDigit (Char.ofNat code) = false := by decide +kernel
  have result := none c.toNat (toNat_lt_of_isNameStart start)
  rw [Char.ofNat_toNat] at result
  exact result start

theorem declarable_parameterName_iff {name : List Char} (identifier : isIdentifier name = true) :
    Declarable (parameterName name) ↔ ¬ Nameless name := by
  cases name with
  | nil => cases identifier
  | cons c rest =>
      obtain ⟨start, words⟩ := Bool.and_eq_true_iff.mp identifier
      by_cases underscore : c = '_'
      · subst underscore
        rw [parameterName_underscore]
        cases rest with
        | nil => exact iff_of_false not_declarable_nil fun named => named (.inl rfl)
        | cons second more =>
            have word := List.all_eq_true.mp words second List.mem_cons_self
            rw [declarable_joinWords_iff word]
            simp [Nameless]
      · have named : ¬ Nameless (c :: rest) := by simp [Nameless, underscore]
        rw [parameterName, withoutUnderscore_of_ne underscore,
          declarable_joinWords_iff (isWordChar_of_isNameStart start)]
        exact iff_of_true (isDecimalDigit_of_isNameStart start) named

theorem isDecimalDigit_of_mem_toDigits {c : Char} {count : Nat}
    (member : c ∈ Nat.toDigits 10 count) : isDecimalDigit c = true := by
  rw [isDecimalDigit, Nat.isDigit_of_mem_toDigits (by decide) (by decide) member, Bool.true_or]

theorem declarable_suffixed_iff {base : List Char} (count : Nat) :
    Declarable (suffixed base count) ↔ Declarable base := by
  cases base with
  | nil =>
      -- a number alone is no name either
      refine iff_of_false ?_ not_declarable_nil
      rintro ⟨first, rest, same, plain⟩
      have digit : first ∈ Nat.toDigits 10 count := by
        rw [show Nat.toDigits 10 count = first :: rest from same]
        exact List.mem_cons_self
      rw [isDecimalDigit_of_mem_toDigits digit] at plain
      cases plain
  | cons c rest => rw [suffixed, List.cons_append, declarable_cons_iff, declarable_cons_iff]

theorem declarable_freshName_iff (taken : List (List Char)) (base : List Char) :
    Declarable (freshName taken base) ↔ Declarable base := by
  rcases freshName_cases taken base with same | ⟨count, same⟩
  · rw [same]
  · rw [same, declarable_suffixed_iff]

theorem declarable_freshNames (taken bases : List (List Char)) :
    List.Forall₂ (fun base name => Declarable name ↔ Declarable base) bases
      (freshNames taken bases) := by
  induction bases generalizing taken with
  | nil => exact .nil
  | cons base later ih => exact .cons (declarable_freshName_iff taken base) (ih _)

theorem declarable_parameterNames {members : List MemberDeclaration}
    (identifiers : ∀ member ∈ members, isIdentifier member.name.toList = true) :
    List.Forall₂ (fun member name => Declarable name.toList ↔ ¬ Nameless member.name.toList)
      members (parameterNames members) := by
  have bases := List.forall₂_map_left_iff.mp
    (declarable_freshNames [] (members.map fun member => parameterName member.name.toList))
  refine List.forall₂_map_right_iff.mpr (List.forall₂_iff_zip.mpr ⟨bases.length_eq, ?_⟩)
  intro member name paired
  rw [String.toList_ofList, List.forall₂_zip bases paired,
    declarable_parameterName_iff (identifiers member (List.of_mem_zip paired).1)]

theorem forall_mem_iff_of_forall₂ {α β : Type} {p : α → Prop} {q : β → Prop} {left : List α}
    {right : List β} (paired : List.Forall₂ (fun a b => q b ↔ p a) left right) :
    (∀ b ∈ right, q b) ↔ ∀ a ∈ left, p a := by
  induction paired with
  | nil => simp
  | cons same _ ih => simp only [List.forall_mem_cons, same, ih]

/-- The parameters of a constructor can all be declared exactly if no member is called by an
underscore alone or by an underscore and a digit, and each parameter exactly if its own member is
not. -/
theorem parameters_declarable_iff (rule : AssignmentRule) (owner : TypeDeclaration)
    (members : List MemberDeclaration)
    (identifiers : ∀ member ∈ members, isIdentifier member.name.toList = true) :
    ((∀ parameter ∈ (constructorOf rule owner members).parameters,
        Declarable parameter.name.toList) ↔
      ∀ member ∈ members, ¬ Nameless member.name.toList) ∧
    List.Forall₂
      (fun member parameter => Declarable parameter.name.toList ↔ ¬ Nameless member.name.toList)
      (byLine members) (constructorOf rule owner members).parameters := by
  have named : List.Forall₂
      (fun member parameter => Declarable parameter.name.toList ↔ ¬ Nameless member.name.toList)
      (byLine members) (constructorOf rule owner members).parameters := by
    have names := declarable_parameterNames fun member inOrder =>
      identifiers member (mem_byLine.mp inOrder)
    rw [← parameters_constructorOf rule owner members] at names
    exact List.forall₂_map_right_iff.mp names
  refine ⟨(forall_mem_iff_of_forall₂ named).trans ?_, named⟩
  exact forall_congr' fun member => by rw [mem_byLine]

/-- The fields `_` and `_1` give parameters without a name and with the name `1`. -/
theorem parameters_declarable_iff_of_lone_underscore :
    let owner : TypeDeclaration := ⟨"P", 1, 9⟩
    let members : List MemberDeclaration :=
      [⟨owner, "int", "_", 3, .field⟩, ⟨owner, "int", "_1", 4, .field⟩]
    let made := constructorOf .alwaysThis owner members
    (∀ member ∈ members, isIdentifier member.name.toList = true) ∧
      made.parameters.map Parameter.name = ["", "1"] ∧
      ¬ ∀ parameter ∈ made.parameters, Declarable parameter.name.toList := by
  intro owner members made
  have identifiers : ∀ member ∈ members, isIdentifier member.name.toList = true := by decide +kernel
  have ordered : byLine members = members :=
    List.mergeSort_of_pairwise (by simp [members])
  have names : made.parameters.map Parameter.name = ["", "1"] := by
    rw [parameters_constructorOf, ordered]
    decide +kernel
  refine ⟨identifiers, names, fun declarable => ?_⟩
  have plain := (parameters_declarable_iff .alwaysThis owner members identifiers).1.mp declarable
  exact plain ⟨owner, "int", "_", 3, .field⟩ List.mem_cons_self (.inl (by decide))

end ConstructorAction.Synthesis
