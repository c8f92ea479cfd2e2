import ConstructorAction.Synthesis.Parameters
import Mathlib.Data.List.Nodup
import Mathlib.Data.List.Perm.Subperm
import Mathlib.Order.Bounds.Basic

namespace ConstructorAction.Synthesis

open ConstructorAction.Source

/-!
Names that differ from each other. Of the suffixes that are tried one is free, since there are more
of them than taken names, and the first free one is chosen (`freshSuffix_least`). A parameter gets
one only if a parameter before it has its name (`parameterNames_first_free`).
-/

def suffixed (base : List Char) (count : Nat) : List Char := base ++ Nat.toDigits 10 count

theorem suffixed_injective (base : List Char) : Function.Injective (suffixed base) := by
  intro left right same
  have digits : Nat.toDigits 10 left = Nat.toDigits 10 right := List.append_cancel_left same
  calc left = Nat.ofDigitChars 10 (Nat.toDigits 10 left) 0 := Nat.ofDigitChars_ten_toDigits.symm
    _ = Nat.ofDigitChars 10 (Nat.toDigits 10 right) 0 := by rw [digits]
    _ = right := Nat.ofDigitChars_ten_toDigits

variable {taken : List (List Char)} {base : List Char} {count fuel : Nat}

theorem freshSuffix_go_ge : count ≤ freshSuffix.go taken base fuel count := by
  induction fuel generalizing count with
  | zero => exact Nat.le_refl count
  | succ fuel ih =>
      unfold freshSuffix.go
      split
      · exact Nat.le_of_succ_le ih
      · exact Nat.le_refl count

theorem freshSuffix_go_taken {number : Nat} (lower : count ≤ number)
    (upper : number < freshSuffix.go taken base fuel count) : suffixed base number ∈ taken := by
  induction fuel generalizing count with
  | zero => exact absurd upper (Nat.not_lt.mpr lower)
  | succ fuel ih =>
      unfold freshSuffix.go at upper
      split at upper
      · next present =>
          rcases Nat.eq_or_lt_of_le lower with rfl | later
          · exact List.contains_iff_mem.mp present
          · exact ih later upper
      · exact absurd upper (Nat.not_lt.mpr lower)

theorem freshSuffix_go_free (early : freshSuffix.go taken base fuel count < count + fuel) :
    suffixed base (freshSuffix.go taken base fuel count) ∉ taken := by
  induction fuel generalizing count with
  | zero => exact absurd early (Nat.not_lt.mpr freshSuffix_go_ge)
  | succ fuel ih =>
      unfold freshSuffix.go at early ⊢
      split
      · next present =>
          rw [if_pos present] at early
          exact ih (by omega)
      · next absent => exact fun member => absent (List.contains_iff_mem.mpr member)

/-- More suffixes than taken names cannot all be taken. -/
theorem exists_suffixed_notMem (taken : List (List Char)) (base : List Char) (count : Nat) :
    ∃ number, count ≤ number ∧ number < count + (taken.length + 1) ∧
      suffixed base number ∉ taken := by
  by_contra none
  let tried := (List.range' count (taken.length + 1)).map (suffixed base)
  have distinct : tried.Nodup := List.Nodup.map (suffixed_injective base) List.nodup_range'
  have inTaken : tried ⊆ taken := by
    intro name member
    obtain ⟨number, inRange, rfl⟩ := List.mem_map.mp member
    obtain ⟨lower, upper⟩ := List.mem_range'_1.mp inRange
    by_contra free
    exact none ⟨number, lower, upper, free⟩
  have size := (List.subperm_of_subset distinct inTaken).length_le
  simp only [tried, List.length_map, List.length_range'] at size
  omega

/-- The suffix that is chosen is free, and all before it are taken. -/
theorem freshSuffix_least (taken : List (List Char)) (base : List Char) (count : Nat) :
    suffixed base (freshSuffix taken base count) ∉ taken ∧ count ≤ freshSuffix taken base count ∧
      ∀ number, count ≤ number → number < freshSuffix taken base count →
        suffixed base number ∈ taken := by
  obtain ⟨number, lower, upper, free⟩ := exists_suffixed_notMem taken base count
  have reached : freshSuffix taken base count ≤ number := by
    by_contra beyond
    exact free (freshSuffix_go_taken lower (Nat.lt_of_not_le beyond))
  exact ⟨freshSuffix_go_free (Nat.lt_of_le_of_lt reached upper), freshSuffix_go_ge,
    fun _ => freshSuffix_go_taken⟩

theorem freshName_notMem (taken : List (List Char)) (base : List Char) :
    freshName taken base ∉ taken := by
  unfold freshName
  split
  · exact (freshSuffix_least taken base 2).1
  · next absent => exact fun member => absent (List.contains_iff_mem.mpr member)

theorem freshName_cases (taken : List (List Char)) (base : List Char) :
    freshName taken base = base ∨ ∃ count, freshName taken base = suffixed base count := by
  unfold freshName
  split
  · exact .inr ⟨_, rfl⟩
  · exact .inl rfl

/-- A name is kept if it is free, and otherwise gets the least number that makes it free. -/
theorem freshName_least (taken : List (List Char)) (base : List Char) :
    base ∉ taken ∧ freshName taken base = base ∨
      base ∈ taken ∧ ∃ number,
        IsLeast {number | 2 ≤ number ∧ suffixed base number ∉ taken} number ∧
          freshName taken base = suffixed base number := by
  by_cases present : base ∈ taken
  · obtain ⟨free, lower, before⟩ := freshSuffix_least taken base 2
    refine .inr ⟨present, freshSuffix taken base 2, ⟨⟨lower, free⟩, ?_⟩, ?_⟩
    · rintro number ⟨fromTwo, numberFree⟩
      by_contra earlier
      exact numberFree (before number fromTwo (Nat.lt_of_not_le earlier))
    · rw [freshName, if_pos (List.contains_iff_mem.mpr present), suffixed]
  · exact .inl ⟨present, freshName_of_notMem present⟩

/-- Every name is made from one of the bases. -/
theorem exists_base_of_mem_freshNames {bases : List (List Char)} {name : List Char}
    (member : name ∈ freshNames taken bases) :
    ∃ base ∈ bases, name = base ∨ ∃ count, name = suffixed base count := by
  induction bases generalizing taken with
  | nil => simp [freshNames] at member
  | cons base later ih =>
      rcases List.mem_cons.mp member with rfl | inLater
      · exact ⟨base, List.mem_cons_self, freshName_cases taken base⟩
      · obtain ⟨other, inBases, made⟩ := ih inLater
        exact ⟨other, List.mem_cons_of_mem base inBases, made⟩

/-- A number behind a base does not bring an underscore in front. -/
theorem exists_base_underscore {bases : List (List Char)} {name : List Char}
    (member : name ∈ freshNames taken bases) (underscore : name.head? = some '_') :
    ∃ base ∈ bases, base.head? = some '_' := by
  obtain ⟨base, inBases, rfl | ⟨count, rfl⟩⟩ := exists_base_of_mem_freshNames member
  · exact ⟨name, inBases, underscore⟩
  · cases base with
    | nil => exact absurd (List.mem_of_head? underscore) Nat.underscore_not_in_toDigits
    | cons c rest => exact ⟨c :: rest, inBases, underscore⟩

theorem notMem_of_mem_freshNames {bases : List (List Char)} {name : List Char}
    (member : name ∈ freshNames taken bases) : name ∉ taken := by
  induction bases generalizing taken with
  | nil => simp [freshNames] at member
  | cons base later ih =>
      rcases List.mem_cons.mp member with rfl | inLater
      · exact freshName_notMem taken base
      · exact fun old => ih inLater (List.mem_cons_of_mem _ old)

theorem nodup_freshNames (taken bases : List (List Char)) : (freshNames taken bases).Nodup := by
  induction bases generalizing taken with
  | nil => exact .nil
  | cons base later ih =>
      refine List.nodup_cons.mpr ⟨fun again => ?_, ih _⟩
      exact notMem_of_mem_freshNames again List.mem_cons_self

/-- No two parameters of a constructor have the same name. -/
theorem nodup_parameterNames (members : List MemberDeclaration) :
    (parameterNames members).Nodup :=
  (nodup_freshNames [] _).map fun _ _ same => String.ofList_injective same

/-- Every name is made with regard to those before it. -/
theorem getElem?_freshNames (taken bases : List (List Char)) (place : Nat) :
    (freshNames taken bases)[place]? =
      bases[place]?.map (freshName (((freshNames taken bases).take place).reverse ++ taken)) := by
  induction bases generalizing taken place with
  | nil => rfl
  | cons base later ih =>
      cases place with
      | zero => rfl
      | succ place =>
          have later' := ih (freshName taken base :: taken) place
          simpa [freshNames] using later'

theorem ofList_suffixed (base : List Char) (number : Nat) :
    String.ofList (suffixed base number) = String.ofList base ++ toString number := by
  apply String.toList_injective
  simp [suffixed]

theorem ofList_mem_map_iff {name : List Char} {names : List (List Char)} :
    String.ofList name ∈ names.map String.ofList ↔ name ∈ names :=
  List.mem_map_of_injective fun _ _ same => String.ofList_injective same

/-- There are as many parameter names as members, and no two of them are the same. Each is the name
that its member has by itself, unless a name before it is the same: then the least number from 2 on
stands behind it that makes it differ from all names before. -/
theorem parameterNames_first_free (members : List MemberDeclaration) :
    (parameterNames members).length = members.length ∧ (parameterNames members).Nodup ∧
      ∀ place member name, members[place]? = some member →
        (parameterNames members)[place]? = some name →
        let base := ownParameter member
        let earlier := (parameterNames members).take place
        base ∉ earlier ∧ name = base ∨
          base ∈ earlier ∧ ∃ number,
            IsLeast {number | 2 ≤ number ∧ base ++ toString number ∉ earlier} number ∧
              name = base ++ toString number := by
  refine ⟨length_parameterNames members, nodup_parameterNames members, ?_⟩
  intro place member name inMembers named base earlier
  let names := freshNames [] (members.map fun member => parameterName member.name.toList)
  have made : names[place]? =
      some (freshName (names.take place).reverse (parameterName member.name.toList)) := by
    rw [getElem?_freshNames, List.getElem?_map, inMembers, List.append_nil]
    rfl
  have text : name =
      String.ofList (freshName (names.take place).reverse (parameterName member.name.toList)) := by
    rw [parameterNames, List.getElem?_map, made] at named
    exact (Option.some.inj named).symm
  have inEarlier {letters : List Char} :
      String.ofList letters ∈ earlier ↔ letters ∈ (names.take place).reverse := by
    rw [show earlier = (names.take place).map String.ofList from List.map_take.symm,
      ofList_mem_map_iff, List.mem_reverse]
  have numbered (number : Nat) : base ++ toString number =
      String.ofList (suffixed (parameterName member.name.toList) number) :=
    (ofList_suffixed _ number).symm
  simp only [numbered, inEarlier]
  rcases freshName_least (names.take place).reverse (parameterName member.name.toList) with
    ⟨free, same⟩ | ⟨present, number, least, same⟩
  · exact .inl ⟨inEarlier.not.mpr free, by rw [text, same]; rfl⟩
  · exact .inr ⟨inEarlier.mpr present, number, least, by rw [text, same]⟩

/-- The number 2 is passed over because another member is called `Id2`. -/
theorem parameterNames_first_free_of_taken_number :
    let owner : TypeDeclaration := ⟨"P", 1, 9⟩
    let members : List MemberDeclaration :=
      [⟨owner, "int", "Id", 3, .field⟩, ⟨owner, "int", "Id2", 4, .field⟩,
        ⟨owner, "int", "_id", 5, .field⟩]
    members[2]? = some ⟨owner, "int", "_id", 5, .field⟩ ∧
      (parameterNames members)[2]? = some "id3" ∧
      ∃ number, IsLeast {number | 2 ≤ number ∧ "id" ++ toString number ∉ ["id", "id2"]} number ∧
        "id3" = "id" ++ toString number := by
  intro owner members
  have names : parameterNames members = ["id", "id2", "id3"] := by decide +kernel
  have third : (parameterNames members)[2]? = some "id3" := by rw [names]; rfl
  have made := (parameterNames_first_free members).2.2 2 _ "id3" rfl third
  rw [names] at made
  have own : ownParameter ⟨owner, "int", "_id", 5, .field⟩ = "id" := by decide +kernel
  rw [own] at made
  refine ⟨rfl, third, ?_⟩
  rcases made with ⟨free, -⟩ | ⟨-, least⟩
  · exact absurd List.mem_cons_self free
  · exact least

end ConstructorAction.Synthesis
