import ConstructorAction.Proofs.Source.LineRule

namespace ConstructorAction.Source

open ConstructorAction.Text

/-!
What the line rules find: names are identifiers, and the type of a member is made of characters of
types, all of them out of the line (`foundIn_of_mem_lineMembers`).
-/

variable {α : Type}

theorem isWordChar_of_mem {name : List Char} (identifier : isIdentifier name = true) {c : Char}
    (member : c ∈ name) : isWordChar c = true := by
  cases name with
  | nil => cases member
  | cons first rest =>
      obtain ⟨start, words⟩ := Bool.and_eq_true_iff.mp identifier
      rcases List.mem_cons.mp member with rfl | inRest
      · exact isWordChar_of_isNameStart start
      · exact List.all_eq_true.mp words c inRest

theorem visible_of_isIdentifier {name : List Char} (identifier : isIdentifier name = true) :
    ∀ c ∈ name, isBlank c = false :=
  fun _ member => isBlank_of_isWordChar (isWordChar_of_mem identifier member)

theorem isIdentifier_of_identifier? {text name rest : List Char}
    (found : identifier? text = some (name, rest)) : isIdentifier name = true := by
  cases text with
  | nil => cases found
  | cons c more =>
      simp only [identifier?, Option.ite_none_right_eq_some, Option.some.injEq] at found
      obtain ⟨start, same⟩ := found
      obtain ⟨rfl, -⟩ := Prod.mk.inj same
      simp [isIdentifier, start]

theorem isIdentifier_of_declaredType? {line name : List Char}
    (declared : declaredType? line = some name) : isIdentifier name = true := by
  obtain ⟨place, -, found⟩ := List.exists_of_findSome?_eq_some declared
  rw [typeName?_eq] at found
  obtain ⟨rest, -, found⟩ := Option.bind_eq_some_iff.mp found
  obtain ⟨⟨word, more⟩, identifier, same⟩ := Option.bind_eq_some_iff.mp found
  obtain rfl := Option.some.inj same
  exact isIdentifier_of_identifier? identifier

theorem isIdentifier_of_fieldTail? {text name : List Char} (found : fieldTail? text = some name) :
    isIdentifier name = true := by
  rw [fieldTail?_eq] at found
  obtain ⟨rest, -, found⟩ := Option.bind_eq_some_iff.mp found
  obtain ⟨⟨word, more⟩, identifier, found⟩ := Option.bind_eq_some_iff.mp found
  obtain ⟨ending, -, found⟩ := Option.bind_eq_some_iff.mp found
  have same : name = word := by
    unfold fieldEnd? at found
    split at found
    · exact (Option.some.inj found).symm
    · split at found
      · cases found
      · exact (Option.some.inj found).symm
    · cases found
  rw [same]
  exact isIdentifier_of_identifier? identifier

theorem isIdentifier_of_propertyTail? {text name : List Char} {initialised : Bool}
    (found : propertyTail? text = some (name, initialised)) : isIdentifier name = true := by
  rw [propertyTail?_eq] at found
  obtain ⟨rest, -, found⟩ := Option.bind_eq_some_iff.mp found
  obtain ⟨⟨word, more⟩, identifier, found⟩ := Option.bind_eq_some_iff.mp found
  obtain ⟨inner, -, found⟩ := Option.bind_eq_some_iff.mp found
  obtain ⟨getter, -, found⟩ := Option.bind_eq_some_iff.mp found
  obtain ⟨body, -, found⟩ := Option.bind_eq_some_iff.mp found
  have same : name = word := by
    unfold propertyEnd? at found
    split at found
    · exact (Prod.mk.inj (Option.some.inj found)).1.symm
    · cases found
  rw [same]
  exact isIdentifier_of_identifier? identifier

theorem subset_of_afterAttribute? {text rest : List Char}
    (found : afterAttribute? text = some rest) : rest ⊆ text := by
  unfold afterAttribute? at found
  split at found
  · next inner =>
      split at found
      · next after closing =>
          obtain rfl := Option.some.inj found
          intro c member
          have inInner := (List.dropWhile_sublist (l := inner) (· != ']')).subset
          rw [closing] at inInner
          exact List.mem_cons_of_mem _ (inInner (List.mem_cons_of_mem _ member))
      · cases found
  · cases found

theorem subset_of_afterWord? {known : List (List Char)} {text rest : List Char}
    (found : afterWord? known text = some rest) : rest ⊆ text := by
  simp only [afterWord?, Option.ite_none_right_eq_some, Option.some.injEq] at found
  obtain ⟨-, rfl⟩ := found
  exact (List.dropWhile_sublist _).subset

theorem subset_of_mem_insideBlanks {place text : List Char} (member : place ∈ insideBlanks text) :
    place ⊆ text := by
  obtain ⟨blanks, -, rfl⟩ := exists_blanks_of_mem_insideBlanks member
  exact List.subset_append_right blanks place

theorem trimStart_subset (text : List Char) : trimStart text ⊆ text :=
  fun _ member => mem_of_mem_trimStart member

theorem subset_of_mem_afterModifiers {place text : List Char}
    (member : place ∈ afterModifiers text) : place ⊆ text := by
  induction text using afterModifiers.induct with
  | case1 text none =>
      unfold afterModifiers at member
      split at member
      · exact (List.mem_singleton.mp member) ▸ List.Subset.refl text
      · next rest found =>
          rw [none] at found
          cases found
  | case2 text rest found ih =>
      have inside : trimStart rest ⊆ text :=
        List.Subset.trans (trimStart_subset rest) (subset_of_afterWord? found)
      have dropped : rest.drop 1 ⊆ text :=
        List.Subset.trans (List.drop_subset 1 rest) (subset_of_afterWord? found)
      unfold afterModifiers at member
      split at member
      · exact (List.mem_singleton.mp member) ▸ List.Subset.refl text
      · next other same =>
          obtain rfl := Option.some.inj (found.symm.trans same)
          rcases List.mem_append.mp member with front | last
          · rcases List.mem_append.mp front with later | between
            · exact List.Subset.trans (ih later) inside
            · exact List.Subset.trans (subset_of_mem_insideBlanks between) dropped
          · exact (List.mem_singleton.mp last) ▸ List.Subset.refl text

theorem subset_of_mem_afterAttributes {place text : List Char}
    (member : place ∈ afterAttributes text) : place ⊆ text := by
  induction text using afterAttributes.induct with
  | case1 text none =>
      unfold afterAttributes at member
      split at member
      · exact (List.mem_singleton.mp member) ▸ List.Subset.refl text
      · next rest found =>
          rw [none] at found
          cases found
  | case2 text rest found ih =>
      have behind : rest ⊆ text := subset_of_afterAttribute? found
      have inside : trimStart rest ⊆ text := List.Subset.trans (trimStart_subset rest) behind
      unfold afterAttributes at member
      split at member
      · exact (List.mem_singleton.mp member) ▸ List.Subset.refl text
      · next other same =>
          obtain rfl := Option.some.inj (found.symm.trans same)
          rcases List.mem_append.mp member with front | last
          · rcases List.mem_append.mp front with later | between
            · exact List.Subset.trans (ih later) inside
            · exact List.Subset.trans (subset_of_mem_insideBlanks between) behind
          · exact (List.mem_singleton.mp last) ▸ List.Subset.refl text

/-- A place where a declaration may start has no character that the line has not. -/
theorem subset_of_mem_starts {place line : List Char} (member : place ∈ starts line) :
    place ⊆ line := by
  rcases List.mem_append.mp member with behind | inside
  · obtain ⟨middle, attributes, modifiers⟩ := List.mem_flatMap.mp behind
    exact List.Subset.trans (subset_of_mem_afterModifiers modifiers)
      (List.Subset.trans (subset_of_mem_afterAttributes attributes) (trimStart_subset line))
  · exact subset_of_mem_insideBlanks inside

theorem isTypeChar_of_isTypeEnd {c : Char} (ends : isTypeEnd c = true) : isTypeChar c = true := by
  simp only [isTypeEnd, Bool.or_eq_true] at ends
  rcases ends with ((word | angle) | question) | bracket <;> simp [isTypeChar, *]

/-- A type is read up to where the rest of the declaration is. -/
theorem typeAnd_eq_some {tail : List Char → Option α} {text type : List Char} {found : α}
    (read : typeAnd tail text = some (type, found)) :
    ∃ rest, text = type ++ rest ∧ (∀ c ∈ type, isTypeChar c = true) ∧ tail rest = some found := by
  induction text generalizing type with
  | nil => cases read
  | cons c rest ih =>
      unfold typeAnd at read
      split at read
      · next result ended =>
          obtain ⟨rfl, rfl⟩ := Prod.mk.inj (Option.some.inj read)
          split at ended
          · next ends => exact ⟨rest, rfl, by simpa using isTypeChar_of_isTypeEnd ends, ended⟩
          · cases ended
      · split at read
        · next inType =>
            obtain ⟨⟨later, result⟩, inRest, same⟩ := Option.map_eq_some_iff.mp read
            obtain ⟨rfl, rfl⟩ := Prod.mk.inj same
            obtain ⟨behind, whole, typed, tailRead⟩ := ih inRest
            have typedAll : ∀ other ∈ c :: later, isTypeChar other = true :=
              List.forall_mem_cons.mpr ⟨inType, typed⟩
            exact ⟨behind, by rw [whole, List.cons_append], typedAll, tailRead⟩
        · cases read

theorem member?_eq_some {type name : List Char} {member : Member}
    (made : member? type name = some member) : member = ⟨trim type, name⟩ := by
  simp only [member?, Option.ite_none_right_eq_some, Option.some.injEq] at made
  exact made.2.symm

/-- A member as it can be found in a line: its name is an identifier, and its type is made of
characters of the line. -/
structure Member.FoundIn (member : Member) (line : List Char) : Prop where
  name : isIdentifier member.name = true
  type : ∀ c ∈ member.declaredType, isTypeChar c = true ∧ c ∈ line

/-- The type and the name of a member are read at some place of the line. -/
theorem foundIn_of_findSome?_starts {tail : List Char → Option α} {line type name : List Char}
    {found : α} {member : Member} (made : member? type name = some member)
    (read : (starts line).findSome? (typeAnd tail) = some (type, found))
    (named : ∀ rest, tail rest = some found → isIdentifier name = true) :
    member.FoundIn line := by
  obtain ⟨place, start, inPlace⟩ := List.exists_of_findSome?_eq_some read
  obtain ⟨rest, rfl, typed, behind⟩ := typeAnd_eq_some inPlace
  rw [member?_eq_some made]
  refine ⟨named rest behind, fun c inTrim => ?_⟩
  have inType : c ∈ type := mem_of_mem_trim inTrim
  exact ⟨typed c inType, subset_of_mem_starts start (List.mem_append_left rest inType)⟩

theorem foundIn_of_field? {line : List Char} {member : Member} (found : field? line = some member) :
    member.FoundIn line := by
  unfold field? at found
  split at found
  · cases found
  · next read =>
      exact foundIn_of_findSome?_starts found read fun _ => isIdentifier_of_fieldTail?

theorem foundIn_of_property? {line : List Char} {member : Member}
    (found : property? line = some member) : member.FoundIn line := by
  unfold property? at found
  split at found
  · cases found
  · next read =>
      split at found
      · cases found
      · exact foundIn_of_findSome?_starts found read fun _ => isIdentifier_of_propertyTail?

theorem foundIn_of_mem_lineMembers {line : List Char} {found : Member × MemberKind}
    (member : found ∈ lineMembers line) : found.1.FoundIn line := by
  rcases List.mem_append.mp member with inField | inProperty
  · obtain ⟨read, isField, rfl⟩ := List.mem_map.mp inField
    exact foundIn_of_field? (Option.mem_toList.mp isField)
  · obtain ⟨read, isProperty, rfl⟩ := List.mem_map.mp inProperty
    exact foundIn_of_property? (Option.mem_toList.mp isProperty)

end ConstructorAction.Source
