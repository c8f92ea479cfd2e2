import ConstructorAction.Proofs.Source.Front
import ConstructorAction.Proofs.Source.Silent

namespace ConstructorAction.Source

open ConstructorAction.Text

/-!
The lines that declare a type. Such a line can be cut into the parts of a declaration in one way,
and the rule finds the name exactly in the lines that can be cut so
(`declaredType?_reads_typeLine`). Words and letters are spelled out here once more: the lines are
those of the language, whatever list the rule looks them up in.
-/

variable {text rest name : List Char}

theorem Plain.afterAttribute?_written {known : List (List Char)} (plain : Plain known)
    (spaced : SpacedWord known) (rest : List Char) :
    afterAttribute? (spaced.written ++ rest) = none := by
  have identifier := plain.identifiers spaced.word spaced.listed
  obtain ⟨c, more, form⟩ := List.exists_cons_of_ne_nil (ne_nil_of_isIdentifier identifier)
  rw [form, isIdentifier, Bool.and_eq_true] at identifier
  refine afterAttribute?_of_head ?_
  rw [SpacedWord.written, form]
  rintro ⟨⟩
  exact absurd identifier.1 (by decide)

/-- The word in front of the name of a type, and the blanks between them. -/
abbrev TypeKeyword := SpacedWord ["class".toList, "struct".toList]

theorem pieces_typeKeywords :
    Pieces (afterWord? typeKeywords) fun keyword : TypeKeyword => keyword.written :=
  plain_typeKeywords.pieces

/-- A letter of ASCII or an underscore, and word characters behind it. -/
def IsTypeName (name : List Char) : Prop :=
  ∃ first later, name = first :: later ∧
    ('A' ≤ first ∧ first ≤ 'Z' ∨ 'a' ≤ first ∧ first ≤ 'z' ∨ first = '_') ∧
    ∀ c ∈ later, isWordChar c = true

theorem isNameStart_iff (c : Char) : isNameStart c = true ↔
    'A' ≤ c ∧ c ≤ 'Z' ∨ 'a' ≤ c ∧ c ≤ 'z' ∨ c = '_' := by
  have upper : c.isUpper = true ↔ 'A' ≤ c ∧ c ≤ 'Z' := decide_eq_true_iff
  have lower : c.isLower = true ↔ 'a' ≤ c ∧ c ≤ 'z' := by
    change (decide ('a' ≤ c) && decide (c ≤ 'z')) = true ↔ _
    rw [Bool.and_eq_true, decide_eq_true_iff, decide_eq_true_iff]
  change (c.isUpper || c.isLower || c == '_') = true ↔ _
  rw [Bool.or_eq_true, Bool.or_eq_true, upper, lower, beq_iff_eq, or_assoc]

theorem isIdentifier_iff_isTypeName : isIdentifier name = true ↔ IsTypeName name := by
  cases name with
  | nil =>
      constructor
      · nofun
      · rintro ⟨first, later, none, -⟩
        cases none
  | cons c rest =>
      rw [isIdentifier, Bool.and_eq_true, isNameStart_iff, List.all_eq_true]
      constructor
      · rintro ⟨start, words⟩
        exact ⟨c, rest, rfl, start, words⟩
      · rintro ⟨first, later, same, start, words⟩
        obtain ⟨rfl, rfl⟩ := List.cons.inj same
        exact ⟨start, words⟩

/-- The parts of a line that declares a type. -/
structure TypeLine where
  margin : List Char
  attributes : List Attribute
  modifiers : List Modifier
  keyword : TypeKeyword
  name : List Char
  rest : List Char
  blank : Blanks margin
  named : IsTypeName name
  /-- The name does not go on behind its end. -/
  ends : StartsWithout isWordChar rest

namespace TypeLine

def declaration (line : TypeLine) : List Char :=
  line.modifiers.flatMap SpacedWord.written ++ (line.keyword.written ++ (line.name ++ line.rest))

def written (line : TypeLine) : List Char :=
  line.margin ++ line.attributes.flatMap Attribute.written ++ line.declaration

variable (line : TypeLine)

theorem isIdentifier_name : isIdentifier line.name = true :=
  isIdentifier_iff_isTypeName.mpr line.named

theorem flush_named : Flush (line.name ++ line.rest) :=
  flush_of_isIdentifier line.isIdentifier_name line.rest

theorem flush_keyword : Flush (line.keyword.written ++ (line.name ++ line.rest)) :=
  pieces_typeKeywords.flush line.keyword _

theorem flush_declaration : Flush line.declaration :=
  pieces_modifiers.flush_flatMap line.modifiers line.flush_keyword

theorem typeName?_keyword :
    typeName? (line.keyword.written ++ (line.name ++ line.rest)) = some line.name := by
  obtain ⟨rest, taken, trimmed⟩ := pieces_typeKeywords.takes line.keyword line.flush_named
  rw [typeName?_eq, taken, Option.bind_some, trimmed,
    identifier?_eq_some_iff.mpr ⟨rfl, line.isIdentifier_name, line.ends⟩]
  rfl

theorem afterWord?_keyword :
    afterWord? modifierWords (line.keyword.written ++ (line.name ++ line.rest)) = none := by
  have apart : ∀ keyword ∈ typeKeywords, keyword ∉ modifierWords := by decide
  exact plain_typeKeywords.afterWord?_of_unlisted line.keyword (apart _ line.keyword.listed) _

theorem afterAttribute?_declaration : afterAttribute? line.declaration = none := by
  unfold declaration
  cases line.modifiers with
  | nil => exact plain_typeKeywords.afterAttribute?_written line.keyword _
  | cons modifier later =>
      rw [List.flatMap_cons, List.append_assoc]
      exact plain_modifierWords.afterAttribute?_written modifier _

theorem declaredType?_written : declaredType? line.written = some line.name := by
  have behind : BehindAttributes line.written line.attributes.length line.declaration :=
    ⟨line.margin, line.attributes, line.blank, rfl, rfl, line.flush_declaration⟩
  have modified : BehindModifiers line.declaration line.modifiers.length
      (line.keyword.written ++ (line.name ++ line.rest)) :=
    ⟨line.modifiers, rfl, rfl, line.flush_keyword⟩
  have atKeyword := line.typeName?_keyword
  have read : (afterModifiers line.declaration).findSome? typeName? = some line.name :=
    (findSome?_afterModifiers_eq_some_iff unbiased_typeName? line.flush_declaration).mpr
      ⟨_, farthest_behindModifiers line.flush_declaration modified line.afterWord?_keyword
        (by simp [atKeyword]), atKeyword⟩
  exact (findSome?_starts_eq_some_iff unbiased_typeName?).mpr
    ⟨_, farthest_behindAttributes behind line.afterAttribute?_declaration (by simp [read]), read⟩

theorem written_injective : Function.Injective written := by
  intro line other same
  unfold written at same
  rw [List.append_assoc, List.append_assoc] at same
  obtain ⟨margin, same⟩ := run_unique line.blank
    (pieces_attributes.flush_flatMap line.attributes line.flush_declaration) other.blank
    (pieces_attributes.flush_flatMap other.attributes other.flush_declaration) same
  obtain ⟨attributes, same⟩ := pieces_attributes.list_unique line.flush_declaration
    other.flush_declaration line.afterAttribute?_declaration other.afterAttribute?_declaration same
  obtain ⟨modifiers, same⟩ := pieces_modifiers.list_unique line.flush_keyword
    other.flush_keyword line.afterWord?_keyword other.afterWord?_keyword same
  obtain ⟨keyword, same⟩ := pieces_typeKeywords.unique line.flush_named other.flush_named same
  obtain ⟨name, rest⟩ := run_unique (fun _ => isWordChar_of_mem line.isIdentifier_name) line.ends
    (fun _ => isWordChar_of_mem other.isIdentifier_name) other.ends same
  cases line
  cases other
  simp only [TypeLine.mk.injEq]
  exact ⟨margin, attributes, modifiers, keyword, name, rest⟩

end TypeLine

/-- The name that a line declares is that of the declaration that the line can be cut into. -/
theorem exists_typeLine (declared : declaredType? text = some name) :
    ∃ line : TypeLine, line.written = text ∧ line.name = name := by
  obtain ⟨declaration, ⟨_, behind, -, -⟩, read⟩ :=
    (findSome?_starts_eq_some_iff unbiased_typeName?).mp declared
  obtain ⟨margin, attributes, blank, -, whole, flush⟩ := behind
  obtain ⟨place, ⟨_, modified, -, -⟩, found⟩ :=
    (findSome?_afterModifiers_eq_some_iff unbiased_typeName? flush).mp read
  obtain ⟨modifiers, -, same, -⟩ := modified
  rw [typeName?_eq] at found
  obtain ⟨behindKeyword, keyed, found⟩ := Option.bind_eq_some_iff.mp found
  obtain ⟨⟨word, rest⟩, identifier, found⟩ := Option.bind_eq_some_iff.mp found
  obtain rfl := Option.some.inj found
  obtain ⟨keyword, atKeyword⟩ := pieces_typeKeywords.taken keyed
  obtain ⟨split, named, ends⟩ := identifier?_eq_some_iff.mp identifier
  refine ⟨⟨margin, attributes, modifiers, keyword, word, rest, blank,
    isIdentifier_iff_isTypeName.mp named, ends⟩, ?_, rfl⟩
  rw [whole, same, atKeyword, split]
  rfl

/-- A text can be cut into the parts of a line that declares a type in one way at most. The name
that the rule finds in it is the name in this cut, and it finds none if there is no cut. -/
theorem declaredType?_reads_typeLine :
    Function.Injective TypeLine.written ∧ ∀ text name, declaredType? text = some name ↔
      ∃ line : TypeLine, line.written = text ∧ line.name = name := by
  refine ⟨TypeLine.written_injective, fun text name => ⟨exists_typeLine, ?_⟩⟩
  rintro ⟨line, rfl, rfl⟩
  exact line.declaredType?_written

/-- Attributes, modifiers and either word; a line with another word cannot be cut. -/
theorem declaredType?_reads_typeLine_of_both_words :
    let first := " [A] [B(1)]\tpublic static class C : D".toList
    let second := "struct E_1\x7b".toList
    (declaredType? first = some ['C'] ∧ ∀ cut : TypeLine, cut.written = first → cut.name = ['C']) ∧
      declaredType? second = some "E_1".toList ∧
      ∀ cut : TypeLine, cut.written ≠ "public enum F".toList := by
  intro first second
  have read := declaredType?_reads_typeLine.2
  have space : Blanks [' '] := .cons (by decide) .nil
  have tab : Blanks ['\t'] := .cons (by decide) .nil
  let line : TypeLine := {
    margin := [' ']
    attributes := [⟨['A'], [' '], by decide, space⟩, ⟨"B(1)".toList, ['\t'], by decide, tab⟩]
    modifiers := [⟨"public".toList, [' '], by decide, space, by decide⟩,
      ⟨"static".toList, [' '], by decide, space, by decide⟩]
    keyword := ⟨"class".toList, [' '], by decide, space, by decide⟩
    name := ['C']
    rest := " : D".toList
    blank := space
    named := ⟨'C', [], rfl, by decide, List.forall_mem_nil _⟩
    ends := .cons (by decide) _ }
  let other : TypeLine := {
    margin := []
    attributes := []
    modifiers := []
    keyword := ⟨"struct".toList, [' '], by decide, space, by decide⟩
    name := "E_1".toList
    rest := ['\x7b']
    blank := .nil
    named := ⟨'E', ['_', '1'], rfl, by decide, List.all_eq_true.mp (by decide)⟩
    ends := .cons (by decide) _ }
  have declares : declaredType? first = some ['C'] := (read first ['C']).mpr ⟨line, rfl, rfl⟩
  refine ⟨⟨declares, fun cut whole => ?_⟩, (read second _).mpr ⟨other, rfl, rfl⟩,
    fun cut whole => ?_⟩
  · have again := (read first cut.name).mpr ⟨cut, whole, rfl⟩
    exact Option.some.inj (again.symm.trans declares)
  · have declared := (read _ cut.name).mpr ⟨cut, whole, rfl⟩
    have silent : declaredType? "public enum F".toList = none := by decide +kernel
    rw [silent] at declared
    cases declared

end ConstructorAction.Source
