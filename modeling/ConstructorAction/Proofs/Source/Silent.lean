import ConstructorAction.Proofs.Source.Found

namespace ConstructorAction.Source

open ConstructorAction.Text

/-!
Lines that declare nothing. The end of a field and the end of a property both start with blanks, a
name and a mark of their own (`NamesBefore`), and a line in which this cannot come up declares no
member.
-/

/-- A line that declares no type and no member. -/
structure Silent (line : List Char) : Prop where
  noType : declaredType? line = none
  noMember : lineMembers line = []

variable {α : Type}

section Places

variable {read : List Char → Option α} {line rest : List Char}

/-- A line that starts with neither an attribute nor a modifier is read as it stands. -/
theorem findSome?_starts_of_plain (unbiased : Unbiased read) (start : trimStart line = line)
    (noAttribute : afterAttribute? line = none)
    (noModifier : afterWord? modifierWords line = none) :
    (starts line).findSome? read = read line := by
  rw [findSome?_starts unbiased, start, findSome?_afterAttributes unbiased.afterModifiers,
    noAttribute]
  dsimp only
  rw [findSome?_afterModifiers unbiased, noModifier]

/-- Behind a single modifier a line is read with and without it. -/
theorem findSome?_starts_of_modifier (unbiased : Unbiased read) (start : trimStart line = line)
    (noAttribute : afterAttribute? line = none)
    (modifier : afterWord? modifierWords line = some rest)
    (noOther : afterWord? modifierWords (trimStart rest) = none) :
    (starts line).findSome? read = (read (trimStart rest)).or (read line) := by
  rw [findSome?_starts unbiased, start, findSome?_afterAttributes unbiased.afterModifiers,
    noAttribute]
  dsimp only
  rw [findSome?_afterModifiers unbiased, modifier]
  dsimp only
  rw [findSome?_afterModifiers unbiased, noOther]

theorem findSome?_starts_append_left (unbiased : Unbiased read) {blanks : List Char}
    (blank : Blanks blanks) (line : List Char) :
    (starts (blanks ++ line)).findSome? read = (starts line).findSome? read := by
  rw [findSome?_starts unbiased, findSome?_starts unbiased, trimStart_append_left blank]

/-- A word with a character in it that no known word has is not known. -/
theorem afterWord?_of_mem {known : List (List Char)} {text : List Char} {mark : Char}
    (inWord : mark ∈ (firstWord text).1) (apart : ∀ word ∈ known, mark ∉ word) :
    afterWord? known text = none := by
  have unknown : (firstWord text).1 ∉ known := fun member => apart _ member inWord
  simp [afterWord?, unknown]

end Places

/-- A reader that reads blanks, a name and a mark first. -/
def NamesBefore (mark : Char) (read : List Char → Option α) : Prop :=
  ∀ text found, read text = some found → ∃ named name more behind,
    afterBlanks? text = some named ∧ identifier? named = some (name, more) ∧
      afterMark? mark more = some behind

theorem namesBefore_fieldTail? : NamesBefore ';' fieldTail? := by
  intro text name found
  rw [fieldTail?_eq] at found
  obtain ⟨named, blanks, found⟩ := Option.bind_eq_some_iff.mp found
  obtain ⟨⟨word, more⟩, identifier, found⟩ := Option.bind_eq_some_iff.mp found
  obtain ⟨behind, marked, -⟩ := Option.bind_eq_some_iff.mp found
  exact ⟨named, word, more, behind, blanks, identifier, marked⟩

theorem namesBefore_propertyTail? : NamesBefore '\x7b' propertyTail? := by
  intro text result found
  rw [propertyTail?_eq] at found
  obtain ⟨named, blanks, found⟩ := Option.bind_eq_some_iff.mp found
  obtain ⟨⟨word, more⟩, identifier, found⟩ := Option.bind_eq_some_iff.mp found
  obtain ⟨behind, marked, -⟩ := Option.bind_eq_some_iff.mp found
  exact ⟨named, word, more, behind, blanks, identifier, marked⟩

theorem afterBlanks?_eq_some {text rest : List Char} (found : afterBlanks? text = some rest) :
    ∃ c more, text = c :: more ∧ isBlank c = true ∧ rest = trimStart more := by
  cases text with
  | nil => cases found
  | cons c more =>
      simp only [afterBlanks?, Option.ite_none_right_eq_some, Option.some.injEq] at found
      exact ⟨c, more, rfl, found.1, found.2.symm⟩

theorem NamesBefore.mem {mark : Char} {read : List Char → Option α} (names : NamesBefore mark read)
    {text : List Char} {found : α} (result : read text = some found) : mark ∈ text := by
  obtain ⟨named, name, more, behind, blanks, identifier, marked⟩ := names text found result
  obtain ⟨c, rest, rfl, -, rfl⟩ := afterBlanks?_eq_some blanks
  have inMore : mark ∈ more := by
    unfold afterMark? at marked
    split at marked
    · cases marked
    · next c rest start =>
        split at marked
        · next same =>
            subst same
            exact mem_of_mem_trimStart (start ▸ List.mem_cons_self)
        · cases marked
  have inNamed : mark ∈ trimStart rest := by
    cases start : trimStart rest with
    | nil => rw [start] at identifier; cases identifier
    | cons first others =>
        rw [start] at identifier
        simp only [identifier?, Option.ite_none_right_eq_some, Option.some.injEq,
          Prod.mk.injEq] at identifier
        obtain ⟨-, -, rfl⟩ := identifier
        exact List.mem_cons_of_mem first ((List.dropWhile_sublist _).subset inMore)
  exact List.mem_cons_of_mem c (mem_of_mem_trimStart inNamed)

theorem typeAnd_of_notMem {mark : Char} {tail : List Char → Option α}
    (names : NamesBefore mark tail) {text : List Char} (missing : mark ∉ text) :
    typeAnd tail text = none := by
  refine Option.eq_none_iff_forall_ne_some.mpr fun ⟨type, found⟩ read => ?_
  obtain ⟨rest, rfl, -, behind⟩ := typeAnd_eq_some read
  exact missing (List.mem_append_right type (names.mem behind))

/-- No declaration starts with one word and a sign of equality behind it. -/
theorem typeAnd_assignment {mark : Char} {tail : List Char → Option α}
    (names : NamesBefore mark tail) {word : List Char} (visible : ∀ c ∈ word, isBlank c = false)
    (more : List Char) : typeAnd tail (word ++ ' ' :: '=' :: more) = none := by
  refine Option.eq_none_iff_forall_ne_some.mpr fun ⟨type, found⟩ read => ?_
  obtain ⟨rest, whole, typed, behind⟩ := typeAnd_eq_some read
  obtain ⟨named, name, others, -, blanks, identifier, -⟩ := names rest found behind
  obtain ⟨c, inner, rfl, blank, rfl⟩ := afterBlanks?_eq_some blanks
  have noName : trimStart inner ≠ '=' :: more := by
    intro same
    rw [same] at identifier
    simp [identifier?, show isNameStart '=' = false by decide] at identifier
  have noEquality : '=' ∉ type := fun member => absurd (typed '=' member) (by decide)
  have equalityStarts : trimStart ('=' :: more) = '=' :: more :=
    trimStart_cons_of_visible (by decide) more
  -- The type ends at a blank. If this is the one behind the word, an equality sign stands where the
  -- name should; beyond it the sign would be in the type; and within the word there is no blank.
  rcases List.append_eq_append_iff.mp whole with ⟨front, rfl, form⟩ | ⟨front, rfl, form⟩
  · cases front with
    | nil =>
        obtain ⟨-, rfl⟩ := List.cons.inj form
        exact noName equalityStarts
    | cons first front =>
        obtain ⟨-, form⟩ := List.cons.inj form
        cases front with
        | nil =>
            obtain ⟨rfl, -⟩ := List.cons.inj form
            cases blank
        | cons second front =>
            obtain ⟨rfl, -⟩ := List.cons.inj form
            exact noEquality (by simp)
  · cases front with
    | nil =>
        obtain ⟨-, rfl⟩ := List.cons.inj form
        exact noName equalityStarts
    | cons first front =>
        obtain ⟨rfl, -⟩ := List.cons.inj form
        rw [visible c (by simp)] at blank
        cases blank

/-- A line is as silent at a margin as without it. -/
theorem Silent.append_left {line blanks : List Char} (silent : Silent line)
    (blank : Blanks blanks) : Silent (blanks ++ line) where
  noType := by
    rw [declaredType?, findSome?_starts_append_left unbiased_typeName? blank]
    exact silent.noType
  noMember := by
    unfold lineMembers field? property?
    rw [findSome?_starts_append_left (unbiased_typeAnd endsFreely_fieldTail?) blank,
      findSome?_starts_append_left (unbiased_typeAnd endsFreely_propertyTail?) blank]
    exact silent.noMember

/-- What it takes for a place in a line not to start a declaration. -/
structure Mute (place : List Char) : Prop where
  noKeyword : afterWord? typeKeywords place = none
  noField : typeAnd fieldTail? place = none
  noProperty : typeAnd propertyTail? place = none

theorem silent_of_reads {line : List Char} (noType : (starts line).findSome? typeName? = none)
    (noField : (starts line).findSome? (typeAnd fieldTail?) = none)
    (noProperty : (starts line).findSome? (typeAnd propertyTail?) = none) : Silent line where
  noType := noType
  noMember := by
    unfold lineMembers field? property?
    rw [noField, noProperty]
    rfl

theorem Mute.typeName? {place : List Char} (mute : Mute place) : typeName? place = none := by
  rw [typeName?_eq, mute.noKeyword, Option.bind_none]

theorem silent_of_plain {line : List Char} (start : trimStart line = line)
    (noAttribute : afterAttribute? line = none)
    (noModifier : afterWord? modifierWords line = none) (mute : Mute line) : Silent line := by
  refine silent_of_reads ?_ ?_ ?_
  · rw [findSome?_starts_of_plain unbiased_typeName? start noAttribute noModifier, mute.typeName?]
  · rw [findSome?_starts_of_plain (unbiased_typeAnd endsFreely_fieldTail?) start noAttribute
      noModifier, mute.noField]
  · rw [findSome?_starts_of_plain (unbiased_typeAnd endsFreely_propertyTail?) start noAttribute
      noModifier, mute.noProperty]

theorem silent_of_modifier {line rest : List Char} (start : trimStart line = line)
    (noAttribute : afterAttribute? line = none)
    (modifier : afterWord? modifierWords line = some rest)
    (noOther : afterWord? modifierWords (trimStart rest) = none) (mute : Mute line)
    (muteBehind : Mute (trimStart rest)) : Silent line := by
  refine silent_of_reads ?_ ?_ ?_
  · rw [findSome?_starts_of_modifier unbiased_typeName? start noAttribute modifier noOther,
      muteBehind.typeName?, mute.typeName?, Option.none_or]
  · rw [findSome?_starts_of_modifier (unbiased_typeAnd endsFreely_fieldTail?) start noAttribute
      modifier noOther, muteBehind.noField, mute.noField, Option.none_or]
  · rw [findSome?_starts_of_modifier (unbiased_typeAnd endsFreely_propertyTail?) start noAttribute
      modifier noOther, muteBehind.noProperty, mute.noProperty, Option.none_or]

theorem afterAttribute?_of_head {text : List Char} (other : text.head? ≠ some '[') :
    afterAttribute? text = none := by
  cases text with
  | nil => rfl
  | cons c rest =>
      have apart : c ≠ '[' := by simpa using other
      simp [afterAttribute?, apart]

theorem firstWord_append {word : List Char} (visible : ∀ c ∈ word, isBlank c = false)
    (rest : List Char) : (firstWord (word ++ rest)).1 = word ++ (firstWord rest).1 :=
  List.takeWhile_append_of_pos fun c member => by rw [visible c member, Bool.not_false]

theorem trimStart_of_head {c : Char} {text : List Char} (first : text.head? = some c)
    (visible : isBlank c = false) : trimStart text = text := by
  obtain ⟨rest, rfl⟩ := List.head?_eq_some_iff.mp first
  exact trimStart_cons_of_visible visible rest

/-- Words that mean something in front of a declaration. -/
def knownWords : List (List Char) := modifierWords ++ typeKeywords

/-- An assignment is silent if its left side is one word that is not known. -/
theorem silent_assignment {word : List Char} {mark : Char}
    (visible : ∀ c ∈ word, isBlank c = false) (inWord : mark ∈ word)
    (apart : ∀ known ∈ knownWords, mark ∉ known) (noBracket : word.head? ≠ some '[')
    (more : List Char) : Silent (word ++ ' ' :: '=' :: more) := by
  obtain ⟨c, rest, rfl⟩ := List.exists_cons_of_ne_nil (List.ne_nil_of_mem inWord)
  have inFirst : mark ∈ (firstWord (c :: rest ++ ' ' :: '=' :: more)).1 := by
    rw [firstWord_append visible]
    exact List.mem_append_left _ inWord
  have unknown (known : List (List Char)) (some : ∀ word ∈ known, word ∈ knownWords) :
      afterWord? known (c :: rest ++ ' ' :: '=' :: more) = none :=
    afterWord?_of_mem inFirst fun word member => apart word (some word member)
  refine silent_of_plain ?_ ?_ (unknown modifierWords fun _ => List.mem_append_left _)
    ⟨unknown typeKeywords fun _ => List.mem_append_right _,
      typeAnd_assignment namesBefore_fieldTail? visible more,
      typeAnd_assignment namesBefore_propertyTail? visible more⟩
  · exact trimStart_cons_of_visible (visible c List.mem_cons_self) _
  · exact afterAttribute?_of_head noBracket

/-- The first line of a constructor is silent: what follows the name of the type is no word. -/
theorem silent_header {name rest : List Char} (visible : ∀ c ∈ name, isBlank c = false)
    (noSemicolon : ';' ∉ name ++ '(' :: rest) (noBrace : '\x7b' ∉ name ++ '(' :: rest) :
    Silent ("public ".toList ++ (name ++ '(' :: rest)) := by
  have inFirst : '(' ∈ (firstWord (name ++ '(' :: rest)).1 := by
    rw [firstWord_append visible]
    simp [firstWord, show isBlank '(' = false by decide]
  have start : trimStart (' ' :: (name ++ '(' :: rest)) = name ++ '(' :: rest := by
    rw [trimStart_cons_of_blank (by decide)]
    cases name with
    | nil => exact trimStart_cons_of_visible (by decide) rest
    | cons c more => exact trimStart_cons_of_visible (visible c List.mem_cons_self) _
  have modifier : afterWord? modifierWords ("public ".toList ++ (name ++ '(' :: rest)) =
      some (' ' :: (name ++ '(' :: rest)) := by rfl
  have keyword : afterWord? typeKeywords ("public ".toList ++ (name ++ '(' :: rest)) = none := by
    rfl
  have missing {mark : Char} (absent : mark ∉ name ++ '(' :: rest)
      (other : mark ∉ "public ".toList) : mark ∉ "public ".toList ++ (name ++ '(' :: rest) :=
    fun member => (List.mem_append.mp member).elim other absent
  have first : ("public ".toList ++ (name ++ '(' :: rest)).head? = some 'p' := rfl
  have noBracket : ("public ".toList ++ (name ++ '(' :: rest)).head? ≠ some '[' := by
    rw [first]
    decide
  refine silent_of_modifier (trimStart_of_head first (by decide))
    (afterAttribute?_of_head noBracket) modifier ?_ ⟨keyword, ?_, ?_⟩ ?_
  · rw [start]
    exact afterWord?_of_mem inFirst (by decide)
  · exact typeAnd_of_notMem namesBefore_fieldTail? (missing noSemicolon (by decide))
  · exact typeAnd_of_notMem namesBefore_propertyTail? (missing noBrace (by decide))
  · rw [start]
    exact ⟨afterWord?_of_mem inFirst (by decide),
      typeAnd_of_notMem namesBefore_fieldTail? noSemicolon,
      typeAnd_of_notMem namesBefore_propertyTail? noBrace⟩

theorem silent_nil : Silent [] := ⟨by decide +kernel, by decide +kernel⟩

theorem silent_opening_brace : Silent ['\x7b'] := ⟨by decide +kernel, by decide +kernel⟩

theorem silent_closing_brace : Silent ['\x7d'] := ⟨by decide +kernel, by decide +kernel⟩

end ConstructorAction.Source
