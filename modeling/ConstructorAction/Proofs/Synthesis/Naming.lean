import ConstructorAction.Proofs.Text.Case
import ConstructorAction.Synthesis.Naming

namespace ConstructorAction.Synthesis

open ConstructorAction.Text

/-!
How the name of a parameter begins, and which characters it cannot bring in. Of a name in ASCII only
the first character behind an underscore changes, to lower case (`parameterName_of_asciiName`).
-/

/-- The first character is written in one of its two cases. -/
theorem joinWords_start {c : Char} (word : isWordChar c = true) (rest : List Char) :
    joinWords none false (c :: rest) =
      (if isNameChar c then lowerCase c else upperCase c) ++ joinWords (some c) true rest := by
  have visible := isBlank_of_isWordChar word
  cases nameChar : isNameChar c <;> simp [joinWords, visible, nameChar]

theorem head?_joinWords_ne_underscore {c : Char} {rest : List Char} (word : isWordChar c = true)
    (apart : c ≠ '_') : (joinWords none false (c :: rest)).head? ≠ some '_' := by
  have start : ∃ first more,
      (if isNameChar c then lowerCase c else upperCase c) = first :: more ∧ first ≠ '_' := by
    split
    · exact lowerCase_start apart
    · exact upperCase_start apart
  obtain ⟨first, more, form, differ⟩ := start
  rw [joinWords_start word, form]
  exact fun same => differ (Option.some.inj same)

theorem withoutUnderscore_of_ne {c : Char} (apart : c ≠ '_') (rest : List Char) :
    withoutUnderscore (c :: rest) = c :: rest := by
  unfold withoutUnderscore
  split
  · next same => exact absurd (List.cons.inj same).1 apart
  · rfl

/-- Of identifiers only those with two underscores keep one in the name of the parameter. -/
theorem underscores_of_head?_parameterName {name : List Char}
    (identifier : isIdentifier name = true)
    (underscore : (parameterName name).head? = some '_') : ∃ rest, name = '_' :: '_' :: rest := by
  cases name with
  | nil => cases identifier
  | cons c rest =>
      obtain ⟨start, words⟩ := Bool.and_eq_true_iff.mp identifier
      by_cases first : c = '_'
      · subst first
        rw [parameterName_underscore] at underscore
        cases rest with
        | nil => cases underscore
        | cons second rest =>
            have word := List.all_eq_true.mp words second List.mem_cons_self
            by_cases twice : second = '_'
            · exact ⟨rest, by rw [twice]⟩
            · exact absurd underscore (head?_joinWords_ne_underscore word twice)
      · rw [parameterName, withoutUnderscore_of_ne first] at underscore
        exact absurd underscore
          (head?_joinWords_ne_underscore (isWordChar_of_isNameStart start) first)

/-- A name is written in the cases of its own characters. -/
theorem exists_of_mem_joinWords {previous : Option Char} {begun : Bool} {name : List Char}
    {d : Char} (member : d ∈ joinWords previous begun name) :
    ∃ c ∈ name, d = c ∨ d ∈ lowerCase c ∨ d ∈ upperCase c := by
  induction name generalizing previous begun with
  | nil => cases member
  | cons c rest ih =>
      have later {previous : Option Char} {begun : Bool}
          (inRest : d ∈ joinWords previous begun rest) :
          ∃ other ∈ c :: rest, d = other ∨ d ∈ lowerCase other ∨ d ∈ upperCase other := by
        obtain ⟨other, inside, made⟩ := ih inRest
        exact ⟨other, List.mem_cons_of_mem c inside, made⟩
      unfold joinWords at member
      split at member
      · exact later member
      · extract_lets startsWord form at member
        rcases List.mem_append.mp member with written | inRest
        · refine ⟨c, List.mem_cons_self, ?_⟩
          unfold form at written
          split at written
          · exact .inr (.inl written)
          · cases starts : startsWord with
            | true => exact .inr (.inr (by simpa [starts] using written))
            | false => exact .inl (by simpa [starts] using written)
        · exact later inRest

theorem mem_of_mem_withoutUnderscore {c : Char} {name : List Char}
    (member : c ∈ withoutUnderscore name) : c ∈ name := by
  unfold withoutUnderscore at member
  split at member
  · exact List.mem_cons_of_mem _ member
  · exact member

theorem notMem_parameterName {name : List Char} {mark : Char}
    (punctuation : isPunctuation mark = true) (free : mark ∉ name) : mark ∉ parameterName name := by
  intro member
  obtain ⟨c, inside, made⟩ := exists_of_mem_joinWords member
  have inName := mem_of_mem_withoutUnderscore inside
  rcases made with rfl | lower | upper
  · exact free inName
  · exact free (lowerCase_punctuation punctuation lower ▸ inName)
  · exact free (upperCase_punctuation punctuation upper ▸ inName)

theorem visible_of_mem_joinWords {previous : Option Char} {begun : Bool} {name : List Char}
    {d : Char} (member : d ∈ joinWords previous begun name) : isBlank d = false := by
  induction name generalizing previous begun with
  | nil => cases member
  | cons c rest ih =>
      unfold joinWords at member
      split at member
      · exact ih member
      · next visible =>
          rw [Bool.not_eq_true] at visible
          extract_lets startsWord form at member
          rcases List.mem_append.mp member with written | inRest
          · unfold form at written
            split at written
            · exact lowerCase_visible visible written
            · split at written
              · exact upperCase_visible visible written
              · rwa [List.mem_singleton.mp written]
          · exact ih inRest

/-- Words written together with capitals raised wherever they stand. -/
def joinRaised (capital : Char → Bool) (previous : Option Char) (begun : Bool) :
    List Char → List Char
  | [] => []
  | c :: rest =>
      if isBlank c then joinRaised capital (some c) begun rest
      else
        let startsWord := match previous with
          | none => true
          | some p => !isNameChar p && isNameChar c
        let written :=
          if !begun && isNameChar c then lowerCase c
          else if startsWord || capital c then upperCase c
          else [c]
        written ++ joinRaised capital (some c) true rest

/-- Capitals are their own upper-case forms, so that it is enough to keep them. -/
theorem joinRaised_eq_joinWords {capital : Char → Bool}
    (own : ∀ c, capital c = true → upperCase c = [c]) (previous : Option Char) (begun : Bool)
    (name : List Char) :
    joinRaised capital previous begun name = joinWords previous begun name := by
  induction name generalizing previous begun with
  | nil => rfl
  | cons c rest ih =>
      unfold joinRaised joinWords
      cases raised : capital c with
      | false => cases previous <;> simp only [ih, Bool.or_false]
      | true => simp only [ih, Bool.or_true, own c raised, ite_self]

def isAsciiNameChar (c : Char) : Bool := c.isAlphanum || c == '_'

def isAsciiIdentifier : List Char → Bool
  | [] => false
  | c :: rest => (c.isAlpha || c == '_') && rest.all isAsciiNameChar

def lowerFirst : List Char → List Char
  | [] => []
  | c :: rest => c.toLower :: rest

/-- Whether two names differ in the case of their first characters at most. -/
def SameButFirstCase : List Char → List Char → Prop
  | [], [] => True
  | c :: rest, d :: more => c.toLower = d.toLower ∧ rest = more
  | _, _ => False

theorem toNat_lt_of_isAsciiNameChar {c : Char} (nameChar : isAsciiNameChar c = true) :
    c.toNat < 128 := by
  cases start : isNameStart c with
  | true => exact toNat_lt_of_isNameStart start
  | false =>
      have digit : c.isDigit = true := by
        simp only [isNameStart, Bool.or_eq_false_iff] at start
        simpa [isAsciiNameChar, Char.isAlphanum, start.1, start.2] using nameChar
      have upper := (Bool.and_eq_true_iff.mp digit).2
      exact Nat.lt_of_le_of_lt (UInt32.le_iff_toNat_le.mp (of_decide_eq_true upper)) (by decide)

/-- What holds of the name characters by a look at all codes of ASCII. -/
theorem forall_isAsciiNameChar {P : Char → Prop}
    (codes : ∀ code < 128, isAsciiNameChar (Char.ofNat code) = true → P (Char.ofNat code))
    {c : Char} (nameChar : isAsciiNameChar c = true) : P c := by
  have found := codes c.toNat (toNat_lt_of_isAsciiNameChar nameChar)
  rw [Char.ofNat_toNat] at found
  exact found nameChar

theorem isNameChar_of_isAsciiNameChar {c : Char} (nameChar : isAsciiNameChar c = true) :
    isNameChar c = true ∧ isBlank c = false :=
  forall_isAsciiNameChar (P := fun c => isNameChar c = true ∧ isBlank c = false)
    (by decide +kernel) nameChar

theorem toLower_of_isAsciiNameChar {c : Char} (nameChar : isAsciiNameChar c = true) :
    isAsciiNameChar c.toLower = true ∧ c.toLower.toLower = c.toLower :=
  forall_isAsciiNameChar
    (P := fun c => isAsciiNameChar c.toLower = true ∧ c.toLower.toLower = c.toLower)
    (by decide +kernel) nameChar

theorem of_isLower {c : Char} (nameChar : isAsciiNameChar c = true) (lower : c.isLower = true) :
    c.toLower = c ∧ c ≠ '_' :=
  forall_isAsciiNameChar (P := fun c => c.isLower = true → c.toLower = c ∧ c ≠ '_')
    (by decide +kernel) nameChar lower

theorem upperCase_of_isUpper {c : Char} (upper : c.isUpper = true) : upperCase c = [c] := by
  have letter : c.isAlpha = true := Bool.or_eq_true_iff.mpr (.inl upper)
  have nameChar : isAsciiNameChar c = true := by simp [isAsciiNameChar, Char.isAlphanum, letter]
  have same : c.toUpper = c :=
    forall_isAsciiNameChar (P := fun c => c.isUpper = true → c.toUpper = c) (by decide +kernel)
      nameChar upper
  rw [upperCase_ascii (toNat_lt_of_isAsciiNameChar nameChar), same]

theorem forall_of_isAsciiIdentifier {name : List Char}
    (identifier : isAsciiIdentifier name = true) : ∀ c ∈ name, isAsciiNameChar c = true := by
  cases name with
  | nil => simp
  | cons c rest =>
      simp only [isAsciiIdentifier, Bool.and_eq_true, List.all_eq_true] at identifier
      refine List.forall_mem_cons.mpr ⟨?_, identifier.2⟩
      rcases Bool.or_eq_true_iff.mp identifier.1 with letter | underscore
      · simp [isAsciiNameChar, Char.isAlphanum, letter]
      · simp [isAsciiNameChar, underscore]

theorem joinWords_begun {p : Char} {rest : List Char} (word : isNameChar p = true)
    (names : ∀ c ∈ rest, isNameChar c = true ∧ isBlank c = false) :
    joinWords (some p) true rest = rest := by
  induction rest generalizing p with
  | nil => rfl
  | cons c rest ih =>
      obtain ⟨⟨nameChar, visible⟩, later⟩ := List.forall_mem_cons.mp names
      simp [joinWords, visible, word, ih nameChar later]

theorem joinWords_of_names {name : List Char} (names : ∀ c ∈ name, isAsciiNameChar c = true) :
    joinWords none false name = lowerFirst name := by
  cases name with
  | nil => rfl
  | cons c rest =>
      obtain ⟨first, later⟩ := List.forall_mem_cons.mp names
      obtain ⟨nameChar, visible⟩ := isNameChar_of_isAsciiNameChar first
      have kept := joinWords_begun nameChar
        fun d member => isNameChar_of_isAsciiNameChar (later d member)
      simp [joinWords, visible, nameChar, kept, lowerFirst,
        lowerCase_ascii (toNat_lt_of_isAsciiNameChar first)]

theorem parameterName_of_asciiName {name : List Char}
    (names : ∀ c ∈ name, isAsciiNameChar c = true) :
    parameterName name = lowerFirst (withoutUnderscore name) :=
  joinWords_of_names fun c member => names c (mem_of_mem_withoutUnderscore member)

theorem withoutUnderscore_of_head? {name : List Char} (apart : name.head? ≠ some '_') :
    withoutUnderscore name = name := by
  cases name with
  | nil => rfl
  | cons c rest => exact withoutUnderscore_of_ne (by simpa using apart) rest

theorem forall_mem_lowerFirst {name : List Char} (names : ∀ c ∈ name, isAsciiNameChar c = true) :
    ∀ c ∈ lowerFirst name, isAsciiNameChar c = true := by
  cases name with
  | nil => exact names
  | cons c rest =>
      obtain ⟨first, later⟩ := List.forall_mem_cons.mp names
      exact List.forall_mem_cons.mpr ⟨(toLower_of_isAsciiNameChar first).1, later⟩

theorem lowerFirst_lowerFirst {name : List Char} (names : ∀ c ∈ name, isAsciiNameChar c = true) :
    lowerFirst (lowerFirst name) = lowerFirst name := by
  cases name with
  | nil => rfl
  | cons c rest =>
      obtain ⟨-, twice⟩ := toLower_of_isAsciiNameChar (names c List.mem_cons_self)
      simp [lowerFirst, twice]

theorem lowerFirst_eq_lowerFirst_iff {name other : List Char} :
    lowerFirst name = lowerFirst other ↔ SameButFirstCase name other := by
  cases name <;> cases other <;> simp [lowerFirst, SameButFirstCase]

/-- A name that needs no change. -/
theorem parameterName_of_lowerCamel {name : List Char}
    (names : ∀ c ∈ name, isAsciiNameChar c = true) (lower : name.head?.any Char.isLower = true) :
    parameterName name = name := by
  cases name with
  | nil => rfl
  | cons c rest =>
      obtain ⟨same, apart⟩ := of_isLower (names c List.mem_cons_self) lower
      rw [parameterName_of_asciiName names, withoutUnderscore_of_ne apart, lowerFirst, same]

theorem parameterName_parameterName {name : List Char}
    (names : ∀ c ∈ name, isAsciiNameChar c = true)
    (apart : (parameterName name).head? ≠ some '_') :
    parameterName (parameterName name) = parameterName name := by
  have inner : ∀ c ∈ withoutUnderscore name, isAsciiNameChar c = true :=
    fun c member => names c (mem_of_mem_withoutUnderscore member)
  rw [parameterName_of_asciiName names] at apart ⊢
  rw [parameterName_of_asciiName (forall_mem_lowerFirst inner), withoutUnderscore_of_head? apart,
    lowerFirst_lowerFirst inner]

/-- An identifier in ASCII loses one underscore and the case of its first character, and nothing
else. No name brings blanks into that of its parameter, and raising capitals makes no difference. -/
theorem parameterName_folds :
    (∀ name, isAsciiIdentifier name = true →
      parameterName name = lowerFirst (withoutUnderscore name) ∧
        (name.head?.any Char.isLower = true → parameterName name = name) ∧
        ((parameterName name).head? ≠ some '_' →
          parameterName (parameterName name) = parameterName name)) ∧
      (∀ name other, isAsciiIdentifier name = true → isAsciiIdentifier other = true →
        (parameterName name = parameterName other ↔
          SameButFirstCase (withoutUnderscore name) (withoutUnderscore other))) ∧
      (∀ name, ∀ c ∈ parameterName name, isBlank c = false) ∧
      ∀ capital : Char → Bool, (∀ c, capital c = true → upperCase c = [c]) →
        ∀ name, joinRaised capital none false (withoutUnderscore name) = parameterName name := by
  refine ⟨fun name identifier => ?_, fun name other identifier otherIdentifier => ?_,
    fun name c => visible_of_mem_joinWords, fun capital own name =>
      joinRaised_eq_joinWords own none false (withoutUnderscore name)⟩
  · have names := forall_of_isAsciiIdentifier identifier
    exact ⟨parameterName_of_asciiName names, parameterName_of_lowerCamel names,
      parameterName_parameterName names⟩
  · rw [parameterName_of_asciiName (forall_of_isAsciiIdentifier identifier),
      parameterName_of_asciiName (forall_of_isAsciiIdentifier otherIdentifier),
      lowerFirst_eq_lowerFirst_iff]

/-- A field and a property with one name for the parameter. -/
theorem parameterName_folds_of_first_name :
    let field := "_firstName".toList
    let property := "FirstName".toList
    (isAsciiIdentifier field = true ∧ isAsciiIdentifier property = true) ∧
      parameterName field = "firstName".toList ∧ parameterName property = parameterName field ∧
        parameterName (parameterName field) = parameterName field ∧
          joinRaised Char.isUpper none false property = parameterName property := by
  intro field property
  have identifiers : isAsciiIdentifier field = true ∧ isAsciiIdentifier property = true := by
    decide +kernel
  obtain ⟨folds, agree, -, raised⟩ := parameterName_folds
  obtain ⟨form, -, again⟩ := folds field identifiers.1
  have shown : parameterName field = "firstName".toList := form.trans (by decide +kernel)
  have same := (agree property field identifiers.2 identifiers.1).mpr ⟨by decide, by decide +kernel⟩
  refine ⟨identifiers, shown, same, again (by rw [shown]; decide +kernel),
    raised Char.isUpper (fun _ => upperCase_of_isUpper) property⟩

end ConstructorAction.Synthesis
