import ConstructorAction.Proofs.Text.Blank
import ConstructorAction.Proofs.Text.Case
import ConstructorAction.Source.Scope

namespace ConstructorAction.Source

open ConstructorAction.Text

/-!
The line rules do not look at the blanks around a line (`lineMembers_trim`, `declaredType?_trim`).
Each step of a reader is followed for texts with blanks behind them (`EndsFreely`), and each place
where a declaration may start for texts with blanks around them (`Unbiased`).
-/

/-- Blanks as a line may have them. -/
def LineBlanks (blanks : List Char) : Prop := Blanks blanks ∧ '\n' ∉ blanks

variable {α : Type}

theorem LineBlanks.tail {c : Char} {blanks : List Char} (all : LineBlanks (c :: blanks)) :
    LineBlanks blanks :=
  ⟨all.1.tail, fun member => all.2 (List.mem_cons_of_mem c member)⟩

theorem isWordChar_of_isBlank {c : Char} (blank : isBlank c = true) : isWordChar c = false := by
  cases word : isWordChar c with
  | false => rfl
  | true =>
      rw [isBlank_of_isWordChar word] at blank
      cases blank

/-- A reader that reads the same with and without blanks behind the text. -/
def EndsFreely (read : List Char → Option α) : Prop :=
  ∀ text blanks, LineBlanks blanks → read (text ++ blanks) = read text

namespace EndsFreely

variable {read : List Char → Option α}

theorem read_blanks (ends : EndsFreely read) (none : read [] = none) {blanks : List Char}
    (blank : LineBlanks blanks) : read blanks = Option.none :=
  (ends [] blanks blank).trans none

theorem trimStart (ends : EndsFreely read) :
    EndsFreely fun text => read (Text.trimStart text) := by
  intro text blanks blank
  dsimp only
  rcases trimStart_append_right blank.1 text with ⟨present, kept⟩ | ⟨empty, gone⟩
  · rw [kept, ends _ _ blank]
  · rw [gone, empty]

theorem afterBlanks (ends : EndsFreely read)
    (none : read [] = none) : EndsFreely fun text => (afterBlanks? text).bind read := by
  intro text blanks blank
  cases text with
  | nil =>
      cases blanks with
      | nil => rfl
      | cons b later =>
          simp [afterBlanks?, blank.1.head, trimStart_of_blanks blank.1.tail, none]
  | cons c rest =>
      have rest' := ends.trimStart rest blanks blank
      cases first : isBlank c <;> simp [afterBlanks?, first, rest']

theorem identifier {read : List Char × List Char → Option α}
    (ends : ∀ name, EndsFreely fun rest => read (name, rest)) :
    EndsFreely fun text => (identifier? text).bind read := by
  intro text blanks blank
  cases text with
  | nil =>
      cases blanks with
      | nil => rfl
      | cons b later =>
          have noName : isNameStart b = false := by
            cases start : isNameStart b with
            | false => rfl
            | true =>
                have word := isWordChar_of_isNameStart start
                rw [isWordChar_of_isBlank blank.1.head] at word
                cases word
          simp [identifier?, noName]
  | cons c rest =>
      have stops (c : Char) (blank : isBlank c = true) := isWordChar_of_isBlank blank
      have rest' := ends (c :: rest.takeWhile isWordChar) (rest.dropWhile isWordChar) blanks blank
      cases start : isNameStart c with
      | false => simp [identifier?, start]
      | true =>
          simp only [List.cons_append, identifier?, start, if_true, Option.bind_some,
            dropWhile_append_blanks blank.1 stops, takeWhile_append_blanks blank.1 stops]
          exact rest'

theorem afterMark (ends : EndsFreely read) (mark : Char) :
    EndsFreely fun text => (afterMark? mark text).bind read := by
  intro text blanks blank
  dsimp only [afterMark?]
  rcases trimStart_append_right blank.1 text with ⟨present, kept⟩ | ⟨empty, gone⟩
  · rw [kept]
    obtain ⟨c, rest, start⟩ := List.exists_cons_of_ne_nil present
    rw [start, List.cons_append]
    by_cases same : c = mark <;> simp [same, ends rest blanks blank]
  · rw [gone, empty]

/-- Blanks behind a word only count if nothing else is behind it. -/
theorem afterWord?_append {blanks : List Char} (blank : Blanks blanks) (known : List (List Char))
    (text : List Char) :
    afterWord? known (text ++ blanks) = (afterWord? known text).map (· ++ blanks) ∨
      text ∈ known ∧ afterWord? known text = none ∧
        afterWord? known (text ++ blanks) = some blanks := by
  have stops (c : Char) (isB : isBlank c = true) : (!isBlank c) = false := by rw [isB]; rfl
  have word := takeWhile_append_blanks blank stops text
  have rest := dropWhile_append_blanks blank stops text
  have whole := List.takeWhile_append_dropWhile (p := fun c => !isBlank c) (l := text)
  unfold afterWord? firstWord
  dsimp only
  rw [word, rest]
  generalize text.takeWhile (fun c => !isBlank c) = first at whole
  generalize text.dropWhile (fun c => !isBlank c) = more at whole
  subst whole
  cases more with
  | nil => cases blanks <;> by_cases member : first ∈ known <;> simp [member]
  | cons c later => by_cases member : first ∈ known <;> simp [member]

theorem afterWord (ends : EndsFreely read) (none : read [] = none) (known : List (List Char)) :
    EndsFreely fun text => (afterWord? known text).bind read := by
  intro text blanks blank
  dsimp only
  rcases afterWord?_append blank.1 known text with kept | ⟨-, before, behind⟩
  · rw [kept]
    cases afterWord? known text with
    | none => rfl
    | some rest => simpa using ends rest blanks blank
  · rw [before, behind]
    exact ends.read_blanks none blank

end EndsFreely

def fieldEnd? (name rest : List Char) : Option (List Char) :=
  match trimStart rest with
  | [] => some name
  | '/' :: '/' :: comment => if comment.contains '\n' then none else some name
  | _ => none

theorem fieldTail?_eq (text : List Char) :
    fieldTail? text = (afterBlanks? text).bind fun rest =>
      (identifier? rest).bind fun found => (afterMark? ';' found.2).bind (fieldEnd? found.1) :=
  rfl

theorem endsFreely_fieldEnd? (name : List Char) : EndsFreely (fieldEnd? name) := by
  intro text blanks blank
  unfold fieldEnd?
  rcases trimStart_append_right blank.1 text with ⟨present, kept⟩ | ⟨empty, gone⟩
  · obtain ⟨c, rest, start⟩ := List.exists_cons_of_ne_nil present
    rw [kept, start]
    cases rest with
    | nil =>
        cases blanks with
        | nil => rfl
        | cons b later =>
            have noSlash : b ≠ '/' := isBlank_ne blank.1.head (by decide)
            by_cases slash : c = '/' <;> simp [slash, noSlash]
    | cons d more =>
        by_cases slash : c = '/' <;> by_cases second : d = '/' <;>
          simp [slash, second, blank.2]
  · rw [gone, empty]

theorem endsFreely_fieldTail? : EndsFreely fieldTail? := by
  have marked (name : List Char) := (endsFreely_fieldEnd? name).afterMark ';'
  have named : EndsFreely fun text => (identifier? text).bind fun found =>
      (afterMark? ';' found.2).bind (fieldEnd? found.1) := EndsFreely.identifier marked
  exact named.afterBlanks rfl

def propertyEnd? (name body : List Char) : Option (List Char × Bool) :=
  match body.dropWhile fun c => c != '\x7b' && c != '\x7d' with
  | '\x7d' :: after => some (name, (trimStart after).head? == some '=')
  | _ => none

theorem propertyTail?_eq (text : List Char) :
    propertyTail? text = (afterBlanks? text).bind fun rest =>
      (identifier? rest).bind fun found => (afterMark? '\x7b' found.2).bind fun inner =>
        (afterGet? (trimStart inner)).bind fun getter =>
          (afterMark? ';' getter).bind (propertyEnd? found.1) :=
  rfl

theorem endsFreely_propertyEnd? (name : List Char) : EndsFreely (propertyEnd? name) := by
  intro text blanks blank
  have passed : ∀ c ∈ blanks, (c != '\x7b' && c != '\x7d') = true := fun c member => by
    have opening : c ≠ '\x7b' := isBlank_ne (blank.1 c member) (by decide)
    have closing : c ≠ '\x7d' := isBlank_ne (blank.1 c member) (by decide)
    simp [opening, closing]
  unfold propertyEnd?
  rw [List.dropWhile_append]
  cases body : text.dropWhile fun c => c != '\x7b' && c != '\x7d' with
  | nil => rw [List.isEmpty_nil, if_pos rfl, List.dropWhile_eq_nil_iff.mpr passed]
  | cons c after =>
      have start : (trimStart (after ++ blanks)).head? = (trimStart after).head? := by
        rcases trimStart_append_right blank.1 after with ⟨present, kept⟩ | ⟨empty, gone⟩
        · rw [kept, List.head?_append, List.head?_eq_some_head present, Option.some_or]
        · rw [gone, empty]
      by_cases closing : c = '\x7d' <;> simp [closing, start]

/-- What follows the word `get` where it stands. -/
def getIn? : List Char → Option (List Char)
  | 'g' :: 'e' :: 't' :: rest => some rest
  | _ => none

theorem afterGet?_eq (text : List Char) :
    afterGet? text = match afterWord? accessWords text with
      | some rest => getIn? (trimStart rest)
      | none => getIn? text := by
  unfold afterGet? getIn?
  cases afterWord? accessWords text <;> rfl

theorem EndsFreely.getIn {read : List Char → Option α} (ends : EndsFreely read) :
    EndsFreely fun text => (getIn? text).bind read := by
  intro text blanks blank
  dsimp only
  rcases text with _ | ⟨a, _ | ⟨b, _ | ⟨c, rest⟩⟩⟩
  · cases blanks with
    | nil => rfl
    | cons d later => simp [getIn?, isBlank_ne blank.1.head (show isBlank 'g' = false by decide)]
  · cases blanks with
    | nil => rfl
    | cons d later => simp [getIn?, isBlank_ne blank.1.head (show isBlank 'e' = false by decide)]
  · cases blanks with
    | nil => rfl
    | cons d later => simp [getIn?, isBlank_ne blank.1.head (show isBlank 't' = false by decide)]
  · have found := ends rest blanks blank
    by_cases g : a = 'g' <;> by_cases e : b = 'e' <;> by_cases t : c = 't' <;>
      simp [getIn?, g, e, t, found]

theorem EndsFreely.afterGet {read : List Char → Option α} (ends : EndsFreely read) :
    EndsFreely fun text => (afterGet? text).bind read := by
  intro text blanks blank
  have noGet : ∀ word ∈ accessWords, getIn? word = none := by decide
  simp only [afterGet?_eq]
  rcases EndsFreely.afterWord?_append blank.1 accessWords text with kept | ⟨word, before, behind⟩
  · rw [kept]
    cases afterWord? accessWords text with
    | none => exact ends.getIn text blanks blank
    | some rest => exact ends.getIn.trimStart rest blanks blank
  · rw [before, behind]
    simp only [noGet text word, trimStart_of_blanks blank.1]
    rfl

theorem endsFreely_propertyTail? : EndsFreely propertyTail? := by
  have getter (name : List Char) :=
    (((endsFreely_propertyEnd? name).afterMark ';').afterGet.trimStart).afterMark '\x7b'
  have named : EndsFreely fun text => (identifier? text).bind fun found =>
      (afterMark? '\x7b' found.2).bind fun inner =>
        (afterGet? (Text.trimStart inner)).bind fun getter =>
          (afterMark? ';' getter).bind (propertyEnd? found.1) := EndsFreely.identifier getter
  exact named.afterBlanks rfl

/-- A reader that blanks on neither side of a text lead astray. -/
structure Unbiased (read : List Char → Option α) : Prop where
  nil : read [] = none
  front : ∀ {c : Char} {rest : List Char}, isBlank c = true → read rest = none →
    read (c :: rest) = none
  back : EndsFreely read

theorem Unbiased.append_left {read : List Char → Option α} (unbiased : Unbiased read)
    {blanks text : List Char} (blank : Blanks blanks) (none : read text = none) :
    read (blanks ++ text) = Option.none := by
  induction blanks with
  | nil => exact none
  | cons c later ih => exact unbiased.front blank.head (ih blank.tail)

theorem isTypeEnd_of_isBlank {c : Char} (blank : isBlank c = true) : isTypeEnd c = false := by
  have apart : ∀ other, isBlank other = false → (c == other) = false := fun other visible =>
    beq_eq_false_iff_ne.mpr (isBlank_ne blank visible)
  simp only [isTypeEnd, isWordChar_of_isBlank blank, apart '>' (by decide), apart '?' (by decide),
    apart ']' (by decide), Bool.or_self]

theorem typeAnd_cons_of_blank {c : Char} (blank : isBlank c = true)
    (tail : List Char → Option α) (rest : List Char) :
    typeAnd tail (c :: rest) = (typeAnd tail rest).map fun (type, found) => (c :: type, found) := by
  have inType : isTypeChar c = true := by simp [isTypeChar, blank]
  simp [typeAnd, isTypeEnd_of_isBlank blank, inType]

theorem unbiased_typeAnd {tail : List Char → Option α} (ends : EndsFreely tail) :
    Unbiased (typeAnd tail) where
  nil := rfl
  front blank none := by rw [typeAnd_cons_of_blank blank, none, Option.map_none]
  back := by
    intro text blanks blank
    induction text with
    | nil =>
        induction blanks with
        | nil => rfl
        | cons b later ih =>
            have rest : typeAnd tail later = none := ih blank.tail
            rw [List.nil_append, typeAnd_cons_of_blank blank.1.head, rest]
            rfl
    | cons c rest ih => simp only [List.cons_append, typeAnd, ih, ends rest blanks blank]

theorem nil_notMem_typeKeywords : [] ∉ typeKeywords := by decide

theorem afterWord?_cons_of_blank {known : List (List Char)} (word : [] ∉ known) {c : Char}
    (blank : isBlank c = true) (rest : List Char) : afterWord? known (c :: rest) = none := by
  simp [afterWord?, firstWord, blank, word]

theorem typeName?_eq (text : List Char) :
    typeName? text = (afterWord? typeKeywords text).bind fun rest =>
      (identifier? (trimStart rest)).bind fun found => some found.1 := by
  unfold typeName?
  cases afterWord? typeKeywords text with
  | none => rfl
  | some rest =>
      simp only [Option.bind_some]
      cases identifier? (trimStart rest) <;> rfl

theorem unbiased_typeName? : Unbiased typeName? where
  nil := by decide
  front blank _ := by
    rw [typeName?_eq, afterWord?_cons_of_blank nil_notMem_typeKeywords blank]
    rfl
  back := by
    have named : EndsFreely fun text => (identifier? text).bind fun found => some found.1 :=
      EndsFreely.identifier fun _ _ _ _ => rfl
    have keyed := named.trimStart.afterWord rfl typeKeywords
    intro text blanks blank
    rw [typeName?_eq, typeName?_eq]
    exact keyed text blanks blank

/-- Between the blanks in front of a text only blanks have been passed. -/
theorem exists_blanks_of_mem_insideBlanks {place text : List Char}
    (member : place ∈ insideBlanks text) : ∃ blanks, Blanks blanks ∧ text = blanks ++ place := by
  -- the places passed so far are in `longer`, and `before` is what has been read
  have inGo : ∀ rest before longer, Blanks before → text = before ++ rest →
      (∀ other ∈ longer, ∃ blanks, Blanks blanks ∧ text = blanks ++ other) →
      place ∈ insideBlanks.go longer rest → ∃ blanks, Blanks blanks ∧ text = blanks ++ place := by
    intro rest
    induction rest with
    | nil => exact fun before longer _ _ passed inLonger => passed place inLonger
    | cons c rest ih =>
        intro before longer blank whole passed inPlaces
        unfold insideBlanks.go at inPlaces
        split at inPlaces
        · next isB =>
            have longerBlank : Blanks (before ++ [c]) :=
              List.forall_mem_append.mpr ⟨blank, Blanks.cons isB .nil⟩
            refine ih (before ++ [c]) _ longerBlank (by simp [whole]) ?_ inPlaces
            exact List.forall_mem_cons.mpr ⟨⟨before, blank, whole⟩, passed⟩
        · exact passed place inPlaces
  exact inGo text [] [] .nil rfl (by simp) member

theorem mem_afterModifiers (text : List Char) : text ∈ afterModifiers text := by
  rw [afterModifiers]
  split <;> simp

theorem mem_afterAttributes (text : List Char) : text ∈ afterAttributes text := by
  rw [afterAttributes]
  split <;> simp

section Places

variable {read : List Char → Option α}

/-- Starting between the blanks finds nothing that starting behind them does not. -/
theorem findSome?_insideBlanks (unbiased : Unbiased read) {text : List Char}
    (none : read (trimStart text) = none) : (insideBlanks text).findSome? read = Option.none := by
  refine List.findSome?_eq_none_iff.mpr fun place member => ?_
  obtain ⟨front, passed, rfl⟩ := exists_blanks_of_mem_insideBlanks member
  obtain ⟨blanks, blank, same⟩ := exists_trimStart place
  rw [trimStart_append_left passed] at none
  rw [same]
  exact unbiased.append_left blank none

theorem trimStart_drop_of_afterWord? {known : List (List Char)} {text rest : List Char}
    (found : afterWord? known text = some rest) : trimStart (rest.drop 1) = trimStart rest := by
  simp only [afterWord?, Option.ite_none_right_eq_some, Option.some.injEq] at found
  obtain ⟨-, rfl⟩ := found
  unfold firstWord
  dsimp only
  cases stop : text.dropWhile (fun c => !isBlank c) with
  | nil => rfl
  | cons c more =>
      have first := List.head?_dropWhile_not (fun c => !isBlank c) text
      rw [stop] at first
      exact (trimStart_cons_of_blank (by simpa using first) more).symm

theorem findSome?_afterModifiers (unbiased : Unbiased read) (text : List Char) :
    (afterModifiers text).findSome? read = match afterWord? modifierWords text with
      | none => read text
      | some rest => ((afterModifiers (trimStart rest)).findSome? read).or (read text) := by
  rw [afterModifiers]
  split
  · next none => simp [none]
  · next rest found =>
      have inside : (afterModifiers (trimStart rest)).findSome? read = none →
          (insideBlanks (rest.drop 1)).findSome? read = none := by
        intro none
        refine findSome?_insideBlanks unbiased ?_
        rw [trimStart_drop_of_afterWord? found]
        exact List.findSome?_eq_none_iff.mp none _ (mem_afterModifiers _)
      simp only [List.findSome?_append, found]
      cases behind : (afterModifiers (trimStart rest)).findSome? read with
      | none =>
          rw [inside behind]
          simp
      | some result => simp

/-- A reader behind any modifiers is as little led astray as the reader itself. -/
theorem Unbiased.afterModifiers (unbiased : Unbiased read) :
    Unbiased fun text => (afterModifiers text).findSome? read where
  nil := by
    rw [findSome?_afterModifiers unbiased]
    exact unbiased.nil
  front {c rest} blank none := by
    rw [findSome?_afterModifiers unbiased, afterWord?_cons_of_blank nil_notMem_modifierWords blank]
    exact unbiased.front blank (List.findSome?_eq_none_iff.mp none _ (mem_afterModifiers rest))
  back := by
    intro text blanks blank
    have onlyBlanks : (Source.afterModifiers (trimStart blanks)).findSome? read = none := by
      rw [trimStart_of_blanks blank.1, findSome?_afterModifiers unbiased]
      exact unbiased.nil
    induction text using Source.afterModifiers.induct with
    | case1 text none =>
        simp only [findSome?_afterModifiers unbiased (text ++ blanks),
          findSome?_afterModifiers unbiased text, none]
        rcases EndsFreely.afterWord?_append blank.1 modifierWords text with kept | ⟨-, -, behind⟩
        · rw [kept, none]
          exact unbiased.back text blanks blank
        · rw [behind]
          simp only [onlyBlanks, Option.none_or]
          exact unbiased.back text blanks blank
    | case2 text rest found ih =>
        simp only [findSome?_afterModifiers unbiased (text ++ blanks),
          findSome?_afterModifiers unbiased text, found]
        rcases EndsFreely.afterWord?_append blank.1 modifierWords text with kept | ⟨-, none, -⟩
        · rw [kept, found, Option.map_some, unbiased.back text blanks blank]
          dsimp only
          rcases trimStart_append_right blank.1 rest with ⟨-, more⟩ | ⟨empty, gone⟩
          · rw [more]
            exact congrArg (fun result => result.or (read text)) ih
          · rw [gone, empty]
        · rw [found] at none
          cases none

theorem afterAttribute?_append {blanks : List Char} (blank : Blanks blanks) (text : List Char) :
    afterAttribute? (text ++ blanks) = (afterAttribute? text).map (· ++ blanks) := by
  have apart {other : Char} (visible : isBlank other = false) : ∀ c ∈ blanks, c ≠ other :=
    fun c member => isBlank_ne (blank c member) visible
  cases text with
  | nil =>
      cases blanks with
      | nil => rfl
      | cons b later =>
          have noBracket : b ≠ '[' := apart (by decide) b List.mem_cons_self
          simp [afterAttribute?, noBracket]
  | cons c rest =>
      by_cases bracket : c = '['
      · subst bracket
        have passed : blanks.dropWhile (· != ']') = [] :=
          List.dropWhile_eq_nil_iff.mpr fun c member => by simpa using apart (by decide) c member
        simp only [List.cons_append, afterAttribute?, List.dropWhile_append]
        cases stop : rest.dropWhile (· != ']') with
        | nil => simp [passed]
        | cons d after => by_cases closing : d = ']' <;> simp [closing]
      · simp [afterAttribute?, bracket]

theorem afterAttribute?_cons_of_blank {c : Char} (blank : isBlank c = true) (rest : List Char) :
    afterAttribute? (c :: rest) = none := by
  have noBracket : c ≠ '[' := isBlank_ne blank (by decide)
  simp [afterAttribute?, noBracket]

theorem findSome?_afterAttributes (unbiased : Unbiased read) (text : List Char) :
    (afterAttributes text).findSome? read = match afterAttribute? text with
      | none => read text
      | some rest => ((afterAttributes (trimStart rest)).findSome? read).or (read text) := by
  rw [afterAttributes]
  split
  · next none => simp [none]
  · next rest found =>
      have inside : (afterAttributes (trimStart rest)).findSome? read = none →
          (insideBlanks rest).findSome? read = none := fun none =>
        findSome?_insideBlanks unbiased
          (List.findSome?_eq_none_iff.mp none _ (mem_afterAttributes _))
      simp only [List.findSome?_append, found]
      cases behind : (afterAttributes (trimStart rest)).findSome? read with
      | none => simp [inside behind]
      | some result => simp

theorem Unbiased.afterAttributes (unbiased : Unbiased read) :
    Unbiased fun text => (afterAttributes text).findSome? read where
  nil := by
    rw [findSome?_afterAttributes unbiased]
    exact unbiased.nil
  front {c rest} blank none := by
    rw [findSome?_afterAttributes unbiased, afterAttribute?_cons_of_blank blank]
    exact unbiased.front blank (List.findSome?_eq_none_iff.mp none _ (mem_afterAttributes rest))
  back := by
    intro text blanks blank
    induction text using Source.afterAttributes.induct with
    | case1 text none =>
        simp only [findSome?_afterAttributes unbiased (text ++ blanks),
          findSome?_afterAttributes unbiased text, afterAttribute?_append blank.1, none]
        exact unbiased.back text blanks blank
    | case2 text rest found ih =>
        simp only [findSome?_afterAttributes unbiased (text ++ blanks),
          findSome?_afterAttributes unbiased text, afterAttribute?_append blank.1, found,
          Option.map_some, unbiased.back text blanks blank]
        rcases trimStart_append_right blank.1 rest with ⟨-, more⟩ | ⟨empty, gone⟩
        · rw [more]
          exact congrArg (fun result => result.or (read text)) ih
        · rw [gone, empty]

theorem findSome?_flatMap {γ : Type} (places : List γ) (more : γ → List (List Char)) :
    (places.flatMap more).findSome? read =
      places.findSome? fun place => (more place).findSome? read := by
  induction places with
  | nil => rfl
  | cons place later ih =>
      rw [List.flatMap_cons, List.findSome?_append, ih, List.findSome?_cons]
      cases (more place).findSome? read <;> rfl

/-- The blanks in front of a line are not read. -/
theorem findSome?_starts (unbiased : Unbiased read) (line : List Char) :
    (starts line).findSome? read =
      (afterAttributes (trimStart line)).findSome? fun place =>
        (afterModifiers place).findSome? read := by
  rw [starts, List.findSome?_append, findSome?_flatMap]
  cases behind : (afterAttributes (trimStart line)).findSome? fun place =>
      (afterModifiers place).findSome? read with
  | some result => rfl
  | none =>
      have modifiers := List.findSome?_eq_none_iff.mp behind _ (mem_afterAttributes _)
      have start := List.findSome?_eq_none_iff.mp modifiers _ (mem_afterModifiers _)
      rw [findSome?_insideBlanks unbiased start]
      rfl

/-- What a line declares stands between the blanks at its ends. -/
theorem findSome?_starts_trim (unbiased : Unbiased read) {line : List Char} (whole : '\n' ∉ line) :
    (starts (trim line)).findSome? read = (starts line).findSome? read := by
  obtain ⟨blanks, blank, same⟩ := exists_trimEnd (trimStart line)
  have lineBlank : LineBlanks blanks := by
    refine ⟨blank, fun member => whole (mem_of_mem_trimStart ?_)⟩
    rw [same]
    exact List.mem_append_right _ member
  rw [findSome?_starts unbiased, findSome?_starts unbiased, trimStart_trim]
  calc (afterAttributes (trim line)).findSome? (fun place => (afterModifiers place).findSome? read)
      = (afterAttributes (trim line ++ blanks)).findSome? fun place =>
          (afterModifiers place).findSome? read :=
        (unbiased.afterModifiers.afterAttributes.back (trim line) blanks lineBlank).symm
    _ = (afterAttributes (trimStart line)).findSome? fun place =>
          (afterModifiers place).findSome? read := by rw [trim, ← same]

end Places

theorem declaredType?_trim {line : List Char} (whole : '\n' ∉ line) :
    declaredType? (trim line) = declaredType? line :=
  findSome?_starts_trim unbiased_typeName? whole

theorem lineMembers_trim {line : List Char} (whole : '\n' ∉ line) :
    lineMembers (trim line) = lineMembers line := by
  unfold lineMembers field? property?
  rw [findSome?_starts_trim (unbiased_typeAnd endsFreely_fieldTail?) whole,
    findSome?_starts_trim (unbiased_typeAnd endsFreely_propertyTail?) whole]

end ConstructorAction.Source
