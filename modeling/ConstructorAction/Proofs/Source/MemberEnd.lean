import ConstructorAction.Proofs.Source.Front
import ConstructorAction.Proofs.Source.Silent

namespace ConstructorAction.Source

open ConstructorAction.Text

/-!
What stands behind the type of a field or a property, said without the readers: a name (`Named`),
and an end of the right kind (`FieldEnd`, `PropertyEnd`). The readers read exactly this
(`fieldTail?_eq_some_iff`, `propertyTail?_eq_some_iff`).
-/

variable {α : Type} {text name rest ending : List Char} {mark : Char}

/-- A name with blanks in front of it. -/
structure Named (text name ending : List Char) : Prop where
  identifier : isIdentifier name = true
  apart : ∃ gap, Blanks gap ∧ gap ≠ [] ∧ text = gap ++ (name ++ ending)

/-- A semicolon, and at most a comment behind it. -/
def FieldEnd (ending : List Char) : Prop :=
  ∃ space gap comment, Blanks space ∧ Blanks gap ∧ ending = space ++ ';' :: (gap ++ comment) ∧
    (comment = [] ∨ ∃ words, comment = '/' :: '/' :: words)

/-- An access modifier in front of a getter, and the blanks behind it. -/
abbrev AccessWord := SpacedWord ["private".toList, "protected".toList, "internal".toList]

theorem pieces_accessWords :
    Pieces (afterWord? accessWords) fun word : AccessWord => word.written :=
  plain_accessWords.pieces

/-- What may stand in front of a getter. -/
def Access (access : List Char) : Prop :=
  access = [] ∨ ∃ word : AccessWord, access = word.written

/-- A getter and the rest of the braces that it is in, in which there are no other braces. -/
def Getter (inner after : List Char) : Prop :=
  ∃ gap access tail body, Blanks gap ∧ Access access ∧ Blanks tail ∧
    '\x7b' ∉ body ∧ '\x7d' ∉ body ∧
    inner = gap ++ (access ++ 'g' :: 'e' :: 't' :: (tail ++ ';' :: (body ++ '\x7d' :: after)))

/-- Braces that start with a getter; `after` is behind them. -/
def GetterBraces (ending after : List Char) : Prop :=
  ∃ space inner, Blanks space ∧ ending = space ++ '\x7b' :: inner ∧ Getter inner after

def PropertyEnd (ending : List Char) : Prop := ∃ after, GetterBraces ending after

/-- The end of a property that no initial value follows. -/
def PlainPropertyEnd (ending : List Char) : Prop :=
  ∃ after, GetterBraces ending after ∧ (trimStart after).head? ≠ some '='

/-- Braces with a getter, and whether an initial value follows. -/
def PropertyEndWith (initialised : Bool) (ending : List Char) : Prop :=
  ∃ after, GetterBraces ending after ∧ initialised = ((trimStart after).head? == some '=')

theorem propertyEndWith_false_iff : PropertyEndWith false ending ↔ PlainPropertyEnd ending := by
  refine exists_congr fun after => and_congr_right fun _ => ?_
  rw [eq_comm, beq_eq_false_iff_ne]

theorem exists_propertyEndWith_iff :
    (∃ initialised, PropertyEndWith initialised ending) ↔ PropertyEnd ending := by
  constructor
  · rintro ⟨-, after, braces, -⟩
    exact ⟨after, braces⟩
  · rintro ⟨after, braces⟩
    exact ⟨_, after, braces, rfl⟩

theorem afterBlanks?_eq_some_iff : afterBlanks? text = some rest ↔
    ∃ gap, Blanks gap ∧ gap ≠ [] ∧ Flush rest ∧ text = gap ++ rest := by
  constructor
  · intro found
    obtain ⟨c, more, rfl, blank, rfl⟩ := afterBlanks?_eq_some found
    obtain ⟨gap, blanks, same⟩ := exists_trimStart more
    refine ⟨c :: gap, .cons blank blanks, List.cons_ne_nil c gap, flush_trimStart more, ?_⟩
    rw [List.cons_append, ← same]
  · rintro ⟨gap, blank, apart, flush, rfl⟩
    obtain ⟨c, more, rfl⟩ := List.exists_cons_of_ne_nil apart
    simp [afterBlanks?, blank.head, trimStart_gap blank.tail flush]

theorem afterMark?_eq_some_iff (visible : isBlank mark = false) :
    afterMark? mark text = some rest ↔ ∃ space, Blanks space ∧ text = space ++ mark :: rest := by
  constructor
  · intro found
    unfold afterMark? at found
    split at found
    · cases found
    · next c more start =>
        rw [Option.ite_none_right_eq_some, Option.some.injEq] at found
        obtain ⟨rfl, rfl⟩ := found
        obtain ⟨space, blank, same⟩ := exists_trimStart text
        exact ⟨space, blank, by rw [← start, ← same]⟩
  · rintro ⟨space, blank, rfl⟩
    have start : trimStart (space ++ mark :: rest) = mark :: rest :=
      trimStart_gap blank (.cons visible rest)
    simp [afterMark?, start]

theorem startsWithout_mark {p : Char → Bool} {space : List Char} (blank : Blanks space)
    (ends : ∀ c, isBlank c = true → p c = false) (other : p mark = false) (rest : List Char) :
    StartsWithout p (space ++ mark :: rest) := by
  cases space with
  | nil => exact .cons other rest
  | cons c more => exact .cons (ends c blank.head) _

theorem Named.subset (named : Named text name ending) : ending ⊆ text := by
  obtain ⟨-, gap, -, -, rfl⟩ := named
  intro c member
  exact List.mem_append_right gap (List.mem_append_right name member)

/-- Blanks, a name and a mark are in front of what is read last. -/
theorem marked_iff {tail : List Char → List Char → Option α} {found : α}
    (visible : isBlank mark = false) (noWord : isWordChar mark = false) :
    ((afterBlanks? text).bind fun rest => (identifier? rest).bind fun found =>
        (afterMark? mark found.2).bind (tail found.1)) = some found ↔
      ∃ name space rest, Named text name (space ++ mark :: rest) ∧ Blanks space ∧
        tail name rest = some found := by
  simp only [Option.bind_eq_some_iff, Prod.exists, afterBlanks?_eq_some_iff,
    identifier?_eq_some_iff, afterMark?_eq_some_iff visible]
  constructor
  · rintro ⟨_, ⟨gap, blank, apart, -, rfl⟩, name, _, ⟨rfl, named, -⟩, rest, ⟨space, between, rfl⟩,
      read⟩
    exact ⟨name, space, rest, ⟨named, gap, blank, apart, rfl⟩, between, read⟩
  · rintro ⟨name, space, rest, ⟨named, gap, blank, apart, rfl⟩, between, read⟩
    exact ⟨_, ⟨gap, blank, apart, flush_of_isIdentifier named _, rfl⟩, name, _,
      ⟨rfl, named, startsWithout_mark between (fun _ => isWordChar_of_isBlank) noWord rest⟩, rest,
      ⟨space, between, rfl⟩, read⟩

theorem fieldEnd?_eq_some_iff (whole : '\n' ∉ rest) {found : List Char} :
    fieldEnd? name rest = some found ↔ found = name ∧ ∃ gap comment, Blanks gap ∧
      rest = gap ++ comment ∧ (comment = [] ∨ ∃ words, comment = '/' :: '/' :: words) := by
  constructor
  · intro read
    obtain ⟨gap, blank, same⟩ := exists_trimStart rest
    unfold fieldEnd? at read
    split at read
    · next start =>
        exact ⟨(Option.some.inj read).symm, gap, [], blank, by rw [← start, ← same], .inl rfl⟩
    · next comment start =>
        split at read
        · cases read
        · exact ⟨(Option.some.inj read).symm, gap, _, blank, same, .inr ⟨comment, start⟩⟩
    · cases read
  · rintro ⟨rfl, gap, comment, blank, rfl, rfl | ⟨words, rfl⟩⟩
    · simp [fieldEnd?, trimStart_of_blanks blank]
    · have start : trimStart (gap ++ '/' :: '/' :: words) = '/' :: '/' :: words :=
        trimStart_gap blank (.cons (by decide) _)
      have oneLine : '\n' ∉ words := fun member => whole (by simp [member])
      simp [fieldEnd?, start, oneLine]

theorem fieldTail?_eq_some_iff (whole : '\n' ∉ text) : fieldTail? text = some name ↔
    ∃ ending, Named text name ending ∧ FieldEnd ending := by
  rw [fieldTail?_eq, marked_iff (by decide) (by decide)]
  constructor
  · rintro ⟨word, space, rest, named, blank, read⟩
    have oneLine : '\n' ∉ rest := fun member => whole (named.subset (by simp [member]))
    obtain ⟨rfl, gap, comment, blankGap, rfl, form⟩ := (fieldEnd?_eq_some_iff oneLine).mp read
    exact ⟨_, named, space, gap, comment, blank, blankGap, rfl, form⟩
  · rintro ⟨_, named, space, gap, comment, blank, blankGap, rfl, form⟩
    have oneLine : '\n' ∉ gap ++ comment := fun member =>
      whole (named.subset (List.mem_append_right space (List.mem_cons_of_mem ';' member)))
    exact ⟨name, space, _, named, blank,
      (fieldEnd?_eq_some_iff oneLine).mpr ⟨rfl, gap, comment, blankGap, rfl, form⟩⟩

theorem getIn?_eq_some_iff : getIn? text = some rest ↔ text = 'g' :: 'e' :: 't' :: rest := by
  constructor
  · intro found
    unfold getIn? at found
    split at found
    · rw [Option.some.inj found]
    · cases found
  · rintro rfl
    rfl

theorem afterGet?_eq_some_iff : afterGet? text = some rest ↔
    ∃ access, Access access ∧ text = access ++ 'g' :: 'e' :: 't' :: rest := by
  rw [afterGet?_eq]
  constructor
  · intro found
    split at found
    · next more taken =>
        obtain ⟨word, same⟩ := pieces_accessWords.taken taken
        exact ⟨_, .inr ⟨word, rfl⟩, by rw [same, getIn?_eq_some_iff.mp found]⟩
    · exact ⟨[], .inl rfl, getIn?_eq_some_iff.mp found⟩
  · rintro ⟨access, rfl | ⟨word, rfl⟩, rfl⟩
    · have noWord : afterWord? accessWords ('g' :: 'e' :: 't' :: rest) = none := by
        have first : 'g' ∈ (firstWord ('g' :: 'e' :: 't' :: rest)).1 := by
          simp [firstWord, show isBlank 'g' = false by decide]
        exact afterWord?_of_mem first (by decide)
      rw [List.nil_append, noWord]
      rfl
    · have flush : Flush ('g' :: 'e' :: 't' :: rest) := .cons (by decide) _
      obtain ⟨more, taken, trimmed⟩ := pieces_accessWords.takes word flush
      simp only [taken, trimmed]
      rfl

theorem propertyEnd?_eq_some_iff {body : List Char} {found : List Char × Bool} :
    propertyEnd? name body = some found ↔ ∃ inside after, '\x7b' ∉ inside ∧ '\x7d' ∉ inside ∧
      body = inside ++ '\x7d' :: after ∧ found = (name, (trimStart after).head? == some '=') := by
  constructor
  · intro read
    unfold propertyEnd? at read
    split at read
    · next after stop =>
        have passed {c : Char} (member : c ∈ body.takeWhile fun c => c != '\x7b' && c != '\x7d') :
            (c != '\x7b' && c != '\x7d') = true :=
          List.mem_takeWhile_imp (p := fun c => c != '\x7b' && c != '\x7d') member
        refine ⟨body.takeWhile _, after, fun member => absurd (passed member) (by decide),
          fun member => absurd (passed member) (by decide), ?_, (Option.some.inj read).symm⟩
        rw [← stop, List.takeWhile_append_dropWhile]
    · cases read
  · rintro ⟨inside, after, noOpening, noClosing, rfl, rfl⟩
    have passed : ∀ c ∈ inside, (c != '\x7b' && c != '\x7d') = true := by
      intro c member
      have opening : c ≠ '\x7b' := fun same => noOpening (same ▸ member)
      have closing : c ≠ '\x7d' := fun same => noClosing (same ▸ member)
      simp [opening, closing]
    have stop : (inside ++ '\x7d' :: after).dropWhile (fun c => c != '\x7b' && c != '\x7d') =
        '\x7d' :: after := dropWhile_run passed (.cons (by decide) after)
    simp only [propertyEnd?, stop]

/-- What is read behind the opening brace of a property. -/
def getter? (name inner : List Char) : Option (List Char × Bool) :=
  (afterGet? (trimStart inner)).bind fun rest => (afterMark? ';' rest).bind (propertyEnd? name)

theorem Access.flush {access : List Char} (isAccess : Access access) (flush : Flush rest) :
    Flush (access ++ rest) := by
  rcases isAccess with rfl | ⟨word, rfl⟩
  · exact flush
  · exact pieces_accessWords.flush word rest

theorem getter?_eq_some_iff {inner : List Char} {found : List Char × Bool} :
    getter? name inner = some found ↔ ∃ after, Getter inner after ∧
      found = (name, (trimStart after).head? == some '=') := by
  simp only [getter?, Option.bind_eq_some_iff, afterGet?_eq_some_iff, propertyEnd?_eq_some_iff,
    afterMark?_eq_some_iff (show isBlank ';' = false by decide)]
  constructor
  · rintro ⟨_, ⟨access, isAccess, start⟩, _, ⟨tail, blankTail, rfl⟩, body, after, noOpening,
      noClosing, rfl, rfl⟩
    obtain ⟨gap, blank, same⟩ := exists_trimStart inner
    exact ⟨after, ⟨gap, access, tail, body, blank, isAccess, blankTail, noOpening, noClosing,
      by rw [← start, ← same]⟩, rfl⟩
  · rintro ⟨after, ⟨gap, access, tail, body, blank, isAccess, blankTail, noOpening, noClosing,
      rfl⟩, rfl⟩
    have start := trimStart_gap blank <| isAccess.flush <|
      StartsWithout.cons (show isBlank 'g' = false by decide)
        ('e' :: 't' :: (tail ++ ';' :: (body ++ '\x7d' :: after)))
    exact ⟨_, ⟨access, isAccess, start⟩, _, ⟨tail, blankTail, rfl⟩, body, after, noOpening,
      noClosing, rfl, rfl⟩

theorem propertyTail?_eq_some_iff {initialised : Bool} :
    propertyTail? text = some (name, initialised) ↔ ∃ ending after, Named text name ending ∧
      GetterBraces ending after ∧ initialised = ((trimStart after).head? == some '=') := by
  have read : propertyTail? text = (afterBlanks? text).bind fun rest =>
      (identifier? rest).bind fun found => (afterMark? '\x7b' found.2).bind (getter? found.1) := rfl
  rw [read, marked_iff (by decide) (by decide)]
  constructor
  · rintro ⟨word, space, inner, named, blank, inside⟩
    obtain ⟨after, getter, same⟩ := getter?_eq_some_iff.mp inside
    obtain ⟨rfl, rfl⟩ := Prod.mk.inj same
    exact ⟨_, after, named, ⟨space, inner, blank, rfl, getter⟩, rfl⟩
  · rintro ⟨_, after, named, ⟨space, inner, blank, rfl, getter⟩, rfl⟩
    exact ⟨name, space, inner, named, blank, getter?_eq_some_iff.mpr ⟨after, getter, rfl⟩⟩

end ConstructorAction.Source
