import ConstructorAction.Proofs.Source.MemberEnd
import Mathlib.Data.List.Basic

namespace ConstructorAction.Source

open ConstructorAction.Text

/-!
The lines that declare a field or a property, said without the readers. A type, a name and an end
of the right kind make up a declaration (`Declares`). Of the attribute groups in front of it as many
are passed as leave a declaration, and then its type is rid of as many modifiers as leave something
of it (`MemberLine`, `rules_read_memberLine`).
-/

variable {α : Type} {text type name rest behind ending line place : List Char} {mark : Char}

/-- A text that the type of a member may be read from, with the modifiers in front of it. -/
structure IsType (type : List Char) : Prop where
  made : ∀ c ∈ type, isTypeChar c = true
  ends : ∃ c, type.getLast? = some c ∧ isTypeEnd c = true

def Declares (Ends : List Char → Prop) (text type name : List Char) : Prop :=
  IsType type ∧ ∃ behind ending, text = type ++ behind ∧ Named behind name ending ∧ Ends ending

/-- Angle brackets pair up if `depth` of them are open in front of a text, and every comma is inside
of a pair. -/
structure Paired (depth : Nat) (type : List Char) : Prop where
  opened : ∀ front back, type = front ++ back → front.count '>' ≤ depth + front.count '<'
  closed : type.count '>' = depth + type.count '<'
  commas : ∀ front back, type = front ++ ',' :: back → front.count '>' < depth + front.count '<'

/-- A word that opens a statement of the form `word name;`. -/
def OpensStatement (word : List Char) : Prop :=
  word ∈ ["return", "throw", "yield", "goto", "await", "using", "namespace", "break", "continue",
    "case", "else", "do", "var", "event", "delete", "const", "in", "out"].map String.toList

theorem opensStatement_iff {word : List Char} : OpensStatement word ↔ word ∈ statementWords :=
  Iff.rfl

/-- A line that declares a member. Those attributes are passed that leave a declaration whose end is
one of `Ends`, and the end of this declaration must be one of `Wanted`. -/
def MemberLine (Ends Wanted : List Char → Prop) (line : List Char) (member : Member) : Prop :=
  ∃ place type bare,
    Farthest (BehindAttributes line) (fun place => ∃ type name, Declares Ends place type name)
        place ∧
      Declares Wanted place type member.name ∧
      Farthest (BehindModifiers type) (· ≠ []) bare ∧
      member.declaredType = trim bare ∧
      ¬ OpensStatement (member.declaredType.takeWhile isNameChar) ∧ Paired 0 member.declaredType

theorem isTypeChar_of_isBlank {c : Char} (blank : isBlank c = true) : isTypeChar c = true := by
  simp [isTypeChar, blank]

theorem isTypeChar_of_isWordChar {c : Char} (word : isWordChar c = true) :
    isTypeChar c = true := by
  simp [isTypeChar, word]

theorem IsType.ne_nil (isType : IsType type) : type ≠ [] := by
  obtain ⟨c, last, -⟩ := isType.ends
  rintro rfl
  cases last

theorem IsType.append {front : List Char} (typed : ∀ c ∈ front, isTypeChar c = true)
    (isType : IsType type) : IsType (front ++ type) where
  made := List.forall_mem_append.mpr ⟨typed, isType.made⟩
  ends := by
    rw [List.getLast?_append_of_ne_nil front isType.ne_nil]
    exact isType.ends

theorem IsType.of_append {front : List Char} (isType : IsType (front ++ type))
    (present : type ≠ []) : IsType type where
  made := (List.forall_mem_append.mp isType.made).2
  ends := by
    rw [← List.getLast?_append_of_ne_nil front present]
    exact isType.ends

theorem paired_cons_iff {depth : Nat} {c : Char} : Paired depth (c :: rest) ↔
    (c = ',' ∨ c = '>' → 0 < depth) ∧
      Paired (depth + [c].count '<' - [c].count '>') rest := by
  have counts (mark : Char) (front : List Char) :
      (c :: front).count mark = [c].count mark + front.count mark :=
    @List.count_append _ _ mark [c] front
  constructor
  · intro paired
    have first := paired.opened [c] rest rfl
    refine ⟨?_, ⟨fun front back same => ?_, ?_, fun front back same => ?_⟩⟩
    · rintro (rfl | rfl)
      · exact paired.commas [] rest rfl
      · simpa [Nat.succ_le_iff] using first
    · have := paired.opened (c :: front) back (by rw [same, List.cons_append])
      rw [counts '>', counts '<'] at this
      omega
    · have := paired.closed
      rw [counts '>', counts '<'] at this
      omega
    · have := paired.commas (c :: front) back (by rw [same, List.cons_append])
      rw [counts '>', counts '<'] at this
      omega
  · rintro ⟨inside, paired⟩
    have first : [c].count '>' ≤ depth + [c].count '<' := by
      by_cases closing : c = '>'
      · have := inside (.inr closing)
        simp [closing]
        omega
      · simp [closing]
    refine ⟨fun front back same => ?_, ?_, fun front back same => ?_⟩
    · cases front with
      | nil => simp
      | cons d front =>
          obtain ⟨rfl, behind⟩ := List.cons.inj same
          have := paired.opened front back behind
          rw [counts '>', counts '<']
          omega
    · have := paired.closed
      rw [counts '>', counts '<']
      omega
    · cases front with
      | nil =>
          obtain ⟨rfl, -⟩ := List.cons.inj same
          simpa using inside (.inl rfl)
      | cons d front =>
          obtain ⟨rfl, behind⟩ := List.cons.inj same
          have := paired.commas front back behind
          rw [counts '>', counts '<']
          omega

theorem commasInsideBrackets_iff {depth : Nat} :
    commasInsideBrackets depth type = true ↔ Paired depth type := by
  fun_induction commasInsideBrackets depth type with
  | case1 depth =>
      constructor
      · intro none
        obtain rfl := beq_iff_eq.mp none
        exact ⟨by simp, rfl, by simp⟩
      · intro paired
        simpa using paired.closed.symm
  | case2 depth rest ih => simpa [paired_cons_iff] using ih
  | case3 depth rest ih => simp [paired_cons_iff, ih, Nat.pos_iff_ne_zero]
  | case4 depth rest ih => simp [paired_cons_iff, ih, Nat.pos_iff_ne_zero]
  | case5 depth c rest opening closing comma ih =>
      simp_all [paired_cons_iff]

theorem member?_eq_some_iff {member : Member} : member? type name = some member ↔
    member = ⟨trim type, name⟩ ∧ ¬ OpensStatement ((trim type).takeWhile isNameChar) ∧
      Paired 0 (trim type) := by
  rw [opensStatement_iff, member?, Option.ite_none_right_eq_some, isMemberType, Bool.and_eq_true,
    commasInsideBrackets_iff]
  simp only [Bool.not_eq_true', List.contains_eq_mem, decide_eq_false_iff_not,
    Option.some.injEq]
  constructor
  · rintro ⟨⟨word, paired⟩, rfl⟩
    exact ⟨rfl, word, paired⟩
  · rintro ⟨rfl, word, paired⟩
    exact ⟨⟨word, paired⟩, rfl⟩

/-- A run of one kind of characters starts where the kind before it ends. -/
theorem last_run_unique {p : Char → Bool} {run other front more : List Char}
    (all : ∀ c ∈ run, p c = true) (stops : ∀ c, front.getLast? = some c → p c = false)
    (allOther : ∀ c ∈ other, p c = true) (stopsOther : ∀ c, more.getLast? = some c → p c = false)
    (same : front ++ run = more ++ other) : front = more ∧ run = other := by
  have reversed := congrArg List.reverse same
  rw [List.reverse_append, List.reverse_append] at reversed
  obtain ⟨runs, fronts⟩ := run_unique (p := p) (by simpa using all)
    (fun c first => stops c (by simpa using first)) (by simpa using allOther)
    (fun c first => stopsOther c (by simpa using first)) reversed
  exact ⟨List.reverse_inj.mp fronts, List.reverse_inj.mp runs⟩

/-- The name at the end of a text stands behind the last blanks in front of it. -/
theorem lastName_unique {word front more space room : List Char}
    (named : isIdentifier name = true) (namedWord : isIdentifier word = true)
    (blank : Blanks space) (blankRoom : Blanks room)
    (ends : ∀ c, front.getLast? = some c → isBlank c = true)
    (endsMore : ∀ c, more.getLast? = some c → isBlank c = true)
    (same : front ++ name ++ space = more ++ word ++ room) : front = more := by
  have lastOf {name : List Char} (named : isIdentifier name = true) (front : List Char) :
      ∀ c, (front ++ name).getLast? = some c → isBlank c = false := by
    intro c last
    rw [List.getLast?_append_of_ne_nil _ (ne_nil_of_isIdentifier named)] at last
    exact visible_of_isIdentifier named c (List.mem_of_getLast? last)
  have visible {name : List Char} (named : isIdentifier name = true) :
      ∀ c ∈ name, (!isBlank c) = true := by
    intro c member
    rw [visible_of_isIdentifier named c member, Bool.not_false]
  obtain ⟨same, -⟩ :=
    last_run_unique blank (lastOf named front) blankRoom (lastOf namedWord more) same
  refine (last_run_unique (visible named) ?_ (visible namedWord) ?_ same).1
  · intro c last
    rw [ends c last, Bool.not_true]
  · intro c last
    rw [endsMore c last, Bool.not_true]

/-- A reader that reads blanks, a name and a mark first, and no type ends in front of the mark. -/
structure Marked (mark : Char) (tail : List Char → Option α) : Prop where
  names : NamesBefore mark tail
  outside : isTypeChar mark = false

theorem Marked.visible {tail : List Char → Option α} (marked : Marked mark tail) :
    isBlank mark = false := by
  cases blank : isBlank mark with
  | false => rfl
  | true =>
      have outside := marked.outside
      rw [isTypeChar_of_isBlank blank] at outside
      cases outside

theorem marked_fieldTail? : Marked ';' fieldTail? := ⟨namesBefore_fieldTail?, by decide⟩

theorem marked_propertyTail? : Marked '\x7b' propertyTail? :=
  ⟨namesBefore_propertyTail?, by decide⟩

section Types

variable {tail : List Char → Option α} {found : α} {count : Nat}

theorem Marked.exists_named (marked : Marked mark tail) (read : tail text = some found) :
    ∃ name space rest, Named text name (space ++ mark :: rest) ∧ Blanks space := by
  obtain ⟨_, name, _, rest, blanks, identifier, atMark⟩ := marked.names text found read
  obtain ⟨gap, blank, apart, -, rfl⟩ := afterBlanks?_eq_some_iff.mp blanks
  obtain ⟨rfl, named, -⟩ := identifier?_eq_some_iff.mp identifier
  obtain ⟨space, between, rfl⟩ := (afterMark?_eq_some_iff marked.visible).mp atMark
  exact ⟨name, space, rest, ⟨named, gap, blank, apart, rfl⟩, between⟩

theorem typed_of_named {gap space : List Char} (named : isIdentifier name = true)
    (blank : Blanks gap) (between : Blanks space) :
    ∀ c ∈ gap ++ (name ++ space), isTypeChar c = true := by
  intro c member
  rcases List.mem_append.mp member with inGap | inNamed
  · exact isTypeChar_of_isBlank (blank c inGap)
  · rcases List.mem_append.mp inNamed with inName | inSpace
    · exact isTypeChar_of_isWordChar (isWordChar_of_mem named inName)
    · exact isTypeChar_of_isBlank (between c inSpace)

/-- With a type in front no text is read that is read without it. -/
theorem Marked.append_eq_none (marked : Marked mark tail) (isType : IsType type)
    (read : tail behind = some found) : tail (type ++ behind) = none := by
  refine Option.eq_none_iff_forall_ne_some.mpr fun other again => ?_
  obtain ⟨name, space, rest, ⟨named, gap, blank, apart, rfl⟩, between⟩ := marked.exists_named read
  obtain ⟨word, room, more, ⟨namedWord, margin, blankMargin, -, whole⟩, blankRoom⟩ :=
    marked.exists_named again
  -- In front of the mark there is a type on one side, and only blanks and a name on the other.
  have front : type ++ (gap ++ (name ++ space)) = margin ++ (word ++ room) :=
    (run_unique (List.forall_mem_append.mpr ⟨isType.made, typed_of_named named blank between⟩)
      (.cons marked.outside rest) (typed_of_named namedWord blankMargin blankRoom)
      (.cons marked.outside more) (by simpa using whole)).1
  obtain rfl : type ++ gap = margin := by
    refine lastName_unique named namedWord between blankRoom ?_ ?_ (by simpa using front)
    · intro c last
      rw [List.getLast?_append_of_ne_nil _ apart] at last
      exact blank c (List.mem_of_getLast? last)
    · intro c last
      exact blankMargin c (List.mem_of_getLast? last)
  obtain ⟨c, last, ends⟩ := isType.ends
  rw [isTypeEnd_of_isBlank (blankMargin c (List.mem_append_left gap (List.mem_of_getLast? last)))]
    at ends
  cases ends

theorem typeAnd_eq_some_iff (marked : Marked mark tail) :
    typeAnd tail text = some (type, found) ↔
      IsType type ∧ ∃ behind, text = type ++ behind ∧ tail behind = some found := by
  constructor
  · intro read
    induction text generalizing type with
    | nil => cases read
    | cons c rest ih =>
        unfold typeAnd at read
        split at read
        · next result ended =>
            obtain ⟨rfl, rfl⟩ := Prod.mk.inj (Option.some.inj read)
            rw [Option.ite_none_right_eq_some] at ended
            obtain ⟨ends, behind⟩ := ended
            exact ⟨⟨by simpa using isTypeChar_of_isTypeEnd ends, c, rfl, ends⟩, rest, rfl, behind⟩
        · rw [Option.ite_none_right_eq_some] at read
          obtain ⟨inType, read⟩ := read
          obtain ⟨⟨later, result⟩, inRest, same⟩ := Option.map_eq_some_iff.mp read
          obtain ⟨rfl, rfl⟩ := Prod.mk.inj same
          obtain ⟨isType, behind, rfl, readBehind⟩ := ih inRest
          have isLonger : IsType ([c] ++ later) := isType.append (by simpa using inType)
          exact ⟨isLonger, behind, rfl, readBehind⟩
  · rintro ⟨isType, behind, rfl, readBehind⟩
    induction type with
    | nil => exact absurd rfl isType.ne_nil
    | cons c later ih =>
        have inType : isTypeChar c = true := isType.made c List.mem_cons_self
        rw [List.cons_append, typeAnd]
        cases later with
        | nil =>
            have ends : isTypeEnd c = true := by simpa using isType.ends
            simp [ends, readBehind]
        | cons d more =>
            have isWhole : IsType ([c] ++ d :: more) := isType
            have isLater : IsType (d :: more) := isWhole.of_append (List.cons_ne_nil d more)
            -- The reader asks for an end behind each character first, and there is none earlier.
            have noneRead := marked.append_eq_none isLater readBehind
            rw [noneRead, ih isLater, if_pos inType]
            simp

/-- The first character of a declaration that is not one of a type is the mark. -/
theorem exists_mark_of_typeAnd (marked : Marked mark tail)
    (read : typeAnd tail text = some (type, found)) :
    ∃ front rest, (∀ c ∈ front, isTypeChar c = true) ∧ text = front ++ mark :: rest := by
  obtain ⟨isType, behind, rfl, readBehind⟩ := (typeAnd_eq_some_iff marked).mp read
  obtain ⟨name, space, rest, named, between⟩ := marked.exists_named readBehind
  obtain ⟨gap, blank, -, rfl⟩ := named.apart
  exact ⟨type ++ (gap ++ (name ++ space)), rest,
    List.forall_mem_append.mpr ⟨isType.made, typed_of_named named.identifier blank between⟩,
    by simp⟩

theorem typeAnd_iff_declares (marked : Marked mark tail) {Ends : List Char → Prop}
    (reads : ∀ behind ⊆ text,
      tail behind = some found ↔ ∃ ending, Named behind name ending ∧ Ends ending) :
    typeAnd tail text = some (type, found) ↔ Declares Ends text type name := by
  rw [typeAnd_eq_some_iff marked]
  refine and_congr_right fun _ => exists_congr fun behind => ?_
  rw [exists_and_left]
  refine and_congr_right fun whole => reads behind ?_
  rw [whole]
  exact List.subset_append_right type behind

theorem typed_modifiers (modifiers : List Modifier) :
    ∀ c ∈ modifiers.flatMap SpacedWord.written, isTypeChar c = true := by
  intro c member
  obtain ⟨modifier, -, inModifier⟩ := List.mem_flatMap.mp member
  have identifier := plain_modifierWords.identifiers modifier.word modifier.listed
  rcases List.mem_append.mp inModifier with inWord | inGap
  · exact isTypeChar_of_isWordChar (isWordChar_of_mem identifier inWord)
  · exact isTypeChar_of_isBlank (modifier.blank c inGap)

theorem BehindModifiers.append {bare : List Char} (behind : BehindModifiers type count bare)
    (present : bare ≠ []) (rest : List Char) :
    BehindModifiers (type ++ rest) count (bare ++ rest) := by
  obtain ⟨modifiers, length, rfl, flush⟩ := behind
  exact ⟨modifiers, length, by rw [List.append_assoc], .append present flush rest⟩

/-- The end of a declaration is read behind what is left of its type. -/
theorem typeAnd_bare (marked : Marked mark tail) (isType : IsType type)
    (readBehind : tail behind = some found) {bare : List Char}
    (modified : BehindModifiers type count bare) (present : bare ≠ []) :
    typeAnd tail (bare ++ behind) = some (bare, found) := by
  obtain ⟨modifiers, -, rfl, -⟩ := modified
  exact (typeAnd_eq_some_iff marked).mpr ⟨isType.of_append present, behind, rfl, readBehind⟩

/-- What is read behind modifiers is read in front of them, with the modifiers in the type. -/
theorem exists_type_of_behindModifiers (marked : Marked mark tail) {bare : List Char}
    (modified : BehindModifiers text count place)
    (read : typeAnd tail place = some (bare, found)) :
    ∃ type, typeAnd tail text = some (type, found) ∧ BehindModifiers type count bare ∧
      bare ≠ [] := by
  obtain ⟨isBare, behind, rfl, readBehind⟩ := (typeAnd_eq_some_iff marked).mp read
  obtain ⟨modifiers, length, rfl, flush⟩ := modified
  have isType := isBare.append (typed_modifiers modifiers)
  refine ⟨_, (typeAnd_eq_some_iff marked).mpr ⟨isType, behind, ?_, readBehind⟩,
    ⟨modifiers, length, rfl, flush.of_append⟩, isBare.ne_nil⟩
  rw [List.append_assoc]

/-- The type that is read is the one in front of the modifiers, without as many of them as leave
something of it. -/
theorem findSome?_afterModifiers_typeAnd (marked : Marked mark tail) (ends : EndsFreely tail)
    {bare : List Char} (flush : Flush text) :
    (afterModifiers text).findSome? (typeAnd tail) = some (bare, found) ↔
      ∃ type, typeAnd tail text = some (type, found) ∧
        Farthest (BehindModifiers type) (· ≠ []) bare := by
  rw [findSome?_afterModifiers_eq_some_iff (unbiased_typeAnd ends) flush]
  constructor
  · rintro ⟨place, ⟨count, modified, -, last⟩, read⟩
    obtain ⟨type, readText, leaves, present⟩ :=
      exists_type_of_behindModifiers marked modified read
    obtain ⟨isType, behind, rfl, readBehind⟩ := (typeAnd_eq_some_iff marked).mp readText
    refine ⟨type, readText, count, leaves, present, ?_⟩
    intro more other beyond there presentOther
    have readOther := typeAnd_bare marked isType readBehind there presentOther
    exact last more _ beyond (there.append presentOther behind) (by simp [readOther])
  · rintro ⟨type, readText, count, leaves, present, last⟩
    obtain ⟨isType, behind, rfl, readBehind⟩ := (typeAnd_eq_some_iff marked).mp readText
    have read := typeAnd_bare marked isType readBehind leaves present
    refine ⟨bare ++ behind, ⟨count, leaves.append present behind, by simp [read], ?_⟩, read⟩
    intro more other beyond there reads
    obtain ⟨⟨rest, result⟩, readOther⟩ := Option.ne_none_iff_exists'.mp reads
    obtain ⟨_, again, leavesRest, presentRest⟩ :=
      exists_type_of_behindModifiers marked there readOther
    obtain ⟨rfl, -⟩ := Prod.mk.inj (Option.some.inj (readText.symm.trans again))
    exact last more rest beyond leavesRest presentRest

theorem findSome?_afterModifiers_typeAnd_ne_none (marked : Marked mark tail)
    (ends : EndsFreely tail) (flush : Flush text) :
    (afterModifiers text).findSome? (typeAnd tail) ≠ none ↔ typeAnd tail text ≠ none := by
  constructor
  · intro reads
    obtain ⟨⟨bare, found⟩, read⟩ := Option.ne_none_iff_exists'.mp reads
    obtain ⟨type, readText, -⟩ := (findSome?_afterModifiers_typeAnd marked ends flush).mp read
    simp [readText]
  · intro reads nothing
    exact reads (List.findSome?_eq_none_iff.mp nothing text (mem_afterModifiers text))

theorem findSome?_starts_typeAnd (marked : Marked mark tail) (ends : EndsFreely tail)
    {bare : List Char} :
    (starts line).findSome? (typeAnd tail) = some (bare, found) ↔ ∃ place type,
      Farthest (BehindAttributes line) (typeAnd tail · ≠ none) place ∧
        typeAnd tail place = some (type, found) ∧
        Farthest (BehindModifiers type) (· ≠ []) bare := by
  rw [findSome?_starts_eq_some_iff (unbiased_typeAnd ends)]
  refine exists_congr fun place => ?_
  rw [exists_and_left]
  rw [Farthest.congr (fun _ _ => Iff.rfl) fun _ _ there =>
    findSome?_afterModifiers_typeAnd_ne_none marked ends there.flush]
  refine and_congr_right fun farthest => ?_
  obtain ⟨_, there, -⟩ := farthest
  exact findSome?_afterModifiers_typeAnd marked ends there.flush

end Types

/-- A member is read in the lines that declare one, if `tail` reads the ends of declarations. -/
theorem read_memberLine {tail : List Char → Option α} {Ends Wanted : List Char → Prop}
    {nameOf : α → Option (List Char)} (marked : Marked mark tail) (ends : EndsFreely tail)
    (declares : ∀ place ⊆ line,
      typeAnd tail place ≠ none ↔ ∃ type name, Declares Ends place type name)
    (wanted : ∀ place ⊆ line, ∀ type name,
      (∃ found, typeAnd tail place = some (type, found) ∧ nameOf found = some name) ↔
        Declares Wanted place type name) (member : Member) :
    (((starts line).findSome? (typeAnd tail)).bind fun read =>
        (nameOf read.2).bind (member? read.1)) = some member ↔
      MemberLine Ends Wanted line member := by
  have farthest {place : List Char} :
      Farthest (BehindAttributes line) (typeAnd tail · ≠ none) place ↔
        Farthest (BehindAttributes line) (fun place => ∃ type name, Declares Ends place type name)
          place :=
    Farthest.congr (fun _ _ => Iff.rfl) fun _ _ there => declares _ there.subset
  simp only [Option.bind_eq_some_iff, Prod.exists, findSome?_starts_typeAnd marked ends,
    member?_eq_some_iff, farthest]
  constructor
  · rintro ⟨bare, found, ⟨place, type, last, read, rid⟩, name, named, rfl, word, paired⟩
    obtain ⟨_, there, -⟩ := id last
    exact ⟨place, type, bare, last, (wanted place there.subset type name).mp ⟨found, read, named⟩,
      rid, rfl, word, paired⟩
  · rintro ⟨place, type, bare, last, declared, rid, same, word, paired⟩
    obtain ⟨_, there, -⟩ := id last
    obtain ⟨found, read, named⟩ := (wanted place there.subset type member.name).mpr declared
    rw [same] at word paired
    refine ⟨bare, found, ⟨place, type, last, read, rid⟩, member.name, named, ?_, word, paired⟩
    rw [← same]

theorem field?_eq_some_iff (whole : '\n' ∉ line) (member : Member) :
    field? line = some member ↔ MemberLine FieldEnd FieldEnd line member := by
  have reads (place : List Char) (inLine : place ⊆ line) (type name : List Char) :
      typeAnd fieldTail? place = some (type, name) ↔ Declares FieldEnd place type name :=
    typeAnd_iff_declares marked_fieldTail? fun behind inPlace =>
      fieldTail?_eq_some_iff fun newline => whole (inLine (inPlace newline))
  have same : field? line = ((starts line).findSome? (typeAnd fieldTail?)).bind
      fun read => (some read.2).bind (member? read.1) := by
    unfold field?
    cases (starts line).findSome? (typeAnd fieldTail?) <;> rfl
  rw [same]
  refine read_memberLine marked_fieldTail? endsFreely_fieldTail? ?_ ?_ member
  · intro place inLine
    simp only [Option.ne_none_iff_exists', Prod.exists, reads place inLine]
  · intro place inLine type name
    simp [reads place inLine]

/-- The name in what is read of a property that no initial value follows. -/
def plainName? : List Char × Bool → Option (List Char)
  | (name, initialised) => if initialised then none else some name

theorem typeAnd_propertyTail?_eq_some_iff {initialised : Bool} :
    typeAnd propertyTail? text = some (type, name, initialised) ↔
      Declares (PropertyEndWith initialised) text type name :=
  typeAnd_iff_declares marked_propertyTail? fun behind _ => by
    rw [propertyTail?_eq_some_iff]
    simp only [exists_and_left, PropertyEndWith]

theorem property?_eq_some_iff (member : Member) :
    property? line = some member ↔ MemberLine PropertyEnd PlainPropertyEnd line member := by
  have same : property? line = ((starts line).findSome? (typeAnd propertyTail?)).bind
      fun read => (plainName? read.2).bind (member? read.1) := by
    unfold property?
    cases (starts line).findSome? (typeAnd propertyTail?) with
    | none => rfl
    | some read =>
        obtain ⟨bare, name, initialised⟩ := read
        cases initialised <;> rfl
  rw [same]
  refine read_memberLine marked_propertyTail? endsFreely_propertyTail? ?_ ?_ member
  · intro place _
    simp only [Option.ne_none_iff_exists', Prod.exists, typeAnd_propertyTail?_eq_some_iff, Declares,
      ← exists_propertyEndWith_iff]
    constructor
    · rintro ⟨type, name, initialised, isType, behind, ending, whole, named, ends⟩
      exact ⟨type, name, isType, behind, ending, whole, named, initialised, ends⟩
    · rintro ⟨type, name, isType, behind, ending, whole, named, initialised, ends⟩
      exact ⟨type, name, initialised, isType, behind, ending, whole, named, ends⟩
  · intro place _ type name
    simp [plainName?, typeAnd_propertyTail?_eq_some_iff, Declares, propertyEndWith_false_iff]

/-- What the two rules read in a line is what the line declares. -/
theorem rules_read_memberLine (whole : '\n' ∉ line) (member : Member) :
    (field? line = some member ↔ MemberLine FieldEnd FieldEnd line member) ∧
      (property? line = some member ↔ MemberLine PropertyEnd PlainPropertyEnd line member) :=
  ⟨field?_eq_some_iff whole member, property?_eq_some_iff member⟩

/-- The attribute is passed on the way to a field, but not on the way to a property. -/
theorem rules_read_memberLine_attribute :
    let line := "  [A b \x7b get; \x7d] public static int[] x ; // y".toList
    '\n' ∉ line ∧ MemberLine FieldEnd FieldEnd line ⟨"int[]".toList, ['x']⟩ ∧
      MemberLine PropertyEnd PlainPropertyEnd line ⟨"[A".toList, ['b']⟩ := by
  intro line
  have whole : '\n' ∉ line := by decide
  exact ⟨whole, (rules_read_memberLine whole _).1.mp (by decide +kernel),
    (rules_read_memberLine whole _).2.mp (by decide +kernel)⟩

end ConstructorAction.Source
