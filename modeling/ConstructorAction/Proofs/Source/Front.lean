import ConstructorAction.Proofs.Source.Found

namespace ConstructorAction.Source

open ConstructorAction.Text

/-!
What stands in front of a declaration, said without the reader: attribute groups and modifiers,
each with the blanks behind it. A reader that goes on wherever it can stops at the last place that
will do (`Greedy.eq_some_iff`), and the steps to a place are pieces of the text that are cut in one
way only (`Pieces.leads_iff`, `Pieces.unique`).
-/

variable {α π : Type} {text rest place name : List Char} {count : Nat}

/-- The first character of a text, if there is one, is not of a kind. -/
def StartsWithout (p : Char → Bool) (text : List Char) : Prop :=
  ∀ c, text.head? = some c → p c = false

/-- No blank is in front of a text. -/
abbrev Flush (text : List Char) : Prop := StartsWithout isBlank text

theorem StartsWithout.cons {p : Char → Bool} {c : Char} (other : p c = false) (rest : List Char) :
    StartsWithout p (c :: rest) := by
  intro first same
  obtain rfl := Option.some.inj same
  exact other

theorem StartsWithout.append {p : Char → Bool} (present : text ≠ [])
    (starts : StartsWithout p text) (rest : List Char) : StartsWithout p (text ++ rest) := by
  obtain ⟨c, more, rfl⟩ := List.exists_cons_of_ne_nil present
  exact .cons (starts c rfl) _

theorem StartsWithout.of_append {p : Char → Bool} (starts : StartsWithout p (text ++ rest)) :
    StartsWithout p text := by
  intro c first
  exact starts c (by rw [List.head?_append, first, Option.some_or])

theorem flush_trimStart (text : List Char) : Flush (trimStart text) := by
  intro c first
  obtain ⟨more, start⟩ := List.head?_eq_some_iff.mp first
  exact visible_of_trimStart start

theorem takeWhile_run {p : Char → Bool} {run : List Char} (all : ∀ c ∈ run, p c = true)
    (stops : StartsWithout p rest) : (run ++ rest).takeWhile p = run := by
  rw [List.takeWhile_append_of_pos all]
  cases rest with
  | nil => simp
  | cons c more => simp [stops c rfl]

theorem dropWhile_run {p : Char → Bool} {run : List Char} (all : ∀ c ∈ run, p c = true)
    (stops : StartsWithout p rest) : (run ++ rest).dropWhile p = rest := by
  rw [List.dropWhile_append_of_pos all]
  cases rest with
  | nil => simp
  | cons c more => simp [stops c rfl]

/-- A run of one kind of characters ends where the next kind starts. -/
theorem run_unique {p : Char → Bool} {run other more : List Char} (all : ∀ c ∈ run, p c = true)
    (stops : StartsWithout p rest) (allOther : ∀ c ∈ other, p c = true)
    (stopsOther : StartsWithout p more) (same : run ++ rest = other ++ more) :
    run = other ∧ rest = more := by
  constructor
  · rw [← takeWhile_run all stops, same, takeWhile_run allOther stopsOther]
  · rw [← dropWhile_run all stops, same, dropWhile_run allOther stopsOther]

theorem trimStart_gap {gap : List Char} (blank : Blanks gap) (flush : Flush rest) :
    trimStart (gap ++ rest) = rest :=
  dropWhile_run blank flush

/-- The last of the places that are reached, of those that will do. -/
def Farthest (Reached : Nat → List Char → Prop) (Will : List Char → Prop) (place : List Char) :
    Prop :=
  ∃ count, Reached count place ∧ Will place ∧
    ∀ more other, count < more → Reached more other → ¬ Will other

theorem Farthest.congr {Reached Alike : Nat → List Char → Prop} {Will Likewise : List Char → Prop}
    (reached : ∀ count place, Reached count place ↔ Alike count place)
    (will : ∀ count place, Reached count place → (Will place ↔ Likewise place)) :
    Farthest Reached Will place ↔ Farthest Alike Likewise place := by
  refine exists_congr fun count => ?_
  rw [← reached count place]
  refine and_congr_right fun here => and_congr (will count place here) ?_
  refine forall₃_congr fun more other later => ?_
  rw [← reached more other]
  exact forall_congr' fun there => not_congr (will more other there)

/-- Some number of steps lead from a text to a place. All blanks behind a step belong to it. -/
inductive Leads (step : List Char → Option (List Char)) : Nat → List Char → List Char → Prop
  | here (text : List Char) : Leads step 0 text text
  | next {count : Nat} {text rest place : List Char} (taken : step text = some rest)
      (later : Leads step count (trimStart rest) place) : Leads step (count + 1) text place

section Steps

variable {step : List Char → Option (List Char)} {Will : List Char → Prop}

theorem Leads.unique {other : List Char} (one : Leads step count text place)
    (two : Leads step count text other) : place = other := by
  induction one with
  | here text =>
      cases two
      rfl
  | next taken _ ih =>
      cases two with
      | next again later =>
          obtain rfl := Option.some.inj (taken.symm.trans again)
          exact ih later

theorem Farthest.unique {other : List Char} (one : Farthest (Leads step · text) Will place)
    (two : Farthest (Leads step · text) Will other) : place = other := by
  obtain ⟨count, leads, will, last⟩ := one
  obtain ⟨more, leadsOther, willOther, lastOther⟩ := two
  rcases Nat.lt_trichotomy count more with before | rfl | behind
  · exact absurd willOther (last more other before leadsOther)
  · exact leads.unique leadsOther
  · exact absurd will (lastOther count place behind leads)

theorem Farthest.next (taken : step text = some rest)
    (farthest : Farthest (Leads step · (trimStart rest)) Will place) :
    Farthest (Leads step · text) Will place := by
  obtain ⟨count, leads, will, last⟩ := farthest
  refine ⟨count + 1, .next taken leads, will, ?_⟩
  intro more other beyond there
  cases there with
  | here => omega
  | next again there =>
      obtain rfl := Option.some.inj (taken.symm.trans again)
      exact last _ other (by omega) there

theorem farthest_here (will : Will text)
    (nothing : ∀ {count rest other}, step text = some rest →
      Leads step count (trimStart rest) other → ¬ Will other) :
    Farthest (Leads step · text) Will text := by
  refine ⟨0, .here text, will, ?_⟩
  intro more other beyond there
  cases there with
  | here => omega
  | next taken later => exact nothing taken later

/-- Where no step can be taken no place is farther. -/
theorem farthest_of_stuck (leads : Leads step count text place) (stuck : step place = none)
    (will : Will place) : Farthest (Leads step · text) Will place := by
  induction leads with
  | here text =>
      refine farthest_here will fun {_ _ _} taken _ => ?_
      rw [stuck] at taken
      cases taken
  | next taken _ ih => exact (ih stuck will).next taken

/-- A reader that takes a step wherever there is something to read behind it. -/
def Greedy (step : List Char → Option (List Char)) (read all : List Char → Option α) : Prop :=
  ∀ text, all text = match step text with
    | none => read text
    | some rest => (all (trimStart rest)).or (read text)

variable {read all : List Char → Option α}

theorem Greedy.eq_none_of_leads (greedy : Greedy step read all)
    (leads : Leads step count text place) (nothing : all text = none) : read place = none := by
  induction leads with
  | here text =>
      rw [greedy text] at nothing
      split at nothing
      · exact nothing
      · exact (Option.or_eq_none_iff.mp nothing).2
  | next taken _ ih =>
      rw [greedy, taken] at nothing
      exact ih (Option.or_eq_none_iff.mp nothing).1

theorem Greedy.exists_farthest (greedy : Greedy step read all)
    (shorter : ∀ {text rest}, step text = some rest → rest.length < text.length) {found : α}
    (reads : all text = some found) :
    ∃ place, Farthest (Leads step · text) (read · ≠ none) place ∧ read place = some found := by
  -- On the length of the text: less of it is left behind a step and the blanks that belong to it.
  induction size : text.length using Nat.strongRecOn generalizing text with
  | ind size ih =>
      subst size
      have sameText := greedy text
      rw [reads] at sameText
      cases taken : step text with
      | none =>
          rw [taken] at sameText
          exact ⟨text, farthest_of_stuck (.here text) taken (by simp [← sameText]), sameText.symm⟩
      | some rest =>
          rw [taken] at sameText
          have smaller : (trimStart rest).length < text.length :=
            Nat.lt_of_le_of_lt (length_trimStart_le rest) (shorter taken)
          rcases Option.or_eq_some_iff.mp sameText.symm with later | ⟨nothing, here⟩
          · obtain ⟨place, farthest, atPlace⟩ := ih _ smaller later rfl
            exact ⟨place, farthest.next taken, atPlace⟩
          · refine ⟨text, farthest_here (by simp [here]) fun {_ _ _} again there => ?_, here⟩
            obtain rfl := Option.some.inj (taken.symm.trans again)
            simp [greedy.eq_none_of_leads there nothing]

/-- A greedy reader reads at the last place where there is something to read. -/
theorem Greedy.eq_some_iff (greedy : Greedy step read all)
    (shorter : ∀ {text rest}, step text = some rest → rest.length < text.length) {found : α} :
    all text = some found ↔
      ∃ place, Farthest (Leads step · text) (read · ≠ none) place ∧ read place = some found := by
  constructor
  · exact greedy.exists_farthest shorter
  · rintro ⟨place, farthest, atPlace⟩
    cases reads : all text with
    | none =>
        obtain ⟨count, leads, -, -⟩ := farthest
        rw [greedy.eq_none_of_leads leads reads] at atPlace
        cases atPlace
    | some result =>
        obtain ⟨other, farthestOther, atOther⟩ := greedy.exists_farthest shorter reads
        obtain rfl := farthest.unique farthestOther
        rw [← atOther, atPlace]

end Steps

/-- Each step passes one piece of a kind, which stands in front of what is no blank. -/
structure Pieces (step : List Char → Option (List Char)) (written : π → List Char) : Prop where
  taken {text rest : List Char} (step : step text = some rest) :
    ∃ piece, text = written piece ++ trimStart rest
  takes (piece : π) {place : List Char} (flush : Flush place) :
    ∃ rest, step (written piece ++ place) = some rest ∧ trimStart rest = place
  flush (piece : π) (place : List Char) : Flush (written piece ++ place)
  unique {piece other : π} {place more : List Char} (flush : Flush place) (flushMore : Flush more)
    (same : written piece ++ place = written other ++ more) : piece = other ∧ place = more

namespace Pieces

variable {step : List Char → Option (List Char)} {written : π → List Char}

theorem flush_flatMap (pieces : Pieces step written) (list : List π) (flush : Flush place) :
    Flush (list.flatMap written ++ place) := by
  cases list with
  | nil => exact flush
  | cons piece later =>
      rw [List.flatMap_cons, List.append_assoc]
      exact pieces.flush piece _

theorem leads_iff (pieces : Pieces step written) (flush : Flush text) :
    Leads step count text place ↔ ∃ list : List π, list.length = count ∧
      text = list.flatMap written ++ place ∧ Flush place := by
  constructor
  · intro leads
    induction leads with
    | here text => exact ⟨[], rfl, rfl, flush⟩
    | @next count text rest place taken _ ih =>
        obtain ⟨piece, whole⟩ := pieces.taken taken
        obtain ⟨later, length, same, flushPlace⟩ := ih (flush_trimStart rest)
        refine ⟨piece :: later, by rw [List.length_cons, length], ?_, flushPlace⟩
        rw [whole, same, List.flatMap_cons, List.append_assoc]
  · rintro ⟨list, rfl, rfl, flushPlace⟩
    clear flush
    induction list with
    | nil => exact .here place
    | cons piece later ih =>
        rw [List.flatMap_cons, List.append_assoc]
        obtain ⟨rest, taken, trimmed⟩ := pieces.takes piece (pieces.flush_flatMap later flushPlace)
        rw [← trimmed] at ih
        exact .next taken ih

/-- Pieces up to a place that no further piece starts at are cut in one way. -/
theorem list_unique (pieces : Pieces step written) {list others : List π} {more : List Char}
    (flush : Flush place) (flushMore : Flush more) (ends : step place = none)
    (endsMore : step more = none)
    (same : list.flatMap written ++ place = others.flatMap written ++ more) :
    list = others ∧ place = more := by
  have starts (piece : π) (later : List π) {end_ : List Char} (flushEnd : Flush end_) :
      step ((piece :: later).flatMap written ++ end_) ≠ none := by
    obtain ⟨rest, taken, -⟩ := pieces.takes piece (pieces.flush_flatMap later flushEnd)
    rw [List.flatMap_cons, List.append_assoc, taken]
    exact Option.some_ne_none rest
  induction list generalizing others with
  | nil =>
      cases others with
      | nil => exact ⟨rfl, same⟩
      | cons other others => exact absurd (same ▸ ends) (starts other others flushMore)
  | cons piece later ih =>
      cases others with
      | nil => exact absurd (same ▸ endsMore) (starts piece later flush)
      | cons other others =>
          rw [List.flatMap_cons, List.flatMap_cons, List.append_assoc, List.append_assoc] at same
          obtain ⟨rfl, rest⟩ := pieces.unique (pieces.flush_flatMap later flush)
            (pieces.flush_flatMap others flushMore) same
          obtain ⟨rfl, placed⟩ := ih rest
          exact ⟨rfl, placed⟩

end Pieces

theorem identifier?_eq_some_iff : identifier? text = some (name, rest) ↔
    text = name ++ rest ∧ isIdentifier name = true ∧ StartsWithout isWordChar rest := by
  constructor
  · intro found
    cases text with
    | nil => cases found
    | cons c more =>
        simp only [identifier?, Option.ite_none_right_eq_some, Option.some.injEq,
          Prod.mk.injEq] at found
        obtain ⟨start, rfl, rfl⟩ := found
        refine ⟨by simp, ?_, ?_⟩
        · simp [isIdentifier, start]
        · intro first same
          have stops := List.head?_dropWhile_not isWordChar more
          rw [same] at stops
          exact stops
  · rintro ⟨rfl, named, stops⟩
    cases name with
    | nil => cases named
    | cons c more =>
        obtain ⟨start, all⟩ := Bool.and_eq_true_iff.mp named
        have words := List.all_eq_true.mp all
        simp only [List.cons_append, identifier?, if_pos start, takeWhile_run words stops,
          dropWhile_run words stops]

theorem ne_nil_of_isIdentifier (named : isIdentifier name = true) : name ≠ [] := by
  rintro rfl
  cases named

theorem flush_of_isIdentifier (named : isIdentifier name = true) (rest : List Char) :
    Flush (name ++ rest) := by
  refine .append (ne_nil_of_isIdentifier named) ?_ rest
  intro c first
  exact visible_of_isIdentifier named c (List.mem_of_head? first)

/-- What is inside of the brackets of an attribute group, and the blanks behind it. -/
structure Attribute where
  inside : List Char
  gap : List Char
  closed : ']' ∉ inside
  blank : Blanks gap

def Attribute.written (group : Attribute) : List Char :=
  '[' :: group.inside ++ ']' :: group.gap

theorem afterAttribute?_eq_some_iff : afterAttribute? text = some rest ↔
    ∃ inside, ']' ∉ inside ∧ text = '[' :: inside ++ ']' :: rest := by
  constructor
  · intro found
    unfold afterAttribute? at found
    split at found
    · next inner =>
        split at found
        · next after closing =>
            obtain rfl := Option.some.inj found
            refine ⟨inner.takeWhile (· != ']'), fun member => ?_, ?_⟩
            · have kept := List.mem_takeWhile_imp member
              exact absurd kept (by decide)
            · rw [List.cons_append, ← closing, List.takeWhile_append_dropWhile]
        · cases found
    · cases found
  · rintro ⟨inside, closed, rfl⟩
    have passed : ∀ c ∈ inside, (c != ']') = true := by
      intro c member
      simpa using fun same : c = ']' => closed (same ▸ member)
    have stop : (inside ++ ']' :: rest).dropWhile (· != ']') = ']' :: rest :=
      dropWhile_run passed (.cons (by decide) rest)
    simp only [afterAttribute?, List.cons_append, stop]

theorem pieces_attributes : Pieces afterAttribute? Attribute.written where
  taken {text rest} step := by
    obtain ⟨inside, closed, rfl⟩ := afterAttribute?_eq_some_iff.mp step
    obtain ⟨gap, blank, same⟩ := exists_trimStart rest
    refine ⟨⟨inside, gap, closed, blank⟩, ?_⟩
    simp only [Attribute.written, List.cons_append, List.append_assoc, ← same]
  takes group place flush := by
    refine ⟨group.gap ++ place, ?_, trimStart_gap group.blank flush⟩
    refine afterAttribute?_eq_some_iff.mpr ⟨group.inside, group.closed, ?_⟩
    simp [Attribute.written]
  flush group place := .cons (by decide) _
  unique {one other place more} flush flushMore same := by
    simp only [Attribute.written, List.cons_append, List.append_assoc, List.cons.injEq,
      true_and] at same
    have inside (group : Attribute) : ∀ c ∈ group.inside, (c != ']') = true := by
      intro c member
      simpa using fun same : c = ']' => group.closed (same ▸ member)
    obtain ⟨sameInside, behind⟩ := run_unique (inside one) (.cons (by decide) _) (inside other)
      (.cons (by decide) _) same
    obtain ⟨-, behind⟩ := List.cons.inj behind
    obtain ⟨sameGap, placed⟩ := run_unique one.blank flush other.blank flushMore behind
    obtain ⟨inside, gap, closed, blank⟩ := one
    obtain ⟨insideOther, gapOther, closedOther, blankOther⟩ := other
    cases sameInside
    cases sameGap
    exact ⟨rfl, placed⟩

/-- A word of a list, and the blanks behind it, of which there is one at least. -/
structure SpacedWord (known : List (List Char)) where
  word : List Char
  gap : List Char
  listed : word ∈ known
  blank : Blanks gap
  apart : gap ≠ []

def SpacedWord.written {known : List (List Char)} (spaced : SpacedWord known) : List Char :=
  spaced.word ++ spaced.gap

/-- A modifier of a declaration, and the blanks behind it. -/
abbrev Modifier := SpacedWord (["public", "private", "protected", "internal", "abstract", "sealed",
  "static", "readonly", "ref", "virtual", "override", "new", "required", "volatile",
  "unsafe"].map String.toList)

/-- Words that are identifiers: none of them is empty or holds a blank. -/
structure Plain (known : List (List Char)) : Prop where
  identifiers : ∀ word ∈ known, isIdentifier word = true

theorem plain_modifierWords : Plain modifierWords := ⟨by decide⟩

theorem plain_typeKeywords : Plain typeKeywords := ⟨by decide⟩

theorem plain_accessWords : Plain accessWords := ⟨by decide⟩

namespace Plain

variable {known : List (List Char)}

theorem visible (plain : Plain known) (spaced : SpacedWord known) :
    ∀ c ∈ spaced.word, (!isBlank c) = true := by
  intro c inWord
  have identifier := plain.identifiers spaced.word spaced.listed
  rw [visible_of_isIdentifier identifier c inWord, Bool.not_false]

theorem startsWithout_gap {gap : List Char} (blank : Blanks gap) (apart : gap ≠ [])
    (rest : List Char) : StartsWithout (fun c => !isBlank c) (gap ++ rest) := by
  obtain ⟨c, more, rfl⟩ := List.exists_cons_of_ne_nil apart
  exact .cons (by simp [blank.head]) _

theorem firstWord_written (plain : Plain known) (spaced : SpacedWord known) (rest : List Char) :
    firstWord (spaced.written ++ rest) = (spaced.word, spaced.gap ++ rest) := by
  have stops := startsWithout_gap spaced.blank spaced.apart rest
  rw [SpacedWord.written, List.append_assoc, firstWord,
    takeWhile_run (plain.visible spaced) stops, dropWhile_run (plain.visible spaced) stops]

theorem afterWord?_of_unlisted (plain : Plain known) {others : List (List Char)}
    (spaced : SpacedWord known) (unlisted : spaced.word ∉ others) (rest : List Char) :
    afterWord? others (spaced.written ++ rest) = none := by
  simp [afterWord?, plain.firstWord_written, unlisted]

theorem afterWord?_eq_some_iff (plain : Plain known) : afterWord? known text = some rest ↔
    ∃ spaced : SpacedWord known, text = spaced.written ++ trimStart rest ∧
      rest = spaced.gap ++ trimStart rest := by
  constructor
  · intro found
    simp only [afterWord?, firstWord, Option.ite_none_right_eq_some, Option.some.injEq,
      Bool.and_eq_true, List.contains_iff_mem, Bool.not_eq_true', List.isEmpty_eq_false_iff]
      at found
    obtain ⟨⟨member, present⟩, same⟩ := found
    rw [same] at present
    obtain ⟨gap, blank, form⟩ := exists_trimStart rest
    have apart : gap ≠ [] := by
      rintro rfl
      have first := List.head?_dropWhile_not (fun c => !isBlank c) text
      rw [same] at first
      obtain ⟨c, more, start⟩ := List.exists_cons_of_ne_nil present
      have visible := visible_of_trimStart (form.symm.trans start)
      rw [start] at first
      simp [visible] at first
    refine ⟨⟨_, gap, member, blank, apart⟩, ?_, form⟩
    rw [SpacedWord.written, List.append_assoc, ← form, ← same, List.takeWhile_append_dropWhile]
  · rintro ⟨spaced, whole, form⟩
    have present : rest ≠ [] := by
      rw [form]
      simp [spaced.apart]
    rw [whole]
    simp [afterWord?, plain.firstWord_written, spaced.listed, ← form, present]

theorem pieces (plain : Plain known) :
    Pieces (afterWord? known) fun spaced : SpacedWord known => spaced.written where
  taken {text rest} step := by
    obtain ⟨spaced, whole, -⟩ := plain.afterWord?_eq_some_iff.mp step
    exact ⟨spaced, whole⟩
  takes spaced place flush := by
    have trimmed := trimStart_gap spaced.blank flush
    refine ⟨spaced.gap ++ place, ?_, trimmed⟩
    exact plain.afterWord?_eq_some_iff.mpr ⟨spaced, by rw [trimmed], by rw [trimmed]⟩
  flush spaced place := by
    rw [SpacedWord.written, List.append_assoc]
    exact flush_of_isIdentifier (plain.identifiers spaced.word spaced.listed) _
  unique {one other place more} flush flushMore same := by
    rw [SpacedWord.written, SpacedWord.written, List.append_assoc, List.append_assoc] at same
    obtain ⟨sameWord, behind⟩ :=
      run_unique (plain.visible one) (startsWithout_gap one.blank one.apart _)
        (plain.visible other) (startsWithout_gap other.blank other.apart _) same
    obtain ⟨sameGap, placed⟩ := run_unique one.blank flush other.blank flushMore behind
    obtain ⟨word, gap, known, blank, apart⟩ := one
    obtain ⟨wordOther, gapOther, knownOther, blankOther, apartOther⟩ := other
    cases sameWord
    cases sameGap
    exact ⟨rfl, placed⟩

end Plain

theorem pieces_modifiers :
    Pieces (afterWord? modifierWords) fun modifier : Modifier => modifier.written :=
  plain_modifierWords.pieces

/-- Some number of attribute groups, and all blanks around them, stand in front of a place. -/
def BehindAttributes (line : List Char) (count : Nat) (place : List Char) : Prop :=
  ∃ (margin : List Char) (attributes : List Attribute), Blanks margin ∧
    attributes.length = count ∧ line = margin ++ attributes.flatMap Attribute.written ++ place ∧
    Flush place

/-- Some number of modifiers stand in front of a place. -/
def BehindModifiers (text : List Char) (count : Nat) (place : List Char) : Prop :=
  ∃ modifiers : List Modifier, modifiers.length = count ∧
    text = modifiers.flatMap SpacedWord.written ++ place ∧ Flush place

theorem leads_attributes_iff {line : List Char} :
    Leads afterAttribute? count (trimStart line) place ↔ BehindAttributes line count place := by
  rw [pieces_attributes.leads_iff (flush_trimStart line)]
  constructor
  · rintro ⟨attributes, length, same, flush⟩
    obtain ⟨margin, blank, whole⟩ := exists_trimStart line
    exact ⟨margin, attributes, blank, length, by rw [List.append_assoc, ← same, ← whole], flush⟩
  · rintro ⟨margin, attributes, blank, length, rfl, flush⟩
    refine ⟨attributes, length, ?_, flush⟩
    rw [List.append_assoc, trimStart_gap blank (pieces_attributes.flush_flatMap attributes flush)]

theorem leads_modifiers_iff (flush : Flush text) :
    Leads (afterWord? modifierWords) count text place ↔ BehindModifiers text count place :=
  pieces_modifiers.leads_iff flush

theorem BehindAttributes.flush {line : List Char} (behind : BehindAttributes line count place) :
    Flush place := by
  obtain ⟨-, -, -, -, -, flush⟩ := behind
  exact flush

theorem BehindAttributes.subset {line : List Char} (behind : BehindAttributes line count place) :
    place ⊆ line := by
  obtain ⟨-, -, -, -, rfl, -⟩ := behind
  exact List.subset_append_right _ place

section Readers

variable {read : List Char → Option α} {line : List Char} {found : α}

theorem farthest_behindAttributes {Will : List Char → Prop}
    (behind : BehindAttributes line count place) (stuck : afterAttribute? place = none)
    (will : Will place) : Farthest (BehindAttributes line) Will place :=
  (Farthest.congr (fun _ _ => leads_attributes_iff) fun _ _ _ => Iff.rfl).mp
    (farthest_of_stuck (leads_attributes_iff.mpr behind) stuck will)

theorem farthest_behindModifiers {Will : List Char → Prop} (flush : Flush text)
    (behind : BehindModifiers text count place) (stuck : afterWord? modifierWords place = none)
    (will : Will place) : Farthest (BehindModifiers text) Will place :=
  (Farthest.congr (fun _ _ => leads_modifiers_iff flush) fun _ _ _ => Iff.rfl).mp
    (farthest_of_stuck ((leads_modifiers_iff flush).mpr behind) stuck will)

/-- What is read in a line is read behind the last attribute group that will do. -/
theorem findSome?_starts_eq_some_iff (unbiased : Unbiased read) :
    (starts line).findSome? read = some found ↔
      ∃ place, Farthest (BehindAttributes line)
          (fun place => (afterModifiers place).findSome? read ≠ none) place ∧
        (afterModifiers place).findSome? read = some found := by
  have greedy : Greedy afterAttribute? (fun place => (afterModifiers place).findSome? read)
      fun text => (afterAttributes text).findSome? fun place =>
        (afterModifiers place).findSome? read :=
    findSome?_afterAttributes unbiased.afterModifiers
  rw [findSome?_starts unbiased, greedy.eq_some_iff length_afterAttribute?_lt]
  refine exists_congr fun place => and_congr_left' ?_
  exact Farthest.congr (fun _ _ => leads_attributes_iff) fun _ _ _ => Iff.rfl

/-- And behind the last modifier that will do. -/
theorem findSome?_afterModifiers_eq_some_iff (unbiased : Unbiased read) (flush : Flush text) :
    (afterModifiers text).findSome? read = some found ↔
      ∃ place, Farthest (BehindModifiers text) (read · ≠ none) place ∧ read place = some found := by
  have greedy : Greedy (afterWord? modifierWords) read fun text =>
      (afterModifiers text).findSome? read := findSome?_afterModifiers unbiased
  rw [greedy.eq_some_iff (length_afterWord?_lt nil_notMem_modifierWords)]
  refine exists_congr fun place => and_congr_left' ?_
  exact Farthest.congr (fun _ _ => leads_modifiers_iff flush) fun _ _ _ => Iff.rfl

end Readers

end ConstructorAction.Source
