import ConstructorAction.Text.Blank
import Mathlib.Data.List.TakeWhile

namespace ConstructorAction.Text

/-!
Texts that differ in the blanks at their ends. Such texts have one trimmed form (`trim_append`), and
what stops at a blank reads the same in both (`takeWhile_append_blanks`).
-/

def Blanks (text : List Char) : Prop := ∀ c ∈ text, isBlank c = true

variable {blanks text : List Char}

namespace Blanks

theorem nil : Blanks [] := by simp [Blanks]

theorem cons {c : Char} (blank : isBlank c = true) (later : Blanks text) : Blanks (c :: text) :=
  List.forall_mem_cons.mpr ⟨blank, later⟩

theorem head {c : Char} (all : Blanks (c :: text)) : isBlank c = true :=
  all c List.mem_cons_self

theorem tail {c : Char} (all : Blanks (c :: text)) : Blanks text :=
  fun other member => all other (List.mem_cons_of_mem c member)

theorem replicate (count : Nat) : Blanks (List.replicate count ' ') := by
  intro c member
  rw [List.eq_of_mem_replicate member]
  decide

theorem reverse (all : Blanks text) : Blanks text.reverse :=
  fun c member => all c (List.mem_reverse.mp member)

end Blanks

theorem isBlank_ne {c other : Char} (blank : isBlank c = true) (visible : isBlank other = false) :
    c ≠ other := by
  rintro rfl
  rw [blank] at visible
  cases visible

theorem trimStart_cons_of_blank {c : Char} (blank : isBlank c = true) (rest : List Char) :
    trimStart (c :: rest) = trimStart rest := by
  simp [trimStart, blank]

theorem trimStart_cons_of_visible {c : Char} (visible : isBlank c = false) (rest : List Char) :
    trimStart (c :: rest) = c :: rest := by
  simp [trimStart, visible]

theorem trimStart_append_left (blank : Blanks blanks) (text : List Char) :
    trimStart (blanks ++ text) = trimStart text := by
  induction blanks with
  | nil => rfl
  | cons c later ih =>
      rw [List.cons_append, trimStart_cons_of_blank blank.head]
      exact ih blank.tail

theorem trimStart_of_blanks (blank : Blanks blanks) : trimStart blanks = [] := by
  simpa using trimStart_append_left blank []

/-- Blanks behind a text are kept if something in front of them is. -/
theorem trimStart_append_right (blank : Blanks blanks) (text : List Char) :
    trimStart text ≠ [] ∧ trimStart (text ++ blanks) = trimStart text ++ blanks ∨
      trimStart text = [] ∧ trimStart (text ++ blanks) = [] := by
  unfold trimStart
  rw [List.dropWhile_append]
  by_cases empty : text.dropWhile isBlank = []
  · refine .inr ⟨empty, ?_⟩
    rw [empty, List.isEmpty_nil, if_pos rfl]
    exact trimStart_of_blanks blank
  · refine .inl ⟨empty, ?_⟩
    rw [if_neg (by simpa using empty)]

theorem exists_trimStart (text : List Char) :
    ∃ blanks, Blanks blanks ∧ text = blanks ++ trimStart text :=
  ⟨text.takeWhile isBlank, fun _ member => List.mem_takeWhile_imp member,
    List.takeWhile_append_dropWhile.symm⟩

theorem mem_of_mem_trimStart {c : Char} (member : c ∈ trimStart text) : c ∈ text :=
  (List.dropWhile_sublist isBlank).subset member

theorem visible_of_trimStart {c : Char} {rest : List Char} (start : trimStart text = c :: rest) :
    isBlank c = false := by
  have first := List.head?_dropWhile_not isBlank text
  rw [show text.dropWhile isBlank = c :: rest from start] at first
  exact first

theorem trimStart_trimStart (text : List Char) : trimStart (trimStart text) = trimStart text := by
  cases start : trimStart text with
  | nil => rfl
  | cons c rest => exact trimStart_cons_of_visible (visible_of_trimStart start) rest

theorem trimEnd_append (blank : Blanks blanks) (text : List Char) :
    trimEnd (text ++ blanks) = trimEnd text := by
  have front := trimStart_append_left blank.reverse text.reverse
  unfold trimStart at front
  rw [trimEnd, List.reverse_append, front, trimEnd]

theorem exists_trimEnd (text : List Char) :
    ∃ blanks, Blanks blanks ∧ text = trimEnd text ++ blanks := by
  obtain ⟨blanks, blank, same⟩ := exists_trimStart text.reverse
  refine ⟨blanks.reverse, blank.reverse, ?_⟩
  rw [trimEnd, ← List.reverse_append]
  exact List.reverse_eq_iff.mp same

theorem trimEnd_trimEnd (text : List Char) : trimEnd (trimEnd text) = trimEnd text := by
  obtain ⟨blanks, blank, same⟩ := exists_trimEnd text
  rw [← trimEnd_append blank (trimEnd text), ← same]

theorem visible_of_getLast?_trimEnd {c : Char} (last : (trimEnd text).getLast? = some c) :
    isBlank c = false := by
  have first := List.head?_dropWhile_not isBlank text.reverse
  rw [trimEnd, List.getLast?_reverse] at last
  rw [last] at first
  exact first

theorem mem_of_mem_trimEnd {c : Char} (member : c ∈ trimEnd text) : c ∈ text := by
  obtain ⟨blanks, -, same⟩ := exists_trimEnd text
  rw [same]
  exact List.mem_append_left blanks member

theorem trimEnd_eq_nil_iff : trimEnd text = [] ↔ trimStart text = [] := by
  simp only [trimEnd, trimStart, List.reverse_eq_nil_iff, List.dropWhile_eq_nil_iff,
    List.mem_reverse]

/-- What is left behind a stop at blanks has the same blanks behind it. -/
theorem dropWhile_append_blanks {p : Char → Bool} (blank : Blanks blanks)
    (stops : ∀ c, isBlank c = true → p c = false) (text : List Char) :
    (text ++ blanks).dropWhile p = text.dropWhile p ++ blanks := by
  rw [List.dropWhile_append]
  split
  · next empty =>
      rw [List.isEmpty_iff.mp empty]
      cases blanks with
      | nil => rfl
      | cons b later => simp [stops b blank.head]
  · rfl

theorem takeWhile_append_blanks {p : Char → Bool} (blank : Blanks blanks)
    (stops : ∀ c, isBlank c = true → p c = false) (text : List Char) :
    (text ++ blanks).takeWhile p = text.takeWhile p := by
  induction text with
  | nil =>
      cases blanks with
      | nil => rfl
      | cons b later => simp [stops b blank.head]
  | cons c rest ih => simp [List.takeWhile_cons, ih]

/-- Only what stands between the blanks counts. -/
theorem trim_append {before : List Char} (front : Blanks before) (back : Blanks blanks)
    (text : List Char) : trim (before ++ text ++ blanks) = trim text := by
  unfold trim
  rw [List.append_assoc, trimStart_append_left front]
  rcases trimStart_append_right back text with ⟨-, kept⟩ | ⟨empty, gone⟩
  · rw [kept, trimEnd_append back]
  · rw [gone, empty]

theorem trim_append_left {before : List Char} (front : Blanks before) (text : List Char) :
    trim (before ++ text) = trim text := by
  simpa using trim_append front Blanks.nil text

theorem trim_append_right (back : Blanks blanks) (text : List Char) :
    trim (text ++ blanks) = trim text :=
  trim_append Blanks.nil back text

theorem mem_of_mem_trim {c : Char} (member : c ∈ trim text) : c ∈ text :=
  mem_of_mem_trimStart (mem_of_mem_trimEnd member)

theorem trim_trimStart (text : List Char) : trim (trimStart text) = trim text := by
  rw [trim, trimStart_trimStart, trim]

theorem trim_trimEnd (text : List Char) : trim (trimEnd text) = trim text := by
  obtain ⟨blanks, back, same⟩ := exists_trimEnd text
  rw [← trim_append_right back (trimEnd text), ← same]

theorem trim_trim (text : List Char) : trim (trim text) = trim text :=
  (trim_trimEnd (trimStart text)).trans (trim_trimStart text)

theorem trim_eq_nil_iff : trim text = [] ↔ trimStart text = [] := by
  rw [trim, trimEnd_eq_nil_iff, trimStart_trimStart]

theorem trim_ne_nil {c : Char} (member : c ∈ text) (visible : isBlank c = false) :
    trim text ≠ [] := by
  rw [Ne, trim_eq_nil_iff]
  intro empty
  have blank := List.dropWhile_eq_nil_iff.mp empty c member
  rw [visible] at blank
  cases blank

theorem trimStart_trim (text : List Char) : trimStart (trim text) = trim text := by
  cases start : trimStart text with
  | nil => simp [trim, start, trimEnd]
  | cons c rest =>
      obtain ⟨blanks, back, same⟩ := exists_trimEnd (trimStart text)
      rw [← trim] at same
      have present : trim text ≠ [] := by
        rw [Ne, trim_eq_nil_iff, start]
        exact List.cons_ne_nil c rest
      obtain ⟨first, more, form⟩ := List.exists_cons_of_ne_nil present
      rw [form, start] at same
      obtain ⟨rfl, -⟩ := List.cons.inj same
      rw [form]
      exact trimStart_cons_of_visible (visible_of_trimStart start) more

theorem words_go_ne_nil {word : List Char}
    (present : word ≠ [] ∨ ∃ c ∈ text, isBlank c = false) : words.go word text ≠ [] := by
  induction text generalizing word with
  | nil =>
      have letters : word ≠ [] := by simpa using present
      simp [words.go, letters]
  | cons c rest ih =>
      unfold words.go
      by_cases blank : isBlank c = true
      · by_cases empty : word = []
        · have later : ∃ c ∈ rest, isBlank c = false := by simpa [empty, blank] using present
          simpa [blank, empty] using ih (.inr later)
        · simp [blank, empty]
      · simpa [blank] using ih (.inl (List.cons_ne_nil c word))

theorem words_ne_nil {c : Char} (member : c ∈ text) (visible : isBlank c = false) :
    words text ≠ [] :=
  words_go_ne_nil (.inr ⟨c, member, visible⟩)

theorem words_go_append_blanks (blank : Blanks blanks) (word text : List Char) :
    words.go word (text ++ blanks) = words.go word text := by
  induction text generalizing word with
  | nil =>
      induction blanks generalizing word with
      | nil => rfl
      | cons b later ih =>
          have rest : words.go [] later = [] := ih blank.tail []
          cases word <;> simp [words.go, blank.head, rest]
  | cons c rest ih =>
      rw [List.cons_append, words.go, words.go]
      simp only [ih]

theorem words_append_left {before : List Char} (front : Blanks before) (text : List Char) :
    words (before ++ text) = words text := by
  induction before with
  | nil => rfl
  | cons b later ih =>
      rw [← ih front.tail, words, List.cons_append, words.go, if_pos front.head,
        if_pos List.isEmpty_nil, words]

theorem words_trimStart (text : List Char) : words (trimStart text) = words text := by
  obtain ⟨before, front, same⟩ := exists_trimStart text
  rw [← words_append_left front (trimStart text), ← same]

/-- Blanks around a text belong to no word. -/
theorem words_trim (text : List Char) : words (trim text) = words text := by
  obtain ⟨behind, back, same⟩ := exists_trimEnd (trimStart text)
  rw [← words_trimStart text, same, ← trim, words, words, words_go_append_blanks back]

theorem words_go_of_ne_nil {word : List Char} (begun : word ≠ []) (text : List Char) :
    words.go word text =
      (word.reverse ++ (firstWord text).1) :: words (firstWord text).2 := by
  induction text generalizing word with
  | nil => simp [words.go, words, firstWord, begun]
  | cons c rest ih =>
      cases blank : isBlank c with
      | true => simp [words.go, words, firstWord, begun, blank]
      | false =>
          have later := ih (List.cons_ne_nil c word)
          simpa [words.go, firstWord, blank] using later

/-- The first of the words of a text that is not blank. -/
theorem words_eq_cons (present : trimStart text ≠ []) :
    words text = (firstWord (trimStart text)).1 :: words (firstWord (trimStart text)).2 := by
  obtain ⟨c, rest, start⟩ := List.exists_cons_of_ne_nil present
  have visible := visible_of_trimStart start
  have begun := words_go_of_ne_nil (List.cons_ne_nil c []) rest
  rw [← words_trimStart text, start, words, words.go, if_neg (by simp [visible]), begun]
  simp [firstWord, visible]

end ConstructorAction.Text
