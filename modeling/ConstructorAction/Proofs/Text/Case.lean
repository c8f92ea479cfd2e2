import ConstructorAction.Text.Blank
import ConstructorAction.Text.Case
import ConstructorAction.Text.Word

namespace ConstructorAction.Text

/-!
What the tables say of all characters: no form of a character is empty, an underscore only comes
from an underscore and punctuation from itself, no word character is blank, and only blanks have
blanks in their forms.
-/

/-- Whether a table has no character without a form and no form that starts with `code`. -/
def startless (code : Nat) (expansions : List (Nat × List Nat)) (runs : List CaseRun) : Bool :=
  (expansions.all fun expansion => match expansion.2 with
    | [] => false
    | first :: _ => first != code) &&
  runs.all fun run => (code : Int) < run.first + run.shift || run.last + run.shift < code

/-- Characters of ASCII that no name has, NUL apart. -/
def isPunctuation (c : Char) : Bool := 0 < c.toNat && c.toNat < 128 && !isWordChar c

/-- Whether no form in a table has punctuation in it. Only single characters have forms in ASCII. -/
def punctuationFree (expansions : List (Nat × List Nat)) (runs : List CaseRun) : Bool :=
  (expansions.all fun expansion => expansion.2.all fun code => !isPunctuation (Char.ofNat code)) &&
  runs.all fun run => 128 ≤ run.first + run.shift ||
    run.first = run.last && !isPunctuation (Char.ofNat (run.first + run.shift).toNat)

/-- Whether no code point from `first` to `last` is in one of the intervals. -/
def CodeRanges.misses (first last : Nat) : CodeRanges → Bool
  | [] => true
  | (low, high) :: later => last < low || (high < first && misses first last later)

/-- Whether no character of a set has a form in a table, and no form starts with one of the set. -/
def startsApart (avoided : CodeRanges) (expansions : List (Nat × List Nat))
    (runs : List CaseRun) : Bool :=
  (expansions.all fun expansion => !avoided.contains expansion.1 && match expansion.2 with
    | [] => false
    | first :: _ => !avoided.contains first) &&
  runs.all fun run => avoided.misses run.first run.last &&
    avoided.misses (run.first + run.shift).toNat (run.last + run.shift).toNat

def blankRanges : CodeRanges :=
  [(9, 13), (0x20, 0x20), (0x85, 0x85), (0xA0, 0xA0), (0x1680, 0x1680), (0x2000, 0x200A),
   (0x2028, 0x2029), (0x202F, 0x202F), (0x205F, 0x205F), (0x3000, 0x3000)]

/-- Whether no form in a table has a character of a set in it. -/
def formsApart (avoided : CodeRanges) (expansions : List (Nat × List Nat))
    (runs : List CaseRun) : Bool :=
  (expansions.all fun expansion => expansion.2.all fun code => !avoided.contains code) &&
  runs.all fun run => avoided.misses (run.first + run.shift).toNat (run.last + run.shift).toNat

/-- What a look at each entry of the tables of a case, and at each character of ASCII, gives. -/
structure CaseChecks (ascii : Char → Char) (expansions : List (Nat × List Nat))
    (runs : List CaseRun) : Prop where
  asciiStart : ∀ code < 128, ascii (Char.ofNat code) = '_' → code = 95
  start : startless 95 expansions runs = true
  asciiPunctuation : ∀ code < 128, isPunctuation (ascii (Char.ofNat code)) = true →
    ascii (Char.ofNat code) = Char.ofNat code
  punctuation : punctuationFree expansions runs = true
  asciiDigit : ∀ code < 128,
    isDecimalDigit (ascii (Char.ofNat code)) = isDecimalDigit (Char.ofNat code)
  digit : startsApart decimalDigitRanges expansions runs = true
  asciiBlank : ∀ code < 128, isBlank (Char.ofNat code) = false →
    isBlank (ascii (Char.ofNat code)) = false
  blank : formsApart blankRanges expansions runs = true

theorem lowerChecks : CaseChecks Char.toLower lowerExpansions lowerRuns := by
  constructor <;> decide +kernel

theorem upperChecks : CaseChecks Char.toUpper upperExpansions upperRuns := by
  constructor <;> decide +kernel

variable {ascii : Char → Char} {expansions : List (Nat × List Nat)} {runs : List CaseRun}

theorem CaseRun.ne_of_image? {run : CaseRun} {code image avoided : Nat}
    (mapped : run.image? code = some image)
    (apart : (avoided : Int) < run.first + run.shift ∨ run.last + run.shift < avoided)
    (positive : 0 < avoided) : image ≠ avoided := by
  unfold CaseRun.image? at mapped
  split at mapped
  · next covered =>
      obtain ⟨lower, upper, _⟩ := covered
      obtain rfl := Option.some.inj mapped
      rcases apart with above | below
      · omega
      · omega
  · cases mapped

theorem toNat_ofNat_ne {code avoided : Nat} (apart : code ≠ avoided) (positive : 0 < avoided) :
    (Char.ofNat code).toNat ≠ avoided := by
  by_cases valid : code.isValidChar
  · rw [Char.ofNat, dif_pos valid]
    exact apart
  · rw [Char.ofNat, dif_neg valid]
    exact Nat.ne_of_lt positive

/-- A form is an expansion, the image of a run, or the character itself. -/
theorem caseForm_cases (expansions : List (Nat × List Nat)) (runs : List CaseRun) (c : Char) :
    (∃ codes, (c.toNat, codes) ∈ expansions ∧
      caseForm expansions runs c = codes.map Char.ofNat) ∨
    (∃ run ∈ runs, ∃ image, run.image? c.toNat = some image ∧
      caseForm expansions runs c = [Char.ofNat image]) ∨
    caseForm expansions runs c = [c] := by
  unfold caseForm
  split
  · next codes found =>
      obtain ⟨before, after, rfl, _⟩ := List.lookup_eq_some_iff.mp found
      exact .inl ⟨codes, by simp, rfl⟩
  · split
    · next image mapped =>
        obtain ⟨run, inRuns, covered⟩ := List.exists_of_findSome?_eq_some mapped
        exact .inr (.inl ⟨run, inRuns, image, covered, rfl⟩)
    · exact .inr (.inr rfl)

theorem caseForm_start {avoided : Nat} (free : startless avoided expansions runs = true)
    (positive : 0 < avoided) {c : Char} (apart : c.toNat ≠ avoided) :
    ∃ first rest, caseForm expansions runs c = first :: rest ∧ first.toNat ≠ avoided := by
  obtain ⟨expanded, run⟩ := Bool.and_eq_true_iff.mp free
  rcases caseForm_cases expansions runs c with
    ⟨codes, inTable, form⟩ | ⟨chosen, inRuns, image, covered, form⟩ | form
  · have entry := List.all_eq_true.mp expanded (c.toNat, codes) inTable
    cases codes with
    | nil => cases entry
    | cons code codes => exact ⟨_, _, form, toNat_ofNat_ne (by simpa using entry) positive⟩
  · have bounds := List.all_eq_true.mp run chosen inRuns
    rw [Bool.or_eq_true, decide_eq_true_eq, decide_eq_true_eq] at bounds
    exact ⟨_, _, form, toNat_ofNat_ne (chosen.ne_of_image? covered bounds positive) positive⟩
  · exact ⟨c, [], form, apart⟩

theorem form_start (checks : CaseChecks ascii expansions runs) {c : Char} (apart : c ≠ '_') :
    ∃ first rest, (if c.toNat < 128 then [ascii c] else caseForm expansions runs c) =
      first :: rest ∧ first ≠ '_' := by
  have code : c.toNat ≠ 95 := fun same => apart (Char.ofNat_toNat c ▸ congrArg Char.ofNat same)
  split
  · next small =>
      refine ⟨ascii c, [], rfl, fun same => code (checks.asciiStart _ small ?_)⟩
      rwa [Char.ofNat_toNat]
  · obtain ⟨first, rest, form, differ⟩ := caseForm_start checks.start (by decide) code
    exact ⟨first, rest, form, fun same => differ (same ▸ rfl)⟩

theorem lowerCase_start {c : Char} (apart : c ≠ '_') :
    ∃ first rest, lowerCase c = first :: rest ∧ first ≠ '_' :=
  form_start lowerChecks apart

theorem upperCase_start {c : Char} (apart : c ≠ '_') :
    ∃ first rest, upperCase c = first :: rest ∧ first ≠ '_' :=
  form_start upperChecks apart

theorem isPunctuation_ofNat_of_le {code : Nat} (beyond : 128 ≤ code) :
    isPunctuation (Char.ofNat code) = false := by
  by_cases valid : code.isValidChar
  · have same : (Char.ofNat code).toNat = code := by rw [Char.ofNat, dif_pos valid]; rfl
    simp [isPunctuation, same, Nat.not_lt.mpr beyond]
  · rw [Char.ofNat, dif_neg valid]
    rfl

theorem CaseRun.isPunctuation_of_image? {run : CaseRun} {code image : Nat}
    (free : 128 ≤ run.first + run.shift ∨
      run.first = run.last ∧ isPunctuation (Char.ofNat (run.first + run.shift).toNat) = false)
    (mapped : run.image? code = some image) : isPunctuation (Char.ofNat image) = false := by
  unfold CaseRun.image? at mapped
  split at mapped
  · next covered =>
      obtain ⟨lower, upper, -⟩ := covered
      obtain rfl := Option.some.inj mapped
      rcases free with beyond | ⟨single, plain⟩
      · exact isPunctuation_ofNat_of_le (by omega)
      · obtain rfl : code = run.first := by omega
        exact plain
  · cases mapped

theorem caseForm_punctuation (free : punctuationFree expansions runs = true) {c mark : Char}
    (punctuation : isPunctuation mark = true) (member : mark ∈ caseForm expansions runs c) :
    c = mark := by
  obtain ⟨expanded, run⟩ := Bool.and_eq_true_iff.mp free
  rcases caseForm_cases expansions runs c with
    ⟨codes, inTable, form⟩ | ⟨chosen, inRuns, image, covered, form⟩ | form
  · rw [form] at member
    obtain ⟨code, inCodes, rfl⟩ := List.mem_map.mp member
    have entry := List.all_eq_true.mp (List.all_eq_true.mp expanded _ inTable) code inCodes
    simp [punctuation] at entry
  · have entry := List.all_eq_true.mp run chosen inRuns
    rw [form, List.mem_singleton] at member
    have plain := chosen.isPunctuation_of_image? (by simpa using entry) covered
    rw [← member, punctuation] at plain
    cases plain
  · rw [form] at member
    exact (List.mem_singleton.mp member).symm

theorem form_punctuation (checks : CaseChecks ascii expansions runs) {c mark : Char}
    (punctuation : isPunctuation mark = true)
    (member : mark ∈ if c.toNat < 128 then [ascii c] else caseForm expansions runs c) :
    c = mark := by
  split at member
  · next small =>
      obtain rfl := List.mem_singleton.mp member
      have same := checks.asciiPunctuation c.toNat small
      rw [Char.ofNat_toNat] at same
      exact (same punctuation).symm
  · exact caseForm_punctuation checks.punctuation punctuation member

theorem lowerCase_punctuation {c mark : Char} (punctuation : isPunctuation mark = true)
    (member : mark ∈ lowerCase c) : c = mark :=
  form_punctuation lowerChecks punctuation member

theorem upperCase_punctuation {c mark : Char} (punctuation : isPunctuation mark = true)
    (member : mark ∈ upperCase c) : c = mark :=
  form_punctuation upperChecks punctuation member

/-- Characters that end a line or a declaration. -/
def endingMarks : List Char := ['\n', ';', '\x7b']

theorem isPunctuation_of_endingMark {mark : Char} (ending : mark ∈ endingMarks) :
    isPunctuation mark = true := by
  have all : endingMarks.all isPunctuation = true := by decide
  exact List.all_eq_true.mp all mark ending

theorem CodeRanges.contains_of_misses {ranges : CodeRanges} {first last code : Nat}
    (misses : ranges.misses first last = true) (lower : first ≤ code) (upper : code ≤ last) :
    ranges.contains code = false := by
  induction ranges with
  | nil => rfl
  | cons range later ih =>
      obtain ⟨low, high⟩ := range
      rw [CodeRanges.misses, Bool.or_eq_true, Bool.and_eq_true, decide_eq_true_eq,
        decide_eq_true_eq] at misses
      unfold CodeRanges.contains
      split
      · rfl
      · next reached =>
          rcases misses with below | ⟨above, rest⟩
          · omega
          · have beyond : ¬ code ≤ high := by omega
            rw [decide_eq_false beyond, Bool.false_or]
            exact ih rest

theorem CaseRun.contains_of_image? {run : CaseRun} {avoided : CodeRanges} {code image : Nat}
    (source : avoided.misses run.first run.last = true)
    (mapped : run.image? code = some image) : avoided.contains code = false := by
  unfold CaseRun.image? at mapped
  split at mapped
  · next covered => exact CodeRanges.contains_of_misses source covered.1 covered.2.1
  · cases mapped

theorem CaseRun.contains_image? {run : CaseRun} {avoided : CodeRanges} {code image : Nat}
    (target : avoided.misses (run.first + run.shift).toNat (run.last + run.shift).toNat = true)
    (mapped : run.image? code = some image) : avoided.contains image = false := by
  unfold CaseRun.image? at mapped
  split at mapped
  · next covered =>
      obtain ⟨lower, upper, -⟩ := covered
      obtain rfl := Option.some.inj mapped
      exact CodeRanges.contains_of_misses target (by omega) (by omega)
  · cases mapped

theorem contains_ofNat {avoided : CodeRanges} (noZero : avoided.contains 0 = false) {code : Nat}
    (outside : avoided.contains code = false) :
    avoided.contains (Char.ofNat code).toNat = false := by
  by_cases valid : code.isValidChar
  · rw [Char.ofNat, dif_pos valid]
    exact outside
  · rw [Char.ofNat, dif_neg valid]
    exact noZero

theorem caseForm_apart {avoided : CodeRanges} (noZero : avoided.contains 0 = false)
    (free : startsApart avoided expansions runs = true) (c : Char) :
    ∃ first rest, caseForm expansions runs c = first :: rest ∧
      avoided.contains first.toNat = avoided.contains c.toNat := by
  obtain ⟨expanded, run⟩ := Bool.and_eq_true_iff.mp free
  rcases caseForm_cases expansions runs c with
    ⟨codes, inTable, form⟩ | ⟨chosen, inRuns, image, covered, form⟩ | form
  · have entry := List.all_eq_true.mp expanded (c.toNat, codes) inTable
    cases codes with
    | nil => simp at entry
    | cons code codes =>
        simp only [Bool.and_eq_true, Bool.not_eq_true'] at entry
        exact ⟨_, _, form, by rw [contains_ofNat noZero entry.2, entry.1]⟩
  · obtain ⟨source, target⟩ := Bool.and_eq_true_iff.mp (List.all_eq_true.mp run chosen inRuns)
    exact ⟨_, _, form, by rw [contains_ofNat noZero (chosen.contains_image? target covered),
      chosen.contains_of_image? source covered]⟩
  · exact ⟨c, [], form, rfl⟩

theorem isDecimalDigit_eq (c : Char) : isDecimalDigit c = decimalDigitRanges.contains c.toNat := by
  cases ascii : c.isDigit with
  | false => rw [isDecimalDigit, ascii, Bool.false_or]
  | true =>
      obtain ⟨lower, upper⟩ := Bool.and_eq_true_iff.mp ascii
      have above : 48 ≤ c.toNat := UInt32.le_iff_toNat_le.mp (of_decide_eq_true lower)
      have below : c.toNat ≤ 57 := UInt32.le_iff_toNat_le.mp (of_decide_eq_true upper)
      rw [isDecimalDigit, ascii, Bool.true_or, decimalDigitRanges, CodeRanges.contains,
        if_neg (Nat.not_lt.mpr above), decide_eq_true below, Bool.true_or]

theorem form_digit (checks : CaseChecks ascii expansions runs) (c : Char) :
    ∃ first rest, (if c.toNat < 128 then [ascii c] else caseForm expansions runs c) =
      first :: rest ∧ isDecimalDigit first = isDecimalDigit c := by
  split
  · next small =>
      have same := checks.asciiDigit c.toNat small
      rw [Char.ofNat_toNat] at same
      exact ⟨ascii c, [], rfl, same⟩
  · simp only [isDecimalDigit_eq]
    exact caseForm_apart (by decide) checks.digit c

/-- A form starts with a digit only if it is the form of a digit. -/
theorem lowerCase_digit (c : Char) :
    ∃ first rest, lowerCase c = first :: rest ∧ isDecimalDigit first = isDecimalDigit c :=
  form_digit lowerChecks c

theorem upperCase_digit (c : Char) :
    ∃ first rest, upperCase c = first :: rest ∧ isDecimalDigit first = isDecimalDigit c :=
  form_digit upperChecks c

def blankCodes : List Nat :=
  List.range' 9 5 ++ [0x20, 0x85, 0xA0, 0x1680] ++ List.range' 0x2000 11 ++
    [0x2028, 0x2029, 0x202F, 0x205F, 0x3000]

theorem mem_blankCodes {c : Char} (blank : isBlank c = true) : c.toNat ∈ blankCodes := by
  simp only [isBlank, Bool.or_eq_true, Bool.and_eq_true, decide_eq_true_eq, beq_iff_eq] at blank
  simp only [blankCodes, List.mem_append, List.mem_range'_1, List.mem_cons, List.not_mem_nil]
  omega

theorem isWordChar_of_isDigit {c : Char} (digit : c.isDigit = true) : isWordChar c = true := by
  simp [isWordChar, Char.isAlphanum, isDecimalDigit, digit]

theorem isBlank_of_isWordChar {c : Char} (word : isWordChar c = true) : isBlank c = false := by
  have none : ∀ code ∈ blankCodes, isWordChar (Char.ofNat code) = false := by decide +kernel
  cases blank : isBlank c with
  | false => rfl
  | true =>
      have apart := none c.toNat (mem_blankCodes blank)
      rw [Char.ofNat_toNat, word] at apart
      cases apart

theorem isBlank_eq (c : Char) : isBlank c = blankRanges.contains c.toNat := by
  rw [Bool.eq_iff_iff]
  simp only [isBlank, blankRanges, CodeRanges.contains, Bool.or_eq_true, Bool.and_eq_true,
    decide_eq_true_eq, beq_iff_eq, Bool.if_false_left, Bool.not_eq_true', decide_eq_false_iff_not,
    Bool.or_false]
  omega

theorem caseForm_outside {avoided : CodeRanges} (noZero : avoided.contains 0 = false)
    (free : formsApart avoided expansions runs = true) {c d : Char}
    (outside : avoided.contains c.toNat = false) (member : d ∈ caseForm expansions runs c) :
    avoided.contains d.toNat = false := by
  obtain ⟨expanded, run⟩ := Bool.and_eq_true_iff.mp free
  rcases caseForm_cases expansions runs c with
    ⟨codes, inTable, form⟩ | ⟨chosen, inRuns, image, covered, form⟩ | form
  · rw [form] at member
    obtain ⟨code, inCodes, rfl⟩ := List.mem_map.mp member
    have entry := List.all_eq_true.mp (List.all_eq_true.mp expanded _ inTable) code inCodes
    exact contains_ofNat noZero (by simpa using entry)
  · rw [form, List.mem_singleton] at member
    have target := List.all_eq_true.mp run chosen inRuns
    exact member ▸ contains_ofNat noZero (chosen.contains_image? target covered)
  · rw [form, List.mem_singleton] at member
    exact member ▸ outside

theorem form_visible (checks : CaseChecks ascii expansions runs) {c d : Char}
    (visible : isBlank c = false)
    (member : d ∈ if c.toNat < 128 then [ascii c] else caseForm expansions runs c) :
    isBlank d = false := by
  split at member
  · next small =>
      obtain rfl := List.mem_singleton.mp member
      have same := checks.asciiBlank c.toNat small
      rw [Char.ofNat_toNat] at same
      exact same visible
  · rw [isBlank_eq] at visible ⊢
    exact caseForm_outside (by decide) checks.blank visible member

theorem lowerCase_visible {c d : Char} (visible : isBlank c = false) (member : d ∈ lowerCase c) :
    isBlank d = false :=
  form_visible lowerChecks visible member

theorem upperCase_visible {c d : Char} (visible : isBlank c = false) (member : d ∈ upperCase c) :
    isBlank d = false :=
  form_visible upperChecks visible member

end ConstructorAction.Text
