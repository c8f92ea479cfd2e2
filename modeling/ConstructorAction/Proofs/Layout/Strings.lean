import ConstructorAction.Proofs.Layout.Scan

namespace ConstructorAction.Layout

open ConstructorAction.Text

/-!
The strings that may reach over the end of a line, as far as the line shows them. Blanks in front of
code are no part of them (`strings_append_left`), and neither are those at the end of a line that
does not end in a string (`strings_append_right`).
-/

variable {mode : Mode} {before text blanks : List Char} {seen : Bool} {next : Step}

/-- What was taken from the front of a text if this is the rest of it. -/
def takenFrom (text rest : List Char) : List Char := text.take (text.length - rest.length)

theorem takenFrom_append (front rest : List Char) : takenFrom (front ++ rest) rest = front := by
  simp [takenFrom]

/-- What the rest of a line shows of each verbatim or raw string that it is in somewhere, with the
quotes that end the string. -/
def strings (mode : Mode) (before : List Char) (seen : Bool) (text : List Char) :
    List (List Char) :=
  match _made : step? mode before seen text with
  | none => if mode.inString then [[]] else []
  | some next =>
      let later := strings next.mode next.before next.seen next.rest
      if !mode.inString then later
      else if next.mode.inString then later.modifyHead (takenFrom text next.rest ++ ·)
      else takenFrom text next.rest :: later
termination_by text.length
decreasing_by exact length_rest_lt _made

/-- What a line shows of its strings. -/
def lineStrings (mode : Mode) (line : List Char) : List (List Char) := strings mode [] false line

theorem strings_of_end (ends : step? mode before seen text = none) :
    strings mode before seen text = if mode.inString then [[]] else [] := by
  rw [strings]
  split
  · rfl
  · next made => cases ends.symm.trans made

theorem strings_of_step (made : step? mode before seen text = some next) :
    strings mode before seen text =
      if !mode.inString then strings next.mode next.before next.seen next.rest
      else if next.mode.inString then
        (strings next.mode next.before next.seen next.rest).modifyHead
          (takenFrom text next.rest ++ ·)
      else takenFrom text next.rest :: strings next.mode next.before next.seen next.rest := by
  rw [strings]
  split
  · next ends => cases ends.symm.trans made
  · next same =>
      obtain rfl := Option.some.inj (made.symm.trans same)
      rfl

theorem strings_of_step_outside (made : step? mode before seen text = some next)
    (outside : mode.inString = false) :
    strings mode before seen text = strings next.mode next.before next.seen next.rest := by
  rw [strings_of_step made, outside]
  rfl

example : lineStrings .code "x = @\"a \"\" ".toList = ["a \"\" ".toList] := by decide +kernel

/-- Only what is before a quote tells whether it opens a verbatim string. -/
theorem strings_congr {other : List Char} (alike : Alike before other) (mode : Mode)
    (seen : Bool) (text : List Char) :
    strings mode before seen text = strings mode other seen text := by
  induction mode, before, seen, text using step_induction generalizing other with
  | stop mode before seen text ends =>
      rcases step?_congr alike mode seen text with ⟨-, endsOther⟩ | ⟨next, behind, -, made, -⟩
      · rw [strings_of_end ends, strings_of_end endsOther]
      · cases ends.symm.trans made
  | step mode before seen text next made ih =>
      rcases step?_congr alike mode seen text with
        ⟨ends, -⟩ | ⟨_, behind, alikeBehind, same, madeOther⟩
      · cases made.symm.trans ends
      · obtain rfl := Option.some.inj (made.symm.trans same)
        rw [strings_of_step made, strings_of_step madeOther, ih alikeBehind]

theorem strings_append_left (blank : Blanks blanks) (seen : Bool) (text : List Char) :
    strings .code [] seen (blanks ++ text) = strings .code [] seen text := by
  induction blanks with
  | nil => rfl
  | cons c later ih =>
      rw [List.cons_append, strings_of_step_outside (step?_code_blank blank.head) rfl]
      exact (strings_congr (alike_of_blank blank.head []) .code seen _).trans (ih blank.tail)

theorem lineStrings_append_left (blank : Blanks blanks) (line : List Char) :
    lineStrings .code (blanks ++ line) = lineStrings .code line :=
  strings_append_left blank false line

theorem strings_blanks (blank : Blanks blanks) (outside : mode.inString = false)
    (before : List Char) (seen : Bool) : strings mode before seen blanks = [] := by
  induction blanks generalizing before with
  | nil =>
      have ends : step? mode before seen [] = none := by simp [step?]
      rw [strings_of_end ends, outside]
      rfl
  | cons c later ih =>
      obtain ⟨behind, made⟩ := exists_step?_blank blank.head
      rw [strings_of_step_outside made outside]
      exact ih blank.tail behind

theorem exists_taken (made : step? mode before seen text = some next)
    (inside : mode.inString = true) : ∃ front, text = front ++ next.rest := by
  revert made inside
  fun_cases step? mode before seen text with
  | case4 rest =>
      rintro ⟨⟩ -
      exact ⟨['"', '"'], rfl⟩
  | case5 c rest =>
      rintro ⟨⟩ -
      exact ⟨[c], rfl⟩
  | case6 quotes rest =>
      rintro ⟨⟩ -
      exact ⟨'"' :: rest.takeWhile (· == '"'), by simp [afterQuotes]⟩
  | case7 quotes c rest =>
      rintro ⟨⟩ -
      exact ⟨[c], rfl⟩
  | case1 | case8 => rintro ⟨⟩
  | _ =>
      intro _ inside
      cases inside

/-- Blanks at the end of a line that does not end in a string are in none. -/
theorem strings_append_right (blank : Blanks blanks) (mode : Mode) (before : List Char)
    (seen : Bool) (text : List Char)
    (outside : (scan mode before seen text).mode.inString = false) :
    strings mode before seen (text ++ blanks) = strings mode before seen text := by
  induction mode, before, seen, text using step_induction generalizing blanks with
  | stop mode before seen text ends =>
      rw [scan_of_end ends] at outside
      rw [strings_of_end ends, if_neg (Bool.eq_false_iff.mp outside)]
      by_cases empty : text = []
      · rw [empty, List.nil_append, strings_blanks blank outside]
      · obtain ⟨left, -, -, again⟩ := step?_append_right blank empty mode before seen
        rw [ends, Option.map_none] at again
        rw [strings_of_end again, if_neg (Bool.eq_false_iff.mp outside)]
  | step mode before seen text next made ih =>
      obtain ⟨left, blankLeft, whole, again⟩ :=
        step?_append_right blank (ne_nil_of_step? made) mode before seen
      rw [made, Option.map_some] at again
      rw [scan_of_step made, mode_count made] at outside
      have later := ih blankLeft outside
      cases inside : mode.inString with
      | false =>
          rw [strings_of_step_outside made inside, strings_of_step_outside again inside]
          exact later
      | true =>
          obtain rfl := whole inside
          obtain ⟨front, rfl⟩ := exists_taken made inside
          rw [List.append_assoc] at again ⊢
          simp only [strings_of_step made, strings_of_step again, takenFrom_append, later]

theorem lineStrings_append_right (blank : Blanks blanks) {line : List Char}
    (outside : (scanLine mode line).mode.inString = false) :
    lineStrings mode (line ++ blanks) = lineStrings mode line :=
  strings_append_right blank mode [] false line outside

end ConstructorAction.Layout
