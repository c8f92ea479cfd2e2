import ConstructorAction.Proofs.Source.Scope
import ConstructorAction.Proofs.Source.Silent
import ConstructorAction.Proofs.Synthesis.FreshNames
import ConstructorAction.Proofs.Synthesis.Meaning
import ConstructorAction.Proofs.Synthesis.Naming
import ConstructorAction.Proofs.Text.Rows

namespace ConstructorAction.Synthesis

open ConstructorAction.Settings ConstructorAction.Source ConstructorAction.Text

/-!
The text of a constructor, line by line. If the members are such as can be found in lines, every
line of it is one line and declares nothing (`framed_of_mem_constructorLines`).
-/

theorem toList_constructorText (settings : Settings) (owner : TypeDeclaration)
    (members : List MemberDeclaration) :
    (constructorText settings owner members).toList =
      joinLines ((constructorLines settings owner members).map String.toList) := by
  rw [constructorText, String.toList_intercalate]
  rfl

/-- The brace that closes the body has a line of its own. -/
theorem exists_closing_line (settings : Settings) (owner : TypeDeclaration)
    (members : List MemberDeclaration) : ∃ front margin,
      (constructorLines settings owner members).map String.toList =
        front ++ [margin ++ ['\x7d']] := by
  obtain ⟨front, margin, same⟩ : ∃ front margin,
      constructorLines settings owner members = front ++ [margin ++ "\x7d"] := ⟨_, _, rfl⟩
  have last : (margin ++ "\x7d").toList = margin.toList ++ ['\x7d'] := String.toList_append
  exact ⟨_, _, by rw [same, List.map_append, List.map_singleton, last]⟩

theorem getLast?_constructorText (settings : Settings) (owner : TypeDeclaration)
    (members : List MemberDeclaration) :
    (constructorText settings owner members).toList.getLast? = some '\x7d' := by
  obtain ⟨front, margin, same⟩ := exists_closing_line settings owner members
  rw [toList_constructorText, same, ← joinLines_append_singleton, List.getLast?_concat]

theorem length_constructorLines (settings : Settings) (owner : TypeDeclaration)
    (members : List MemberDeclaration) :
    (constructorLines settings owner members).length = members.length + 3 := by
  simp [constructorLines]

/-- A line that may be put between the lines of a document: it ends where it ends, and it declares
nothing. -/
structure Framed (line : List Char) : Prop where
  lineFeed_notMem : '\n' ∉ line
  noReturn : line.getLast? ≠ some '\r'
  silent : Silent line

theorem Framed.append_left {line : List Char} (framed : Framed line) (present : line ≠ [])
    (margin : Nat) : Framed (List.replicate margin ' ' ++ line) where
  lineFeed_notMem := by
    rw [List.mem_append]
    exact fun member => member.elim (by simp [List.mem_replicate]) framed.lineFeed_notMem
  noReturn := by
    obtain ⟨c, last⟩ := Option.isSome_iff_exists.mp (List.getLast?_isSome.mpr present)
    rw [List.getLast?_append, last, Option.some_or, ← last]
    exact framed.noReturn
  silent := framed.silent.append_left (.replicate margin)

theorem toList_indentation (tabSize level : Nat) :
    (indentation tabSize level).toList = List.replicate (level * tabSize) ' ' := by
  have pushed (text : String) (count : Nat) :
      (text.pushn ' ' count).toList = text.toList ++ List.replicate count ' ' := by
    rw [String.pushn_eq_repeat_push]
    induction count with
    | zero => simp [Nat.repeat]
    | succ count ih => simp [Nat.repeat, ih, List.replicate_succ']
  rw [indentation, pushed]
  rfl

/-- A member that can be written into a line: no character of it ends the line or a declaration. -/
structure Writable (member : MemberDeclaration) : Prop where
  name : isIdentifier member.name.toList = true
  type : ∀ mark ∈ endingMarks, mark ∉ member.declaredType.toList

/-- No ending mark is in a text of which no character is in the list of them. -/
theorem endingMark_notMem_of_all {text : List Char}
    (free : text.all fun c => !endingMarks.contains c) {mark : Char} (ending : mark ∈ endingMarks) :
    mark ∉ text := by
  intro member
  have absent := List.all_eq_true.mp free mark member
  simp [ending] at absent

theorem isWordChar_of_isPunctuation {mark : Char} (punctuation : isPunctuation mark = true) :
    isWordChar mark = false := by
  simp only [isPunctuation, Bool.and_eq_true, Bool.not_eq_true'] at punctuation
  exact punctuation.2

theorem punctuation_notMem {name : List Char} (identifier : isIdentifier name = true) {mark : Char}
    (punctuation : isPunctuation mark = true) : mark ∉ name := by
  intro member
  have other := isWordChar_of_isPunctuation punctuation
  rw [isWordChar_of_mem identifier member] at other
  cases other

theorem punctuation_notMem_toDigits {mark : Char} (punctuation : isPunctuation mark = true)
    (count : Nat) : mark ∉ Nat.toDigits 10 count := by
  intro member
  have digit := Nat.isDigit_of_mem_toDigits (by decide) (by decide) member
  have other := isWordChar_of_isPunctuation punctuation
  rw [isWordChar_of_isDigit digit] at other
  cases other

variable {members : List MemberDeclaration}

theorem punctuation_notMem_parameterNames
    (identifiers : ∀ member ∈ members, isIdentifier member.name.toList = true)
    {name : String} (named : name ∈ parameterNames members) {mark : Char}
    (punctuation : isPunctuation mark = true) : mark ∉ name.toList := by
  obtain ⟨fresh, inFresh, rfl⟩ := List.mem_map.mp named
  obtain ⟨base, inBases, made⟩ := exists_base_of_mem_freshNames inFresh
  obtain ⟨member, inMembers, rfl⟩ := List.mem_map.mp inBases
  have inBase : mark ∉ parameterName member.name.toList :=
    notMem_parameterName punctuation (punctuation_notMem (identifiers member inMembers) punctuation)
  rw [String.toList_ofList]
  rcases made with rfl | ⟨count, rfl⟩
  · exact inBase
  · rw [suffixed, List.mem_append]
    exact fun either => either.elim inBase (punctuation_notMem_toDigits punctuation count)

section Constructor

variable (rule : AssignmentRule) (owner : TypeDeclaration)

theorem mem_parameters {parameter : Parameter}
    (inParameters : parameter ∈ (constructorOf rule owner members).parameters) :
    ∃ member ∈ members, parameter.type = member.declaredType ∧
      parameter.name ∈ parameterNames (byLine members) := by
  obtain ⟨⟨member, name⟩, paired, rfl⟩ := List.mem_map.mp inParameters
  obtain ⟨inOrder, named⟩ := List.of_mem_zip paired
  exact ⟨member, mem_byLine.mp inOrder, rfl, named⟩

theorem mem_assignments {assignment : Assignment}
    (inAssignments : assignment ∈ (constructorOf rule owner members).assignments) :
    ∃ member ∈ members, assignment.target = targetOf rule member ∧
      assignment.parameter ∈ parameterNames (byLine members) := by
  obtain ⟨⟨member, name⟩, paired, rfl⟩ := List.mem_map.mp inAssignments
  obtain ⟨inOrder, named⟩ := List.of_mem_zip paired
  exact ⟨member, mem_byLine.mp inOrder, rfl, named⟩

theorem mem_intercalate {separator : List Char} {texts : List (List Char)} {c : Char}
    (member : c ∈ separator.intercalate texts) : c ∈ separator ∨ ∃ text ∈ texts, c ∈ text := by
  induction texts with
  | nil => simp [List.intercalate] at member
  | cons text later ih =>
      cases later with
      | nil => exact .inr ⟨text, List.mem_cons_self, by simpa [List.intercalate] using member⟩
      | cons next more =>
          rw [List.intercalate_cons_cons, List.append_assoc] at member
          rcases List.mem_append.mp member with inText | behind
          · exact .inr ⟨text, List.mem_cons_self, inText⟩
          · rcases List.mem_append.mp behind with inSeparator | inLater
            · exact .inl inSeparator
            · refine (ih inLater).imp_right fun ⟨other, inMore, inside⟩ => ?_
              exact ⟨other, List.mem_cons_of_mem text inMore, inside⟩

/-- What stands between the parentheses of the header. -/
def parameterList (constructor : Constructor) : List Char :=
  (", ".intercalate (constructor.parameters.map Parameter.text)).toList

theorem toList_header (constructor : Constructor) : constructor.header.toList =
    "public ".toList ++ (constructor.typeName.toList ++ '(' ::
      (parameterList constructor ++ [')'])) := by
  simp [Constructor.header, parameterList]

/-- A list of parameters has no punctuation but commas and what is in the types. -/
theorem punctuation_notMem_parameterList
    (identifiers : ∀ member ∈ members, isIdentifier member.name.toList = true) {mark : Char}
    (punctuation : isPunctuation mark = true) (noSeparator : mark ∉ [',', ' '])
    (typed : ∀ member ∈ members, mark ∉ member.declaredType.toList) :
    mark ∉ parameterList (constructorOf rule owner members) := by
  intro inside
  rw [parameterList, String.toList_intercalate] at inside
  rcases mem_intercalate inside with inSeparator | ⟨text, inTexts, inText⟩
  · exact noSeparator inSeparator
  · obtain ⟨written, inWritten, rfl⟩ := List.mem_map.mp inTexts
    obtain ⟨parameter, inParameters, rfl⟩ := List.mem_map.mp inWritten
    obtain ⟨member, inMembers, type, named⟩ := mem_parameters rule owner inParameters
    have inType : mark ∉ parameter.type.toList := by
      rw [type]
      exact typed member inMembers
    have inName : mark ∉ parameter.name.toList :=
      punctuation_notMem_parameterNames
        (fun other inOrder => identifiers other (mem_byLine.mp inOrder)) named punctuation
    simp only [Parameter.text, String.toList_append, List.mem_append] at inText
    rcases inText with (typed | blank) | written
    · exact inType typed
    · exact noSeparator (List.mem_cons_of_mem ',' blank)
    · exact inName written

theorem framed_header (named : isIdentifier owner.typeName.toList = true)
    (writable : ∀ member ∈ members, Writable member) :
    Framed (constructorOf rule owner members).header.toList := by
  have inRest {mark : Char} (ending : mark ∈ endingMarks) :
      mark ∉ owner.typeName.toList ++ '(' ::
        (parameterList (constructorOf rule owner members) ++ [')']) := by
    have noName := punctuation_notMem named (isPunctuation_of_endingMark ending)
    have noParameter := punctuation_notMem_parameterList rule owner
      (fun member inMembers => (writable member inMembers).name)
      (isPunctuation_of_endingMark ending) (endingMark_notMem_of_all (by decide) ending)
      fun member inMembers => (writable member inMembers).type mark ending
    have noBracket : mark ∉ ['(', ')'] := endingMark_notMem_of_all (by decide) ending
    simp only [List.mem_cons, List.not_mem_nil, or_false, not_or] at noBracket
    simp [noName, noParameter, noBracket]
  rw [toList_header]
  refine ⟨?_, ?_, ?_⟩
  · rw [List.mem_append]
    exact fun either => either.elim (by decide) (inRest (by decide))
  · rw [← List.cons_append, ← List.append_assoc, ← List.append_assoc, List.getLast?_concat]
    decide
  · exact silent_header (visible_of_isIdentifier named) (inRest (by decide)) (inRest (by decide))

/-- The left side of an assignment is one word, with a mark that no known word has. -/
theorem word_of_target {member : MemberDeclaration} (writable : Writable member) :
    let word := (targetOf rule member).text.toList
    (∀ c ∈ word, isBlank c = false) ∧ '\n' ∉ word ∧ word.head? ≠ some '[' ∧
      ∃ mark ∈ word, ∀ known ∈ knownWords, mark ∉ known := by
  intro word
  have visible := visible_of_isIdentifier writable.name
  have noFeed : '\n' ∉ member.name.toList := punctuation_notMem writable.name (by decide)
  by_cases bare : targetOf rule member = .bare member.name
  · have text : word = member.name.toList := by
      change (targetOf rule member).text.toList = _
      rw [bare]
      rfl
    have underscore : member.name.toList.head? = some '_' := by
      simpa [MemberDeclaration.hasUnderscore] using (targetOf_eq_bare_iff.mp bare).2
    rw [text]
    refine ⟨visible, noFeed, ?_, '_', List.mem_of_head? underscore, by decide⟩
    rw [underscore]
    decide
  · have qualified := (targetOf_cases rule member).resolve_right bare
    have text : word = "this.".toList ++ member.name.toList := by
      change (targetOf rule member).text.toList = _
      rw [qualified]
      exact String.toList_append
    rw [text]
    refine ⟨fun c inside => ?_, ?_, ?_, '.', by simp, by decide⟩
    · have noBlank : "this.".toList.all fun other => !isBlank other := by decide
      rcases List.mem_append.mp inside with inThis | inName
      · simpa using List.all_eq_true.mp noBlank c inThis
      · exact visible c inName
    · rw [List.mem_append]
      exact fun either => either.elim (by decide) noFeed
    · simp

theorem framed_assignment (writable : ∀ member ∈ members, Writable member)
    {assignment : Assignment}
    (inAssignments : assignment ∈ (constructorOf rule owner members).assignments) :
    Framed assignment.text.toList := by
  obtain ⟨member, inMembers, target, named⟩ := mem_assignments rule owner inAssignments
  obtain ⟨visible, noFeed, noBracket, mark, inWord, apart⟩ :=
    word_of_target rule (writable member inMembers)
  rw [← target] at visible noFeed noBracket inWord
  have inName : '\n' ∉ assignment.parameter.toList :=
    punctuation_notMem_parameterNames
      (fun other inOrder => (writable other (mem_byLine.mp inOrder)).name) named (by decide)
  have text : assignment.text.toList = assignment.target.text.toList ++ ' ' :: '=' ::
      (' ' :: assignment.parameter.toList ++ [';']) := by
    simp [Assignment.text]
  rw [text]
  refine ⟨?_, ?_, silent_assignment visible inWord apart noBracket _⟩
  · simp [noFeed, inName]
  · rw [← List.cons_append, ← List.cons_append, ← List.append_assoc, List.getLast?_concat]
    decide

end Constructor

theorem mem_constructorLines {settings : Settings} {owner : TypeDeclaration} {line : String}
    (inLines : line ∈ constructorLines settings owner members) :
    ∃ level core, line = indentation settings.tabSize level ++ core ∧
      (core = (constructorOf settings.strategy.assignment owner members).header ∨
        core = "\x7b" ∨ core = "\x7d" ∨
        ∃ assignment ∈ (constructorOf settings.strategy.assignment owner members).assignments,
          core = assignment.text) := by
  simp only [constructorLines, Constructor.lines, List.mem_append, List.mem_cons, List.mem_map,
    List.not_mem_nil, or_false] at inLines
  rcases inLines with ((rfl | rfl) | ⟨assignment, inAssignments, rfl⟩) | rfl
  · exact ⟨_, _, rfl, .inl rfl⟩
  · exact ⟨_, _, rfl, .inr (.inl rfl)⟩
  · exact ⟨_, _, rfl, .inr (.inr (.inr ⟨assignment, inAssignments, rfl⟩))⟩
  · exact ⟨_, _, rfl, .inr (.inr (.inl rfl))⟩

/-- The lines of a constructor can be put between other lines. -/
theorem framed_of_mem_constructorLines {settings : Settings} {owner : TypeDeclaration}
    (named : isIdentifier owner.typeName.toList = true)
    (writable : ∀ member ∈ members, Writable member) {line : String}
    (inLines : line ∈ constructorLines settings owner members) : Framed line.toList := by
  obtain ⟨level, core, rfl, kind⟩ := mem_constructorLines inLines
  rw [String.toList_append, toList_indentation]
  rcases kind with rfl | rfl | rfl | ⟨assignment, inAssignments, rfl⟩
  · exact (framed_header _ owner named writable).append_left (by simp [toList_header]) _
  · exact Framed.append_left ⟨by decide, by decide, silent_opening_brace⟩ (by decide) _
  · exact Framed.append_left ⟨by decide, by decide, silent_closing_brace⟩ (by decide) _
  · exact (framed_assignment _ owner writable inAssignments).append_left
      (by simp [Assignment.text]) _

theorem lines_constructorText {settings : Settings} {owner : TypeDeclaration}
    (framed : ∀ line ∈ constructorLines settings owner members, Framed line.toList) :
    lines (constructorText settings owner members).toList =
      (constructorLines settings owner members).map String.toList := by
  have framedAll : ∀ line ∈ (constructorLines settings owner members).map String.toList,
      Framed line := List.forall_mem_map.mpr framed
  -- the line of the brace is not empty, so that the text shows it without a terminator
  have shown : ((constructorLines settings owner members).map String.toList).getLast? ≠
      some [] := by
    obtain ⟨front, margin, closed⟩ := exists_closing_line settings owner members
    rw [closed, List.getLast?_concat]
    simp
  have present : (constructorLines settings owner members).map String.toList ≠ [] := by
    simp [constructorLines, Constructor.lines]
  rw [lines, toList_constructorText,
    pieces_joinLines present fun line inLines => (framedAll line inLines).lineFeed_notMem,
    dropFinalEmpty, if_neg shown]
  refine (List.map_congr_left fun line inLines => ?_).trans (List.map_id _)
  rw [withoutReturn, if_neg (framedAll line inLines).noReturn, id]

/-- A member that was found in a line can be written into one. -/
theorem writable_of_foundIn {member : MemberDeclaration} {found : Member} {line : List Char}
    (foundIn : found.FoundIn line) (whole : '\n' ∉ line)
    (name : member.name.toList = found.name)
    (type : member.declaredType.toList = found.declaredType) :
    Writable member := by
  have noType : isTypeChar ';' = false ∧ isTypeChar '\x7b' = false := by decide
  refine ⟨name ▸ foundIn.name, fun mark ending inType => ?_⟩
  rw [type] at inType
  obtain ⟨typed, inLine⟩ := foundIn.type mark inType
  simp only [endingMarks, List.mem_cons, List.not_mem_nil, or_false] at ending
  rcases ending with rfl | rfl | rfl
  · exact whole inLine
  · rw [noType.1] at typed
    cases typed
  · rw [noType.2] at typed
    cases typed

end ConstructorAction.Synthesis
