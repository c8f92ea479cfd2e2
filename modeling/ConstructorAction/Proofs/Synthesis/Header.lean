import ConstructorAction.Proofs.Sorting
import ConstructorAction.Proofs.Source.MemberLine
import ConstructorAction.Proofs.Synthesis.Lines

namespace ConstructorAction.Synthesis

open ConstructorAction.Settings ConstructorAction.Source ConstructorAction.Text

/-!
The first line of a constructor read back. A type that was read in a line has its commas inside of
angle brackets, so that the commas outside of them are those between the parameters
(`separated_intercalate`), and of these there is one for each member (`header_reads_back`).
-/

/-- What stands between those commas of a text that are outside of angle brackets; in front of the
text `depth` of them are open. -/
def outerPieces (depth : Nat) : List Char → List (List Char)
  | [] => [[]]
  | '<' :: rest => (outerPieces (depth + 1) rest).modifyHead ('<' :: ·)
  | '>' :: rest => (outerPieces (depth - 1) rest).modifyHead ('>' :: ·)
  | ',' :: rest =>
      if depth = 0 then [] :: outerPieces depth rest
      else (outerPieces depth rest).modifyHead (',' :: ·)
  | c :: rest => (outerPieces depth rest).modifyHead (c :: ·)

/-- A text without the one space that may stand in front of it. -/
def withoutSpace : List Char → List Char
  | ' ' :: rest => rest
  | text => text

/-- The pieces of a list that is written with a comma and a space between its elements. -/
def separated (text : List Char) : List (List Char) :=
  match outerPieces 0 text with
  | [] => []
  | first :: later => first :: later.map withoutSpace

variable {text rest : List Char}

/-- No comma of a text in which the brackets pair up is outside of them. -/
theorem outerPieces_append {depth : Nat} (inside : commasInsideBrackets depth text = true) :
    outerPieces depth (text ++ rest) = (outerPieces 0 rest).modifyHead (text ++ ·) := by
  fun_induction commasInsideBrackets depth text with
  | case1 depth =>
      obtain rfl := beq_iff_eq.mp inside
      exact (congrFun List.modifyHead_id (outerPieces 0 rest)).symm
  | case2 depth later ih =>
      rw [List.cons_append, outerPieces, ih inside, List.modifyHead_modifyHead]
      rfl
  | case3 depth later ih =>
      rw [List.cons_append, outerPieces, ih (Bool.and_eq_true_iff.mp inside).2,
        List.modifyHead_modifyHead]
      rfl
  | case4 depth later ih =>
      obtain ⟨opened, behind⟩ := Bool.and_eq_true_iff.mp inside
      rw [List.cons_append, outerPieces, if_neg (bne_iff_ne.mp opened), ih behind,
        List.modifyHead_modifyHead]
      rfl
  | case5 depth c later noOpening noClosing noComma ih =>
      rw [List.cons_append, outerPieces, ih inside, List.modifyHead_modifyHead]
      · rfl
      all_goals assumption

theorem commasInsideBrackets_append {depth : Nat}
    (inside : commasInsideBrackets depth text = true) :
    commasInsideBrackets depth (text ++ rest) = commasInsideBrackets 0 rest := by
  fun_induction commasInsideBrackets depth text with
  | case1 depth =>
      obtain rfl := beq_iff_eq.mp inside
      rfl
  | case2 depth later ih => exact ih inside
  | case3 depth later ih | case4 depth later ih =>
      obtain ⟨opened, behind⟩ := Bool.and_eq_true_iff.mp inside
      rw [List.cons_append, commasInsideBrackets, opened, ih behind, Bool.true_and]
  | case5 depth c later noOpening noClosing noComma ih =>
      rw [List.cons_append, commasInsideBrackets, ih inside]
      all_goals assumption

/-- A text without brackets and commas. -/
theorem commasInsideBrackets_of_free (free : ∀ mark ∈ ['<', '>', ','], mark ∉ text) :
    commasInsideBrackets 0 text = true := by
  refine commasInsideBrackets_iff.mpr ⟨fun front back same => ?_, ?_, fun front back same => ?_⟩
  · have noClosing : '>' ∉ front := fun member =>
      free '>' (by simp) (same ▸ List.mem_append_left back member)
    rw [List.count_eq_zero.mpr noClosing]
    exact Nat.zero_le _
  · rw [List.count_eq_zero.mpr (free '>' (by simp)), List.count_eq_zero.mpr (free '<' (by simp))]
  · exact absurd (same ▸ List.mem_append_right front List.mem_cons_self) (free ',' (by simp))

/-- Pieces in which the brackets pair up are found again between the commas. -/
theorem outerPieces_intercalate {first : List Char} {later : List (List Char)}
    (inside : ∀ text ∈ first :: later, commasInsideBrackets 0 text = true) :
    outerPieces 0 ([',', ' '].intercalate (first :: later)) = first :: later.map (' ' :: ·) := by
  induction later generalizing first with
  | nil =>
      have whole : outerPieces 0 (first ++ []) = (outerPieces 0 []).modifyHead (first ++ ·) :=
        outerPieces_append (inside first List.mem_cons_self)
      simpa [List.intercalate, outerPieces] using whole
  | cons next more ih =>
      obtain ⟨insideFirst, insideLater⟩ := List.forall_mem_cons.mp inside
      have pieces : outerPieces 0 (' ' :: [',', ' '].intercalate (next :: more)) =
          (' ' :: next) :: more.map (' ' :: ·) := by
        rw [outerPieces, ih insideLater, List.modifyHead_cons]
        all_goals decide
      rw [List.intercalate_cons_cons, List.append_assoc, outerPieces_append insideFirst,
        List.cons_append, List.singleton_append, outerPieces, if_pos rfl, pieces]
      simp

theorem separated_intercalate {texts : List (List Char)} (present : texts ≠ [])
    (inside : ∀ text ∈ texts, commasInsideBrackets 0 text = true) :
    separated ([',', ' '].intercalate texts) = texts := by
  obtain ⟨first, later, rfl⟩ := List.exists_cons_of_ne_nil present
  simp [separated, outerPieces_intercalate inside, Function.comp_def, withoutSpace]

/-- The type and the name of a member were read in a line. -/
def ReadInLine (member : MemberDeclaration) : Prop :=
  ∃ line, '\n' ∉ line ∧
    (field? line = some ⟨member.declaredType.toList, member.name.toList⟩ ∨
      property? line = some ⟨member.declaredType.toList, member.name.toList⟩)

section ReadInLine

variable {member : MemberDeclaration}

theorem ReadInLine.exists_foundIn (read : ReadInLine member) : ∃ line, '\n' ∉ line ∧
    Member.FoundIn ⟨member.declaredType.toList, member.name.toList⟩ line := by
  obtain ⟨line, whole, isField | isProperty⟩ := read
  · exact ⟨line, whole, foundIn_of_field? isField⟩
  · exact ⟨line, whole, foundIn_of_property? isProperty⟩

theorem ReadInLine.writable (read : ReadInLine member) : Writable member := by
  obtain ⟨line, whole, foundIn⟩ := read.exists_foundIn
  exact writable_of_foundIn foundIn whole rfl rfl

theorem ReadInLine.notMem_declaredType (read : ReadInLine member) {mark : Char}
    (outside : isTypeChar mark = false) : mark ∉ member.declaredType.toList := by
  obtain ⟨line, -, foundIn⟩ := read.exists_foundIn
  intro inType
  rw [(foundIn.type mark inType).1] at outside
  cases outside

theorem ReadInLine.paired (read : ReadInLine member) : Paired 0 member.declaredType.toList := by
  obtain ⟨line, whole, isField | isProperty⟩ := read
  · obtain ⟨_, _, _, _, _, _, _, _, paired⟩ := (field?_eq_some_iff whole _).mp isField
    exact paired
  · obtain ⟨_, _, _, _, _, _, _, _, paired⟩ := (property?_eq_some_iff _).mp isProperty
    exact paired

end ReadInLine

/-- A list of members in the order of their lines; those of one line are in the given order. -/
structure InLineOrder (members ordered : List MemberDeclaration) : Prop where
  perm : ordered.Perm members
  ascending : ordered.Pairwise fun above below => above.line ≤ below.line
  ties : ∀ line, ordered.filter (·.line == line) = members.filter (·.line == line)

theorem sorts_line : Sorts fun above below : MemberDeclaration => above.line ≤ below.line where
  trans := by
    simp only [decide_eq_true_eq]
    exact fun _ _ _ => Nat.le_trans
  total := by
    simp only [Bool.or_eq_true, decide_eq_true_eq]
    exact fun above below => Nat.le_total above.line below.line

theorem inLineOrder_byLine (members : List MemberDeclaration) :
    InLineOrder members (byLine members) where
  perm := byLine_perm members
  ascending := (List.pairwise_mergeSort sorts_line.trans sorts_line.total members).imp
    of_decide_eq_true
  ties line := by
    refine sorts_line.filter_mergeSort (List.pairwise_of_forall_mem_list ?_)
    intro above inAbove below inBelow
    have atLine {member : MemberDeclaration} (kept : member ∈ members.filter (·.line == line)) :
        member.line = line := beq_iff_eq.mp (List.mem_filter.mp kept).2
    rw [atLine inAbove, atLine inBelow]
    exact decide_eq_true (Nat.le_refl line)

def declared (member : MemberDeclaration) (name : String) : List Char :=
  member.declaredType.toList ++ ' ' :: name.toList

theorem parameterList_constructorOf (rule : AssignmentRule) (owner : TypeDeclaration)
    (members : List MemberDeclaration) :
    parameterList (constructorOf rule owner members) = [',', ' '].intercalate
      (List.zipWith declared (byLine members) (parameterNames (byLine members))) := by
  have text (member : MemberDeclaration) (name : String) :
      (parameterOf member name).text.toList = declared member name := by
    simp [Parameter.text, parameterOf, declared]
  rw [parameterList, String.toList_intercalate, constructorOf, List.map_map, List.map_map,
    ← List.map_uncurry_zip_eq_zipWith]
  congr 1
  exact List.map_congr_left fun named _ => text named.1 named.2

variable {members : List MemberDeclaration}

/-- The brackets of a type pair up, and the name of a parameter brings in no others. -/
theorem commasInsideBrackets_declared {member : MemberDeclaration} (read : ReadInLine member)
    (identifiers : ∀ member ∈ members, isIdentifier member.name.toList = true) {name : String}
    (named : name ∈ parameterNames members) :
    commasInsideBrackets 0 (declared member name) = true := by
  have inType : commasInsideBrackets 0 member.declaredType.toList = true :=
    commasInsideBrackets_iff.mpr read.paired
  have punctuation : ['<', '>', ','].all isPunctuation = true := by decide
  have noSpace : ' ' ∉ ['<', '>', ','] := by decide
  rw [declared, commasInsideBrackets_append inType]
  refine commasInsideBrackets_of_free fun mark separating => ?_
  rw [List.mem_cons, not_or]
  exact ⟨fun same => noSpace (same ▸ separating),
    punctuation_notMem_parameterNames identifiers named
      (List.all_eq_true.mp punctuation mark separating)⟩

theorem separated_parameterList (rule : AssignmentRule) (owner : TypeDeclaration)
    (present : members ≠ []) (read : ∀ member ∈ members, ReadInLine member) :
    separated (parameterList (constructorOf rule owner members)) =
      List.zipWith declared (byLine members) (parameterNames (byLine members)) := by
  have identifiers : ∀ member ∈ byLine members, isIdentifier member.name.toList = true :=
    fun member inOrder => (read member (mem_byLine.mp inOrder)).writable.name
  rw [parameterList_constructorOf]
  refine separated_intercalate (fun none => ?_) fun text inTexts => ?_
  · have size := congrArg List.length none
    simp only [List.length_zipWith, length_parameterNames, length_byLine] at size
    exact present (List.length_eq_zero_iff.mp (by simpa using size))
  · rw [← List.map_uncurry_zip_eq_zipWith] at inTexts
    obtain ⟨⟨member, name⟩, paired, rfl⟩ := List.mem_map.mp inTexts
    obtain ⟨inOrder, inNames⟩ := List.of_mem_zip paired
    exact commasInsideBrackets_declared (read member (mem_byLine.mp inOrder)) identifiers inNames

theorem head?_lines_constructorText (settings : Settings) {owner : TypeDeclaration}
    (named : isIdentifier owner.typeName.toList = true)
    (writable : ∀ member ∈ members, Writable member) :
    (lines (constructorText settings owner members).toList).head? =
      some ((indentation settings.tabSize (levels settings.strategy.indent).1).toList ++
        ("public ".toList ++ (owner.typeName.toList ++ '(' ::
          (parameterList (constructorOf settings.strategy.assignment owner members) ++
            [')'])))) := by
  have first : ((constructorLines settings owner members).map String.toList).head? =
      some (indentation settings.tabSize (levels settings.strategy.indent).1 ++
        (constructorOf settings.strategy.assignment owner members).header).toList := rfl
  rw [lines_constructorText fun line => framed_of_mem_constructorLines named writable, first,
    String.toList_append, toList_header]
  rfl

/-- Between the parentheses of the first line, of which there are no others, there is one piece for
each member in the order of their lines: the type of the member and the name of its parameter. -/
theorem header_reads_back (settings : Settings) (owner : TypeDeclaration)
    (members : List MemberDeclaration) (named : isIdentifier owner.typeName.toList = true)
    (present : members ≠ []) (read : ∀ member ∈ members, ReadInLine member) :
    let ordered := byLine members
    InLineOrder members ordered ∧ ∃ parameters,
      (lines (constructorText settings owner members).toList).head? =
        some ((indentation settings.tabSize (levels settings.strategy.indent).1).toList ++
          ("public ".toList ++ (owner.typeName.toList ++ '(' :: (parameters ++ [')'])))) ∧
      '(' ∉ parameters ∧ ')' ∉ parameters ∧
      (separated parameters).length = members.length ∧
      separated parameters = List.zipWith declared ordered (parameterNames ordered) := by
  intro ordered
  have writable : ∀ member ∈ members, Writable member :=
    fun member inMembers => (read member inMembers).writable
  have pieces := separated_parameterList settings.strategy.assignment owner present read
  have absent {mark : Char} (punctuation : isPunctuation mark = true)
      (noSeparator : mark ∉ [',', ' ']) (outside : isTypeChar mark = false) :
      mark ∉ parameterList (constructorOf settings.strategy.assignment owner members) :=
    punctuation_notMem_parameterList _ owner
      (fun member inMembers => (writable member inMembers).name) punctuation noSeparator
      fun member inMembers => (read member inMembers).notMem_declaredType outside
  have noOpening := @absent '(' (by decide) (by decide) (by decide)
  have noClosing := @absent ')' (by decide) (by decide) (by decide)
  refine ⟨inLineOrder_byLine members, _, head?_lines_constructorText settings named writable,
    noOpening, noClosing, ?_, pieces⟩
  rw [pieces]
  simp

/-- Two members of one line, and one of a line before it that is given last. -/
theorem header_reads_back_of_nested_types :
    let owner : TypeDeclaration := ⟨"Store", 1, 9⟩
    let table : MemberDeclaration := ⟨owner, "Dictionary<string, List<int>>", "_table", 4, .field⟩
    let pair : MemberDeclaration := ⟨owner, "Tuple<int,int>", "Table", 4, .property⟩
    let name : MemberDeclaration := ⟨owner, "string", "Name", 2, .field⟩
    isIdentifier owner.typeName.toList = true ∧ [table, pair, name] ≠ [] ∧
      (∀ member ∈ [table, pair, name], ReadInLine member) ∧
      InLineOrder [table, pair, name] [name, table, pair] ∧ ∃ parameters,
        (lines (constructorText { strategy := .legacy } owner [table, pair, name]).toList).head? =
          some ("        public Store(".toList ++ (parameters ++ [')'])) ∧
        separated parameters = ["string name", "Dictionary<string, List<int>> table",
          "Tuple<int,int> table2"].map String.toList := by
  intro owner table pair name
  have named : isIdentifier owner.typeName.toList = true := by decide
  have present : [table, pair, name] ≠ [] := List.cons_ne_nil _ _
  have read : ∀ member ∈ [table, pair, name], ReadInLine member := by
    simp only [List.forall_mem_cons, List.not_mem_nil, false_implies, implies_true, and_true]
    exact ⟨⟨"  Dictionary<string, List<int>> _table;".toList, by decide, .inl (by decide +kernel)⟩,
      ⟨"  Tuple<int,int> Table \x7b get; set; \x7d".toList, by decide, .inr (by decide +kernel)⟩,
      ⟨"string Name;".toList, by decide, .inl (by decide +kernel)⟩⟩
  have ordered : byLine [table, pair, name] = [name, table, pair] := by
    simp [byLine, List.mergeSort, table, pair, name]
  have names : parameterNames [name, table, pair] = ["name", "table", "table2"] := by
    decide +kernel
  obtain ⟨inOrder, parameters, first, -, -, -, pieces⟩ :=
    header_reads_back { strategy := .legacy } owner [table, pair, name] named present read
  rw [ordered] at inOrder pieces
  rw [names] at pieces
  refine ⟨named, present, read, inOrder, parameters, ?_, by rw [pieces]; decide⟩
  have front : List.replicate 8 ' ' ++ ("public ".toList ++ ("Store".toList ++ ['('])) =
      "        public Store(".toList := by decide
  rw [first, toList_indentation, ← front]
  simp [owner, levels, Strategy.legacy]

end ConstructorAction.Synthesis
