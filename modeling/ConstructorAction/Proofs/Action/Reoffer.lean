import ConstructorAction.Proofs.Action.Commit
import ConstructorAction.Proofs.Action.Offer
import ConstructorAction.Proofs.Document.Insertion
import ConstructorAction.Proofs.Layout.Declarations

namespace ConstructorAction.Action

open ConstructorAction.Document ConstructorAction.Layout ConstructorAction.Settings
  ConstructorAction.Source ConstructorAction.Synthesis ConstructorAction.Text

/-!
A request that is prepared once more after it was carried out. The constructor declares nothing, and
neither its insertion nor the new layout changes what the lines around it declare, so that the type
has its members as before, further below (`prepare_again`).
-/

theorem follows_self (lines : List (List Char)) (declaration : Nat × List Char) :
    Follows id declaration lines lines := follows_of_alike rfl rfl

/-- The basic formatter leaves the lines as they are or indents them, and then a blank line at the
end may be lost. -/
theorem lines_of_laidOut {tabSize : Nat} {before after : Buffer} {outcome : ReformatOutcome}
    (laidOut : LaidOut (.basic tabSize) before after outcome) :
    after.lines = before.lines ∨ after.lines = indent tabSize before.lines ∨
      before.text.toList.getLast? ≠ some '\n' ∧
        (indent tabSize before.lines).getLast? = some [] ∧
        after.lines = (indent tabSize before.lines).dropLast := by
  cases outcome with
  | disabled | unchanged | failed reason =>
      obtain rfl : after = before := laidOut
      exact .inl rfl
  | applied count =>
      obtain ⟨-, edits, proposed, -, landed⟩ := laidOut
      obtain rfl := Except.ok.inj proposed
      exact .inr (lines_of_indented landed)

/-- Laying a document out by the basic formatter changes nothing of what it declares. -/
theorem follows_of_laidOut {tabSize : Nat} {before after : Buffer} {outcome : ReformatOutcome}
    (laidOut : LaidOut (.basic tabSize) before after outcome) (declaration : Nat × List Char) :
    Follows id declaration before.lines after.lines := by
  cases outcome with
  | disabled | unchanged | failed reason =>
      obtain rfl : after = before := laidOut
      exact follows_self after.lines declaration
  | applied count =>
      obtain ⟨-, edits, proposed, -, landed⟩ := laidOut
      obtain rfl := Except.ok.inj proposed
      exact follows_of_indented landed declaration

section Insertion

variable {settings : Settings} {request : ConstructorRequest} {before after : Buffer}

/-- The lines of the constructor stand in front of the line that the request names. -/
theorem lines_of_inserted {first : Nat}
    (framed : ∀ line ∈ constructorLines settings request.owningType request.members,
      Framed line.toList)
    (inside : first < before.lines.length) (position : request.insertionPosition = ⟨first, 0⟩)
    (inserted : Inserted settings request before after) :
    after.lines = before.lines.take first ++
      (constructorLines settings request.owningType request.members).map String.toList ++
        before.lines.drop first := by
  obtain ⟨offset, found, rfl⟩ := inserted
  rw [position] at found
  have present : (constructorLines settings request.owningType request.members).map
      String.toList ≠ [] := by
    rw [← List.length_pos_iff, List.length_map, length_constructorLines]
    exact Nat.zero_lt_succ _
  have fits : ∀ line ∈ (constructorLines settings request.owningType request.members).map
      String.toList, '\n' ∉ line ∧ line.getLast? ≠ some '\r' :=
    List.forall_mem_map.mpr fun line inLines =>
      ⟨(framed line inLines).lineFeed_notMem, (framed line inLines).noReturn⟩
  have placed := lines_insertion present fits inside found
  rw [← toList_constructorText] at placed
  rw [Buffer.lines, String.toList_ofList]
  exact placed

theorem follows_of_inserted {first : Nat} {declaration : Nat × List Char}
    (framed : ∀ line ∈ constructorLines settings request.owningType request.members,
      Framed line.toList)
    (above : declaration.1 < first) (inside : first < before.lines.length)
    (position : request.insertionPosition = ⟨first, 0⟩)
    (inserted : Inserted settings request before after) :
    Follows (behind first (request.members.length + 3)) declaration before.lines after.lines := by
  have silent : ∀ line ∈ (constructorLines settings request.owningType request.members).map
      String.toList, Silent line :=
    List.forall_mem_map.mpr fun line inLines => (framed line inLines).silent
  have length : (before.lines.take first).length = first :=
    List.length_take_of_le (Nat.le_of_lt inside)
  have reached : declaration.1 < (before.lines.take first).length := by rwa [length]
  have follows : Follows _ declaration (before.lines.take first ++ before.lines.drop first) _ :=
    follows_insertion silent reached
  rw [List.take_append_drop, ← lines_of_inserted framed inside position inserted, length,
    List.length_map, length_constructorLines] at follows
  exact follows

end Insertion

theorem byLine_members (lines : List (List Char)) (declaration : Nat × List Char) :
    byLine (members lines (typeOf lines.length declaration)) =
      members lines (typeOf lines.length declaration) := by
  refine byLine_of_ordered ?_
  rw [members_eq]
  exact pairwise_membersFrom _ _

/-- Members of a document can be written into the lines of a constructor. -/
theorem writable_of_mem_members {text : List Char} {owner : TypeDeclaration}
    {member : MemberDeclaration} (inMembers : member ∈ members (lines text) owner) :
    Writable member := by
  obtain ⟨-, -, line, found, declaration, present, read, -, -, same⟩ := mem_members_iff.mp inMembers
  have foundIn := foundIn_of_mem_lineMembers read
  have whole : '\n' ∉ line := lineFeed_notMem_of_mem_lines (List.mem_of_getElem? present)
  rw [same]
  exact writable_of_foundIn foundIn whole (by rw [declaredMember, String.toList_ofList])
    (by rw [declaredMember, String.toList_ofList])

theorem exists_insertionPosition? {members : List MemberDeclaration} (present : members ≠ [])
    (rule : InsertionRule) (owner : TypeDeclaration) (cursor : Position) :
    ∃ position, insertionPosition? rule owner members cursor = some position := by
  obtain ⟨member, more, rfl⟩ := List.exists_cons_of_ne_nil present
  exact ⟨_, rfl⟩

/-- Under the rule of the first member the position is the start of the least line of a member. -/
theorem insertionPosition?_firstMember {members : List MemberDeclaration} {owner : TypeDeclaration}
    {cursor position : Position}
    (placed : insertionPosition? .firstMember owner members cursor = some position) :
    ∃ first, position = ⟨first, 0⟩ ∧ (∃ member ∈ members, member.line = first) ∧
      ∀ member ∈ members, first ≤ member.line := by
  obtain ⟨first, least, rfl⟩ := Option.map_eq_some_iff.mp placed
  obtain ⟨inLines, below⟩ := List.min?_eq_some_iff.mp least
  obtain ⟨member, inMembers, same⟩ := List.mem_map.mp inLines
  exact ⟨first, rfl, ⟨member, inMembers, same⟩, fun other inOthers =>
    below other.line (List.mem_map_of_mem inOthers)⟩

/-- A request as it is prepared under the rule of the first member. -/
structure AtFirstMember (request : ConstructorRequest) (buffer : Buffer)
    (declaration : Nat × List Char) (first : Nat) : Prop where
  own : declarationAt? (declarations buffer.lines) declaration.1 = some declaration
  owningType : request.owningType = typeOf buffer.lines.length declaration
  members : request.members = members buffer.lines (typeOf buffer.lines.length declaration)
  position : request.insertionPosition = ⟨first, 0⟩
  present : request.members ≠ []
  above : declaration.1 < first
  inside : first < buffer.lines.length
  below : ∀ member ∈ request.members, first ≤ member.line

section Again

variable {σ : Type} [Host σ] {host after : σ} {settings : Settings} {formatter : Formatter}
  {document : DocumentId} {cursor : Position} {request : ConstructorRequest}

theorem atFirstMember_of_prepare (rule : settings.strategy.insertion = .firstMember)
    (prepared : prepare host settings document cursor = .ok request) :
    request.document = document ∧ ∃ buffer declaration first,
      buffer? host document = some buffer ∧ AtFirstMember request buffer declaration first := by
  obtain ⟨buffer, owner, position, opened, enclosing, placed, rfl⟩ := prepare_eq_ok_iff.mp prepared
  obtain ⟨declaration, found, rfl⟩ := enclosingType?_eq_some_iff.mp enclosing
  rw [byLine_members, rule] at placed
  rw [byLine_members]
  obtain ⟨first, rfl, ⟨top, inMembers, rfl⟩, below⟩ := insertionPosition?_firstMember placed
  obtain ⟨above, inside, -⟩ := mem_members_iff.mp inMembers
  refine ⟨rfl, buffer, declaration, top.line, opened, ?_⟩
  exact ⟨declarationAt?_self found, rfl, rfl, rfl, List.ne_nil_of_mem inMembers, above, inside,
    below⟩

/-- What a prepared request writes can be put between the lines of its document. -/
theorem AtFirstMember.framed {buffer : Buffer} {declaration : Nat × List Char} {first : Nat}
    (prepared : AtFirstMember request buffer declaration first) (settings : Settings) :
    ∀ line ∈ constructorLines settings request.owningType request.members,
      Framed line.toList := by
  have named : isIdentifier request.owningType.typeName.toList = true := by
    obtain ⟨-, text, -, declared⟩ :=
      mem_declarations_iff.mp (mem_of_declarationAt? prepared.own).1
    rw [prepared.owningType, typeOf, String.toList_ofList]
    exact isIdentifier_of_declaredType? declared
  have writable : ∀ member ∈ request.members, Writable member := by
    rw [prepared.members]
    exact fun _ => writable_of_mem_members
  exact fun line => framed_of_mem_constructorLines named writable

/-- At the line of its declaration a type is offered with the members that have moved along. -/
theorem prepare_of_follows {buffer final : Buffer} {move : Nat → Nat}
    {declaration : Nat × List Char} {first : Nat}
    (prepared : AtFirstMember request buffer declaration first)
    (opened : buffer? after document = some final) (monotone : StrictMono move)
    (stays : move declaration.1 = declaration.1)
    (follows : Follows move declaration buffer.lines final.lines) (settings : Settings)
    (character : Nat) :
    ∃ again, prepare after settings document ⟨declaration.1, character⟩ = .ok again ∧
      again.owningType = typeOf final.lines.length declaration ∧
      again.members = request.members.map (movedMember final.lines.length move) := by
  have still : movedDeclaration move declaration = declaration := by rw [movedDeclaration, stays]
  have enclosing : declarationAt? (declarations final.lines) declaration.1 = some declaration := by
    have moved := declarationAt?_moved monotone (declarations buffer.lines) declaration.1
    rwa [stays, prepared.own, Option.map_some, still, ← follows.declared] at moved
  have collected := follows.collected
  rw [still, ← prepared.members] at collected
  have some : members final.lines (typeOf final.lines.length declaration) ≠ [] := by
    rw [collected]
    simpa using prepared.present
  obtain ⟨position, placed⟩ := exists_insertionPosition? some settings.strategy.insertion
    (typeOf final.lines.length declaration) ⟨declaration.1, character⟩
  refine ⟨_, prepare_eq_ok_iff.mpr ⟨final, _, position, opened,
    enclosingType?_eq_some_iff.mpr ⟨declaration, enclosing, rfl⟩, ?_, rfl⟩, rfl, ?_⟩
  · rw [byLine_members]
    exact placed
  · rw [byLine_members, collected]

theorem laidOut_basic_of_run {tabSize : Nat} {outcome : Outcome} {before final : Buffer}
    (layout : settings.reformatAfterChange = false ∨ formatter = .basic tabSize)
    (ran : run host settings formatter request = (.ok outcome, after))
    (laidOut : LaidOut formatter before final outcome.reformat) :
    LaidOut (.basic tabSize) before final outcome.reformat := by
  rcases layout with off | rfl
  · obtain ⟨-, middle, -, rfl, -⟩ := run_eq_ok_iff.mp ran
    have disabled : (layOut middle settings formatter request.document).1 = .disabled := by
      simp [layOut, off]
    rw [report, disabled] at laidOut ⊢
    exact laidOut
  · exact laidOut

/-- After a run the document declares what it declared, below the constructor further below. -/
theorem follows_of_run [LawfulHost σ] {buffer : Buffer} {declaration : Nat × List Char}
    {first tabSize : Nat} {outcome : Outcome}
    (layout : settings.reformatAfterChange = false ∨ formatter = .basic tabSize)
    (prepared : AtFirstMember request buffer declaration first)
    (opened : buffer? host request.document = some buffer)
    (ran : run host settings formatter request = (.ok outcome, after)) :
    ∃ final, buffer? after request.document = some final ∧
      Follows (behind first (request.members.length + 3)) declaration buffer.lines final.lines := by
  obtain ⟨-, -, before, middle, next, final, sameOpened, -, -, inserted, laidOut, rewrites⟩ :=
    rewrites_of_run ran
  obtain rfl := Option.some.inj (opened.symm.trans sameOpened)
  have placed := follows_of_inserted (prepared.framed settings) prepared.above prepared.inside
    prepared.position inserted
  -- the layout moves no line up or down: the composed move is that of the insertion
  have laid := follows_of_laidOut (laidOut_basic_of_run layout ran laidOut)
  exact ⟨final, rewrites.opened, placed.trans (laid _)⟩

/-- All of a member but its line. -/
def signature (member : MemberDeclaration) : String × String × String × MemberKind :=
  (member.owningType.typeName, member.declaredType, member.name, member.kind)

/-- A request that was carried out under the rule of the first member can be prepared again at the
line of its type. It names the same type and the same members, each as many lines further below as
the constructor has, and no line of the constructor declares anything. -/
theorem prepare_again [LawfulHost σ] (host after : σ) (settings : Settings) (formatter : Formatter)
    (document : DocumentId) (cursor : Position) (request : ConstructorRequest) (outcome : Outcome)
    (tabSize character : Nat) (rule : settings.strategy.insertion = .firstMember)
    (layout : settings.reformatAfterChange = false ∨ formatter = .basic tabSize)
    (prepared : prepare host settings document cursor = .ok request)
    (ran : run host settings formatter request = (.ok outcome, after)) :
    (∃ again, prepare after settings document ⟨request.owningType.startLine, character⟩ =
        .ok again ∧
      again.owningType.typeName = request.owningType.typeName ∧
      again.owningType.startLine = request.owningType.startLine ∧
      again.members.map (fun member => (signature member, member.line)) =
        request.members.map fun member =>
          (signature member, member.line + (request.members.length + 3))) ∧
    ∀ line ∈ constructorLines settings request.owningType request.members,
      declaredType? line.toList = none ∧ lineMembers line.toList = [] := by
  obtain ⟨rfl, buffer, declaration, first, opened, atFirst⟩ :=
    atFirstMember_of_prepare rule prepared
  obtain ⟨final, openedAfter, follows⟩ := follows_of_run layout atFirst opened ran
  obtain ⟨again, preparedAgain, owner, shifted⟩ := prepare_of_follows atFirst openedAfter
    (strictMono_behind first _) (behind_of_lt atFirst.above _) follows settings character
  have start : request.owningType.startLine = declaration.1 := by rw [atFirst.owningType]; rfl
  refine ⟨⟨again, start ▸ preparedAgain, ?_, ?_, ?_⟩, fun line member => ?_⟩
  · rw [owner, atFirst.owningType]
    rfl
  · rw [owner, atFirst.owningType]
    rfl
  · rw [shifted, List.map_map]
    refine List.map_congr_left fun member inMembers => ?_
    have moved := behind_of_le (atFirst.below member inMembers) (request.members.length + 3)
    simp [signature, movedMember, moved]
  · have framed := atFirst.framed settings line member
    exact ⟨framed.silent.noType, framed.silent.noMember⟩

end Again

/-- The two members of a type stand five lines further below than before. -/
theorem prepare_again_of_two_members :
    let text := "\nclass A\n\x7b\n int x;\n public string Name \x7b get; \x7d\n\x7d\n"
    let workspace : Workspace := ⟨[{ id := "a.cs", text }]⟩
    ∃ request outcome after again, prepare workspace {} "a.cs" ⟨3, 0⟩ = .ok request ∧
      request.members.map MemberDeclaration.line = [3, 4] ∧
      run workspace {} (.basic 4) request = (.ok outcome, after) ∧
      prepare after {} "a.cs" ⟨1, 0⟩ = .ok again ∧
      again.members.map MemberDeclaration.line = [8, 9] := by
  intro text workspace
  let buffer : Buffer := { id := "a.cs", text }
  let owner : TypeDeclaration := ⟨"A", 1, 6⟩
  let collected : List MemberDeclaration :=
    [⟨owner, "int", "x", 3, .field⟩, ⟨owner, "string", "Name", 4, .property⟩]
  let request : ConstructorRequest := ⟨"a.cs", owner, collected, ⟨3, 0⟩⟩
  have opened : workspace.find? "a.cs" = some buffer := by decide +kernel
  have enclosing : enclosingType? buffer.lines 3 = some owner := by decide +kernel
  have declared : members buffer.lines owner = collected := by decide +kernel
  have ordered : byLine (members buffer.lines owner) = collected := by
    have same : typeOf buffer.lines.length (1, ['A']) = owner := by decide +kernel
    rw [← same, byLine_members, same, declared]
  have prepared : prepare workspace {} "a.cs" ⟨3, 0⟩ = .ok request :=
    prepare_eq_ok_iff.mpr ⟨buffer, owner, ⟨3, 0⟩, opened, enclosing, by rw [ordered]; rfl,
      by rw [ordered]⟩
  have inText : (offset? buffer.text.toList ⟨3, 0⟩).isSome := by decide +kernel
  obtain ⟨outcome, succeeds⟩ := run_isOk_iff.mpr
    ⟨show request.members ≠ [] from List.cons_ne_nil _ _, (place_eq_ok_iff opened).mpr inText⟩
  have ran : run workspace {} (.basic 4) request =
      (.ok outcome, (run workspace {} (.basic 4) request).2) := Prod.ext succeeds rfl
  obtain ⟨⟨again, preparedAgain, -, -, same⟩, -⟩ := prepare_again workspace _ {} (.basic 4) "a.cs"
    ⟨3, 0⟩ request outcome 4 0 rfl (.inr rfl) prepared ran
  have lines := congrArg (List.map Prod.snd) same
  rw [List.map_map, List.map_map] at lines
  exact ⟨request, outcome, _, again, prepared, rfl, ran, preparedAgain, lines⟩

end ConstructorAction.Action
