import ConstructorAction.Action.Provider
import ConstructorAction.Proofs.Source.Scope
import ConstructorAction.Proofs.Synthesis.Meaning
import ConstructorAction.Proofs.Wire.RoundTrip

namespace ConstructorAction.Action

open ConstructorAction.Document ConstructorAction.Layout ConstructorAction.Settings
  ConstructorAction.Source ConstructorAction.Synthesis ConstructorAction.Wire

/-!
A command brings back the request that it was made from (`offer_carries_request`). A prepared
request only has line numbers in it that are in the document, apart from the line of the cursor.
-/

variable {σ : Type} [Host σ] {host : σ} {settings : Settings} {formatter : Formatter}
  {document : DocumentId} {cursor : Position} {request : ConstructorRequest}

theorem prepare_eq_ok_iff : prepare host settings document cursor = .ok request ↔
    ∃ buffer owner position, buffer? host document = some buffer ∧
      enclosingType? buffer.lines cursor.line = some owner ∧
      insertionPosition? settings.strategy.insertion owner (byLine (members buffer.lines owner))
        cursor = some position ∧
      request = ⟨document, owner, byLine (members buffer.lines owner), position⟩ := by
  constructor
  · intro prepared
    unfold prepare at prepared
    split at prepared
    · cases prepared
    · next buffer opened =>
        split at prepared
        · cases prepared
        · next owner enclosing =>
            simp only at prepared
            split at prepared
            · cases prepared
            · next position placed =>
                cases prepared
                exact ⟨buffer, owner, position, opened, enclosing, placed, rfl⟩
  · rintro ⟨buffer, owner, position, opened, enclosing, placed, rfl⟩
    simp only [prepare, opened, enclosing, placed]

/-- Members that stand in the order of their lines are prepared as they are. -/
theorem prepare_of_ordered {buffer : Buffer} {owner : TypeDeclaration}
    {collected : List MemberDeclaration} {position : Position}
    (opened : buffer? host document = some buffer)
    (enclosing : enclosingType? buffer.lines cursor.line = some owner)
    (declared : members buffer.lines owner = collected)
    (ordered : collected.Pairwise fun above below => above.line ≤ below.line)
    (placed : insertionPosition? settings.strategy.insertion owner collected cursor =
      some position) :
    prepare host settings document cursor = .ok ⟨document, owner, collected, position⟩ := by
  have kept : byLine (members buffer.lines owner) = collected := by
    rw [declared, byLine_of_ordered ordered]
  exact prepare_eq_ok_iff.mpr ⟨buffer, owner, position, opened, enclosing, by rwa [kept],
    by rw [kept]⟩

theorem mem_offer_iff {command : Command} :
    command ∈ offer host settings document cursor ↔
      ∃ request, prepare host settings document cursor = .ok request ∧
        command = request.toCommand := by
  unfold offer
  cases prepare host settings document cursor with
  | error problem => simp
  | ok request => simp

/-- The line of the cursor is taken under its rule, if the cursor is below the declaration, and else
the line of some member. -/
theorem insertionPosition?_cases {rule : InsertionRule} {owner : TypeDeclaration}
    {members : List MemberDeclaration} {position : Position}
    (placed : insertionPosition? rule owner members cursor = some position) :
    position.character = 0 ∧
      ((rule = .cursor ∧ owner.startLine < cursor.line ∧ position.line = cursor.line) ∨
        ((rule = .firstMember ∨ cursor.line ≤ owner.startLine) ∧
          ∃ member ∈ members, position.line = member.line)) := by
  obtain ⟨first, least, rfl⟩ := Option.map_eq_some_iff.mp placed
  obtain ⟨member, inMembers, rfl⟩ := List.mem_map.mp (List.min?_mem least)
  cases rule with
  | firstMember => exact ⟨rfl, .inr ⟨.inl rfl, member, inMembers, rfl⟩⟩
  | cursor =>
      dsimp only
      split
      · next below => exact ⟨rfl, .inl ⟨rfl, below, rfl⟩⟩
      · next above => exact ⟨rfl, .inr ⟨.inr (Nat.le_of_not_lt above), member, inMembers, rfl⟩⟩

theorem ne_nil_of_insertionPosition? {rule : InsertionRule} {owner : TypeDeclaration}
    {members : List MemberDeclaration} {position : Position}
    (placed : insertionPosition? rule owner members cursor = some position) : members ≠ [] := by
  rintro rfl
  cases placed

theorem ofCommand_toCommand (fits : Fits request) :
    ConstructorRequest.ofCommand request.toCommand = .ok request := by
  have known : ¬ request.toCommand.command ≠ commandName := fun differ => differ rfl
  have back : decode (encode request) = .ok request := decode_encode fits
  rw [ConstructorRequest.ofCommand, if_neg known]
  simp only [ConstructorRequest.toCommand]
  rw [back]
  rfl

theorem execute_toCommand (fits : Fits request) :
    execute host settings formatter request.toCommand = run host settings formatter request := by
  rw [execute, ofCommand_toCommand fits]

theorem fits_typeOf {lines : List (List Char)} {line : Nat} {declaration : Nat × List Char}
    (found : declarationAt? (declarations lines) line = some declaration)
    (bounded : lines.length < Text.wordLimit) : Fits (typeOf lines.length declaration) := by
  have start : declaration.1 < lines.length := (declarationAt?_bounds found).2.2
  exact ⟨Nat.lt_trans start bounded, bounded⟩

/-- What is prepared fits into a command if the number of lines and the cursor do. -/
theorem fits_of_prepare {buffer : Buffer} (opened : buffer? host document = some buffer)
    (lineCount : buffer.lineCount < Text.wordLimit) (cursorLine : cursor.line < Text.wordLimit)
    (prepared : prepare host settings document cursor = .ok request) : Fits request := by
  obtain ⟨_, owner, position, sameOpened, enclosing, placed, rfl⟩ := prepare_eq_ok_iff.mp prepared
  obtain rfl := Option.some.inj (opened.symm.trans sameOpened)
  obtain ⟨declaration, found, rfl⟩ := enclosingType?_eq_some_iff.mp enclosing
  have inMembers : ∀ member ∈
      byLine (members buffer.lines (typeOf buffer.lines.length declaration)),
      member.line < Text.wordLimit ∧ Fits member := by
    intro member inOrder
    obtain ⟨_, before, _, _, other, _, _, inner, _, same⟩ :=
      mem_members_iff.mp (mem_byLine.mp inOrder)
    have line : member.line < Text.wordLimit := Nat.lt_trans before lineCount
    -- a member names the declaration nearest to it, which need not be the one of the cursor
    have owner : Fits member.owningType := by
      rw [same]
      exact fits_typeOf inner lineCount
    exact ⟨line, owner, line⟩
  obtain ⟨character, place⟩ := insertionPosition?_cases placed
  have line : position.line < Text.wordLimit := by
    rcases place with ⟨_, _, atCursor⟩ | ⟨_, member, inOrder, atMember⟩
    · rwa [atCursor]
    · rw [atMember]
      exact (inMembers member inOrder).1
  refine ⟨fits_typeOf found lineCount, fun member inOrder => (inMembers member inOrder).2,
    line, ?_⟩
  rw [character]
  exact Nat.zero_lt_of_lt line

/-- The lines, ends and columns that a request names. -/
def ConstructorRequest.numbers (request : ConstructorRequest) : List Nat :=
  let span (owner : TypeDeclaration) := [owner.startLine, owner.endLine]
  span request.owningType ++
    request.members.flatMap (fun member => member.line :: span member.owningType) ++
      [request.insertionPosition.line, request.insertionPosition.character]

theorem fits_of_numbers (bounded : ∀ number ∈ request.numbers, number < Text.wordLimit) :
    Fits request := by
  obtain ⟨others, place⟩ := List.forall_mem_append.mp bounded
  obtain ⟨owner, inMembers⟩ := List.forall_mem_append.mp others
  have ofMember : ∀ member ∈ request.members, Fits member := by
    intro member declared
    have small : ∀ number ∈ [member.line, member.owningType.startLine, member.owningType.endLine],
        number < Text.wordLimit :=
      fun number named => inMembers number (List.mem_flatMap.mpr ⟨member, declared, named⟩)
    simp only [List.forall_mem_cons] at small
    obtain ⟨line, start, stop, -⟩ := small
    exact ⟨⟨start, stop⟩, line⟩
  simp only [List.forall_mem_cons] at owner place
  obtain ⟨start, stop, -⟩ := owner
  obtain ⟨line, character, -⟩ := place
  exact ⟨⟨start, stop⟩, ofMember, line, character⟩

/-- A command that brings its request back wherever it is carried out: the one argument it has is
read as the request. -/
structure Carries (σ : Type) [Host σ] (command : Command) (request : ConstructorRequest) :
    Prop where
  argument : ∃ argument, command.arguments = [argument] ∧ decode argument = .ok request
  executes (later : σ) (settings : Settings) (formatter : Formatter) :
    execute later settings formatter command = run later settings formatter request

theorem carries_toCommand (fits : Fits request) : Carries σ request.toCommand request where
  argument := ⟨encode request, rfl, decode_encode fits⟩
  executes _ _ _ := execute_toCommand fits

/-- One command is offered for a cursor where a request can be prepared, and none elsewhere. To
carry it out is to run the request, whatever has become of the documents by then. Any request whose
numbers have 64 bits comes back from its command. -/
theorem offer_carries_request (host : σ) (settings : Settings) (document : DocumentId)
    (cursor : Position)
    (lineCount : ∀ buffer, buffer? host document = some buffer → buffer.lineCount < Text.wordLimit)
    (cursorLine : cursor.line < Text.wordLimit) :
    (∀ problem, prepare host settings document cursor = .error problem →
      offer host settings document cursor = []) ∧
    (∀ request, prepare host settings document cursor = .ok request →
      ∃ command, offer host settings document cursor = [command] ∧ Carries σ command request) ∧
    ∀ request : ConstructorRequest, (∀ number ∈ request.numbers, number < Text.wordLimit) →
      Carries σ request.toCommand request := by
  refine ⟨fun problem failed => ?_, fun request prepared => ?_, fun request bounded => ?_⟩
  · rw [offer, failed]
  · obtain ⟨buffer, _, _, opened, _⟩ := prepare_eq_ok_iff.mp prepared
    have fits := fits_of_prepare opened (lineCount buffer opened) cursorLine prepared
    refine ⟨request.toCommand, ?_, carries_toCommand fits⟩
    rw [offer, prepared]
  · exact carries_toCommand (fits_of_numbers bounded)

/-- The name of a document with quotes in it comes back, and so does a type of several words. -/
theorem offer_carries_request_of_quoted_name :
    let buffer : Buffer :=
      { id := "my \"a\\b\".cs", text := "\nclass A\n\x7b\n    Map<int, A> _x;\n\x7d\n" }
    let workspace : Workspace := ⟨[buffer]⟩
    let owner : TypeDeclaration := ⟨"A", 1, 5⟩
    let request : ConstructorRequest :=
      ⟨buffer.id, owner, [⟨owner, "Map<int, A>", "_x", 3, .field⟩], ⟨3, 0⟩⟩
    ∃ command, offer workspace {} buffer.id ⟨2, 0⟩ = [command] ∧
      ∀ later : Workspace,
        execute later {} (.basic 4) command = run later {} (.basic 4) request := by
  intro buffer workspace owner request
  have opened : workspace.find? buffer.id = some buffer := by decide +kernel
  have enclosing : enclosingType? buffer.lines 2 = some owner := by decide +kernel
  have declared : members buffer.lines owner = request.members := by decide +kernel
  have prepared : prepare workspace {} buffer.id ⟨2, 0⟩ = .ok request :=
    prepare_of_ordered opened enclosing declared (List.pairwise_singleton _ _) rfl
  have short : buffer.lineCount < Text.wordLimit := by decide +kernel
  obtain ⟨-, offered, -⟩ := offer_carries_request workspace {} buffer.id ⟨2, 0⟩
    (fun _ same => Option.some.inj (opened.symm.trans same) ▸ short) (by decide)
  obtain ⟨command, single, carries⟩ := offered request prepared
  exact ⟨command, single, fun later => carries.executes later {} (.basic 4)⟩

end ConstructorAction.Action
