import ConstructorAction.Proofs.Action.Command
import ConstructorAction.Proofs.Document.Batch
import ConstructorAction.Proofs.Document.Offset

namespace ConstructorAction.Action

open ConstructorAction.Document ConstructorAction.Layout ConstructorAction.Settings
  ConstructorAction.Source ConstructorAction.Synthesis ConstructorAction.Text

/-!
Which of the offered commands can be carried out. The type around a cursor is searched with the
cursor drawn back to the last line, but the constructor goes to the line of the cursor itself, which
may be past the end of the text (`offer_executes_iff`).
-/

/-- Once the constructor is in place nothing fails any more. -/
theorem run_isOk_iff {σ : Type} [Host σ] {host : σ} {settings : Settings} {formatter : Formatter}
    {request : ConstructorRequest} :
    (∃ outcome, (run host settings formatter request).1 = .ok outcome) ↔
      request.members ≠ [] ∧
        (place host request.document request.insertionPosition
          (constructorText settings request.owningType request.members)).1 = .ok () := by
  unfold run
  by_cases empty : request.members = []
  · simp [empty]
  · rw [if_neg (by simpa using empty)]
    dsimp only
    split
    · next problem after refused => simp [refused]
    · next after placed => simp [placed, empty]

theorem place_eq_ok_iff {workspace : Workspace} {document : DocumentId} {buffer : Buffer}
    {position : Position} {text : String}
    (opened : workspace.find? document = some buffer) :
    (place workspace document position text).1 = .ok () ↔
      (offset? buffer.text.toList position).isSome := by
  have applied : (place workspace document position text).1 = .ok () ↔
      ∃ after, buffer.apply [.insertion position (insertedText text)] = .ok after := by
    simp only [place, applyEdits, Workspace.applyEdits, opened]
    split
    · next reason refused => simp [refused]
    · next after landed => simp [landed]
  rw [applied, Option.isSome_iff_exists]
  constructor
  · rintro ⟨after, landed⟩
    obtain ⟨result, accepted, _⟩ := Buffer.apply_ok_iff.mp landed
    obtain ⟨offset, found, _⟩ := editText_insertion_eq_ok_iff.mp accepted
    exact ⟨offset, found⟩
  · rintro ⟨offset, found⟩
    exact ⟨_, Buffer.apply_ok_iff.mpr
      ⟨_, editText_insertion_eq_ok_iff.mpr ⟨offset, found, rfl⟩, rfl⟩⟩

theorem lineCount_le (buffer : Buffer) :
    buffer.lineCount ≤ buffer.text.toList.count '\n' + 1 := by
  rw [← length_pieces, Buffer.lineCount, Buffer.lines, lines, List.length_map, dropFinalEmpty]
  split <;> simp

/-- An offered command can be carried out at once under the rule of the first member. Under the
rule of the cursor it can be if as many line feeds are in the text as lines above the cursor, and
the constructor is inside of the type if the cursor is inside of the document. Line numbers have
64 bits. -/
theorem offer_executes_iff (workspace : Workspace) (settings : Settings) (formatter : Formatter)
    (document : DocumentId) (cursor : Position) (buffer : Buffer) (command : Command)
    (opened : workspace.find? document = some buffer)
    (lineCount : buffer.lineCount < wordLimit) (cursorLine : cursor.line < wordLimit)
    (offered : command ∈ offer workspace settings document cursor) :
    ∃ request, prepare workspace settings document cursor = .ok request ∧
      command = request.toCommand ∧
      ((∃ outcome, (execute workspace settings formatter command).1 = .ok outcome) ↔
        settings.strategy.insertion = .firstMember ∨
          cursor.line ≤ buffer.text.toList.count '\n') ∧
      (request.owningType.startLine < request.insertionPosition.line ∧
          request.insertionPosition.line < buffer.lineCount ↔
        settings.strategy.insertion = .firstMember ∨ cursor.line < buffer.lineCount) := by
  obtain ⟨request, prepared, rfl⟩ := mem_offer_iff.mp offered
  refine ⟨request, prepared, rfl, ?_⟩
  rw [execute_toCommand (fits_of_prepare opened lineCount cursorLine prepared), run_isOk_iff]
  obtain ⟨_, owner, position, sameOpened, enclosing, placed, rfl⟩ := prepare_eq_ok_iff.mp prepared
  obtain rfl := Option.some.inj (opened.symm.trans sameOpened)
  obtain ⟨declaration, found, rfl⟩ := enclosingType?_eq_some_iff.mp enclosing
  obtain ⟨_, declaredAbove, declaredInside⟩ := declarationAt?_bounds found
  obtain ⟨line, character⟩ := position
  obtain ⟨rfl, rule⟩ := insertionPosition?_cases placed
  have present := ne_nil_of_insertionPosition? placed
  have few := lineCount_le buffer
  change declaration.1 < buffer.lineCount at declaredInside
  rw [place_eq_ok_iff opened, offset?_lineStart_isSome, and_iff_right present]
  change (line ≤ _ ↔ _) ∧ (declaration.1 < line ∧ line < buffer.lineCount ↔ _)
  rcases rule with ⟨atCursor, below, rfl⟩ | ⟨atMember, member, inOrder, rfl⟩
  · have noMember : settings.strategy.insertion ≠ .firstMember := by
      rw [atCursor]
      decide
    exact ⟨(or_iff_right noMember).symm, (and_iff_right below).trans (or_iff_right noMember).symm⟩
  · obtain ⟨after, before, _⟩ := mem_members_iff.mp (mem_byLine.mp inOrder)
    change declaration.1 < member.line at after
    change member.line < buffer.lineCount at before
    have inside : settings.strategy.insertion = .firstMember ∨ cursor.line < buffer.lineCount := by
      refine atMember.imp_right fun above => ?_
      change cursor.line ≤ declaration.1 at above
      omega
    exact ⟨iff_of_true (by omega) (inside.imp_right (by omega)),
      iff_of_true ⟨after, before⟩ inside⟩

/-- The command that is offered four lines past the end of a document fails. -/
theorem offer_executes_iff_of_cursor_past_end :
    let buffer : Buffer := { id := "a.cs", text := "\nclass A\n\x7b\n    int x;\n\x7d\n" }
    let settings : Settings := { strategy := { Strategy.standard with insertion := .cursor } }
    ∃ command ∈ offer (⟨[buffer]⟩ : Workspace) settings "a.cs" ⟨9, 0⟩,
      ¬ ∃ outcome,
        (execute (⟨[buffer]⟩ : Workspace) settings (.basic 4) command).1 = .ok outcome := by
  intro buffer settings
  let workspace : Workspace := ⟨[buffer]⟩
  let owner : TypeDeclaration := ⟨"A", 1, 5⟩
  let member : MemberDeclaration := ⟨owner, "int", "x", 3, .field⟩
  have opened : workspace.find? "a.cs" = some buffer := by decide +kernel
  have enclosing : enclosingType? buffer.lines 9 = some owner := by decide +kernel
  have declared : members buffer.lines owner = [member] := by decide +kernel
  have ordered : byLine [member] = [member] := List.mergeSort_singleton member
  have prepared : prepare workspace settings "a.cs" ⟨9, 0⟩ =
      .ok ⟨"a.cs", owner, [member], ⟨9, 0⟩⟩ := by
    refine prepare_eq_ok_iff.mpr ⟨buffer, owner, ⟨9, 0⟩, opened, enclosing, ?_, ?_⟩
    · rw [declared, ordered]
      decide
    · rw [declared, ordered]
  have offered := mem_offer_iff.mpr ⟨_, prepared, rfl⟩
  refine ⟨_, offered, fun executed => ?_⟩
  obtain ⟨_, _, _, executes, _⟩ := offer_executes_iff workspace settings (.basic 4) "a.cs" ⟨9, 0⟩
    buffer _ opened (by decide +kernel) (by decide) offered
  have reached : ¬ 9 ≤ buffer.text.toList.count '\n' := by decide +kernel
  exact (executes.mp executed).elim (by decide) reached

end ConstructorAction.Action
