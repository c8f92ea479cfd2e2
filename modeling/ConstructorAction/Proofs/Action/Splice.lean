import ConstructorAction.Proofs.Action.Reoffer

namespace ConstructorAction.Action

open ConstructorAction.Document ConstructorAction.Layout ConstructorAction.Settings
  ConstructorAction.Source ConstructorAction.Synthesis ConstructorAction.Text

/-!
What a run leaves of a document. Up to the blanks at the ends of its lines, the document is as it
was, with the lines of the constructor among its own (`run_splices`).
-/

section Steps

variable {settings : Settings} {request : ConstructorRequest} {before after : Buffer}

/-- The end of a text stays its end when a constructor is put in front of one of its lines. -/
theorem getLast?_of_inserted {first : Nat} (inside : first < before.lines.length)
    (position : request.insertionPosition = ⟨first, 0⟩)
    (inserted : Inserted settings request before after) :
    after.text.toList.getLast? = before.text.toList.getLast? := by
  obtain ⟨offset, found, rfl⟩ := inserted
  rw [position] at found
  obtain ⟨front, row, back, arranged, -, -, -, behind⟩ := exists_rows_of_offset? inside found
  have present : before.text.toList.drop offset ≠ [] := by
    intro empty
    have shown := lines_rowsText arranged.append_right
    rw [← behind, empty] at shown
    cases shown
  have whole := congrArg List.getLast? (List.take_append_drop offset before.text.toList)
  rw [List.getLast?_append_of_ne_nil _ present] at whole
  rw [String.toList_ofList, List.getLast?_append_of_ne_nil _ present, whole]

theorem trimmed_of_laidOut {tabSize : Nat} {outcome : ReformatOutcome}
    (laidOut : LaidOut (.basic tabSize) before after outcome) :
    after.lines.map trim = before.lines.map trim ∨
      before.text.toList.getLast? ≠ some '\n' ∧ (before.lines.map trim).getLast? = some [] ∧
        after.lines.map trim = (before.lines.map trim).dropLast := by
  rcases lines_of_laidOut laidOut with same | moved | ⟨unterminated, last, shorter⟩
  · exact .inl (by rw [same])
  · exact .inl (by rw [moved, map_trim_indent])
  · refine .inr ⟨unterminated, ?_, ?_⟩
    · rw [← map_trim_indent tabSize, List.getLast?_map, last]
      rfl
    · rw [shorter, List.map_dropLast, map_trim_indent]

end Steps

/-- A run under the rule of the first member puts the lines of the constructor in front of the line
that it was prepared for, and every other line keeps its place among the others and all but the
blanks at its ends. Only a blank line at the end of the document may go, if no line feed ends it. -/
theorem run_splices {σ : Type} [Host σ] [LawfulHost σ] (host after : σ) (settings : Settings)
    (document : DocumentId) (cursor : Position) (request : ConstructorRequest) (outcome : Outcome)
    (tabSize : Nat) (rule : settings.strategy.insertion = .firstMember)
    (prepared : prepare host settings document cursor = .ok request)
    (ran : run host settings (.basic tabSize) request = (.ok outcome, after)) :
    ∃ before final, buffer? host document = some before ∧ Rewrites host document final after ∧
      request.insertionPosition.line < before.lineCount ∧
      let spliced := (before.lines.take request.insertionPosition.line ++
        lines outcome.text.toList ++
          before.lines.drop request.insertionPosition.line).map trim
      final.lines.map trim = spliced ∨
        before.text.toList.getLast? ≠ some '\n' ∧ spliced.getLast? = some [] ∧
          final.lines.map trim = spliced.dropLast := by
  obtain ⟨rfl, before, declaration, first, opened, atFirst⟩ :=
    atFirstMember_of_prepare rule prepared
  obtain ⟨-, told, _, middle, next, final, sameOpened, -, -, inserted, laidOut, rewrites⟩ :=
    rewrites_of_run ran
  obtain rfl := Option.some.inj (opened.symm.trans sameOpened)
  have framed := atFirst.framed settings
  have written : lines outcome.text.toList =
      (constructorLines settings request.owningType request.members).map String.toList := by
    rw [told]
    exact lines_constructorText framed
  have placed := lines_of_inserted framed atFirst.inside atFirst.position inserted
  have kept := getLast?_of_inserted atFirst.inside atFirst.position inserted
  have line : request.insertionPosition.line = first := by rw [atFirst.position]
  refine ⟨before, final, opened, rewrites, ?_, ?_⟩
  · rw [line]
    exact atFirst.inside
  -- the second batch is computed on the changed text, whose lines and end are known by now
  · rw [line, written, ← placed, ← kept]
    exact trimmed_of_laidOut laidOut

/-- Terminators of two kinds and lines out of place around the two members of a type. -/
theorem run_splices_of_mixed_terminators :
    let text := "\r\nclass A\r\n\x7b\n\t  int _x; \r\n\tint Y \x7b get; \x7d\n\n\x7d \n"
    let buffer : Buffer := { id := "a.cs", text }
    let workspace : Workspace := ⟨[buffer]⟩
    ∃ request outcome after final, prepare workspace {} "a.cs" ⟨4, 0⟩ = .ok request ∧
      run workspace {} (.basic 4) request = (.ok outcome, after) ∧
      buffer? after "a.cs" = some final ∧
      final.lines.map trim = ["", "class A", "\x7b", "public A(int x, int y)", "\x7b", "_x = x;",
        "this.Y = y;", "\x7d", "int _x;", "int Y \x7b get; \x7d", "", "\x7d"].map
          String.toList := by
  intro text buffer workspace
  let owner : TypeDeclaration := ⟨"A", 1, 7⟩
  let request : ConstructorRequest :=
    ⟨"a.cs", owner, [⟨owner, "int", "_x", 3, .field⟩, ⟨owner, "int", "Y", 4, .property⟩], ⟨3, 0⟩⟩
  have opened : workspace.find? "a.cs" = some buffer := by decide +kernel
  have enclosing : enclosingType? buffer.lines 4 = some owner := by decide +kernel
  have declared : members buffer.lines owner = request.members := by decide +kernel
  have ordered : request.members.Pairwise fun above below => above.line ≤ below.line := by decide
  have prepared : prepare workspace {} "a.cs" ⟨4, 0⟩ = .ok request :=
    prepare_of_ordered opened enclosing declared ordered rfl
  have inText : (offset? buffer.text.toList ⟨3, 0⟩).isSome := by decide +kernel
  obtain ⟨outcome, succeeds⟩ := run_isOk_iff.mpr
    ⟨show request.members ≠ [] from List.cons_ne_nil _ _, (place_eq_ok_iff opened).mpr inText⟩
  have ran : run workspace {} (.basic 4) request =
      (.ok outcome, (run workspace {} (.basic 4) request).2) := Prod.ext succeeds rfl
  obtain ⟨before, final, sameOpened, rewrites, -, splices⟩ := run_splices workspace _ {} "a.cs"
    ⟨4, 0⟩ request outcome 4 rfl prepared ran
  obtain rfl : buffer = before := Option.some.inj (opened.symm.trans sameOpened)
  have terminated : buffer.text.toList.getLast? = some '\n' := by decide +kernel
  have told : outcome.text = constructorText {} owner request.members := by
    rw [(rewrites_of_run ran).2.1]
    rfl
  have written : lines outcome.text.toList = ["public A(int x, int y)", "\x7b", "    _x = x;",
      "    this.Y = y;", "\x7d"].map String.toList := by
    rw [told, constructorText, constructorLines, constructorOf, byLine_of_ordered ordered]
    decide +kernel
  refine ⟨request, outcome, _, final, prepared, ran, rewrites.opened, ?_⟩
  rcases splices with whole | ⟨unterminated, -⟩
  · rw [whole, written]
    decide +kernel
  · exact absurd terminated unterminated

end ConstructorAction.Action
