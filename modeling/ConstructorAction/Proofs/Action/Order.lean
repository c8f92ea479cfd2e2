import ConstructorAction.Proofs.Action.Command
import ConstructorAction.Proofs.Source.MemberLine
import ConstructorAction.Proofs.Source.Moved

namespace ConstructorAction.Action

open ConstructorAction.Document ConstructorAction.Settings ConstructorAction.Source
  ConstructorAction.Synthesis ConstructorAction.Text

/-!
The order of collected members. Only a line that starts with a bracket can declare a field and a
property (`head?_of_field_of_property`), so that members are collected in strict order and sorting
them changes nothing where no line starts so (`members_strictly_ordered`).
-/

/-- A line that starts with no bracket, and so with no attribute. -/
def Bracketless (line : List Char) : Prop := (trimStart line).head? ≠ some '['

instance (line : List Char) : Decidable (Bracketless line) :=
  inferInstanceAs (Decidable (_ ≠ _))

/-- Members on lines of their own from the top down, which sorting by lines leaves as they are. -/
structure Ordered (members : List MemberDeclaration) : Prop where
  strict : members.Pairwise fun above below => above.line < below.line
  sorted : byLine members = members

variable {α : Type} {line : List Char} {lines : List (List Char)} {mark : Char}

theorem Bracketless.place {count : Nat} {place : List Char} (bracketless : Bracketless line)
    (behind : BehindAttributes line count place) : place = trimStart line := by
  obtain ⟨margin, attributes, blank, -, rfl, flush⟩ := behind
  rw [Bracketless, List.append_assoc,
    trimStart_gap blank (pieces_attributes.flush_flatMap attributes flush)] at bracketless
  cases attributes with
  | nil => rw [List.flatMap_nil, List.append_nil, trimStart_gap blank flush]
  | cons group later => exact absurd rfl bracketless

theorem Bracketless.exists_mark (bracketless : Bracketless line) {tail : List Char → Option α}
    (marked : Marked mark tail) (ends : EndsFreely tail)
    (reads : (starts line).findSome? (typeAnd tail) ≠ none) :
    ∃ front rest, (∀ c ∈ front, isTypeChar c = true) ∧ trimStart line = front ++ mark :: rest := by
  obtain ⟨⟨bare, found⟩, read⟩ := Option.ne_none_iff_exists'.mp reads
  obtain ⟨place, type, ⟨_, behind, -⟩, readPlace, -⟩ :=
    (findSome?_starts_typeAnd marked ends).mp read
  rw [← bracketless.place behind]
  exact exists_mark_of_typeAnd marked readPlace

/-- The first character that is in no type is a semicolon in a field, and a brace in a property. -/
theorem head?_of_field_of_property (isField : (field? line).isSome)
    (isProperty : (property? line).isSome) : (trimStart line).head? = some '[' := by
  by_contra bracketless
  have readsField : (starts line).findSome? (typeAnd fieldTail?) ≠ none := by
    intro nothing
    simp [field?, nothing] at isField
  have readsProperty : (starts line).findSome? (typeAnd propertyTail?) ≠ none := by
    intro nothing
    simp [property?, nothing] at isProperty
  obtain ⟨front, rest, typed, whole⟩ :=
    Bracketless.exists_mark bracketless marked_fieldTail? endsFreely_fieldTail? readsField
  obtain ⟨other, more, typedOther, wholeOther⟩ :=
    Bracketless.exists_mark bracketless marked_propertyTail? endsFreely_propertyTail? readsProperty
  obtain ⟨-, same⟩ := run_unique typed (.cons marked_fieldTail?.outside rest) typedOther
    (.cons marked_propertyTail?.outside more) (whole.symm.trans wholeOther)
  cases same

theorem Bracketless.pairwise_lineMembers (bracketless : Bracketless line)
    (R : Member × MemberKind → Member × MemberKind → Prop) : (lineMembers line).Pairwise R := by
  unfold lineMembers
  cases isField : field? line with
  | none => cases property? line <;> simp
  | some field =>
      cases isProperty : property? line with
      | none => simp
      | some property =>
          exact absurd (head?_of_field_of_property (by simp [isField]) (by simp [isProperty]))
            bracketless

theorem pairwise_lt_members (bracketless : ∀ line ∈ lines, Bracketless line)
    (owner : TypeDeclaration) :
    (members lines owner).Pairwise fun above below => above.line < below.line := by
  have same : members lines owner = (lines.zipIdx.drop (owner.startLine + 1)).flatMap fun row =>
      if row.2 < owner.endLine then (lineMembers row.1).filterMap
        (owned? lines.length (declarations lines) owner.typeName row.2) else [] := rfl
  have lineOf {row : List Char × Nat} {member : MemberDeclaration}
      (inRow : member ∈ if row.2 < owner.endLine then (lineMembers row.1).filterMap
        (owned? lines.length (declarations lines) owner.typeName row.2) else []) :
      member.line = row.2 := by
    split at inRow
    · exact line_of_mem_filterMap_owned? inRow
    · cases inRow
  rw [same]
  refine List.pairwise_flatMap.mpr ⟨fun row inLines => ?_, ?_⟩
  · have inText : row.1 ∈ lines := List.mem_of_getElem? (mem_drop_zipIdx_iff.mp inLines).2
    split
    · exact ((bracketless row.1 inText).pairwise_lineMembers fun _ _ => False).filterMap _
        fun _ _ never => never.elim
    · exact .nil
  · refine (pairwise_zipIdx 0 lines).drop.imp fun {_ _} order member inAbove other inBelow => ?_
    rw [lineOf inAbove, lineOf inBelow]
    exact order

theorem ordered_members (bracketless : ∀ line ∈ lines, Bracketless line)
    (owner : TypeDeclaration) : Ordered (members lines owner) where
  strict := pairwise_lt_members bracketless owner
  sorted := byLine_of_ordered ((pairwise_lt_members bracketless owner).imp Nat.le_of_lt)

/-- A line declares a field and a property at once only if it starts with a bracket. Where no line
does, the members of a type are ordered as they are found, and so are those of a request. -/
theorem members_strictly_ordered :
    (∀ line, (field? line).isSome → (property? line).isSome →
      (trimStart line).head? = some '[') ∧
    ∀ lines, (∀ line ∈ lines, Bracketless line) →
      (∀ owner, Ordered (members lines owner)) ∧
      ∀ {σ : Type} [Host σ] (host : σ) (settings : Settings) (document : DocumentId)
        (cursor : Position) (buffer : Buffer) (request : ConstructorRequest),
        buffer? host document = some buffer → buffer.lines = lines →
          prepare host settings document cursor = .ok request →
          request.members = members lines request.owningType ∧ Ordered request.members := by
  refine ⟨fun line => head?_of_field_of_property, fun lines bracketless => ?_⟩
  have ordered (owner : TypeDeclaration) : Ordered (members lines owner) :=
    ordered_members bracketless owner
  refine ⟨ordered, ?_⟩
  rintro σ _ host settings document cursor buffer request opened rfl prepared
  obtain ⟨other, owner, position, openedOther, -, -, rfl⟩ := prepare_eq_ok_iff.mp prepared
  obtain rfl := Option.some.inj (opened.symm.trans openedOther)
  have kept : byLine (members buffer.lines owner) = members buffer.lines owner :=
    (ordered owner).sorted
  rw [kept]
  exact ⟨rfl, ordered owner⟩

theorem members_strictly_ordered_of_field_above_property :
    let line := "  [A b \x7b get; \x7d] int x;".toList
    let buffer : Buffer :=
      { id := "a.cs", text := "\nclass A\n\x7b\n  int _x;\n  int Y \x7b get; \x7d\n\x7d" }
    let owner : TypeDeclaration := ⟨"A", 1, 6⟩
    let collected : List MemberDeclaration :=
      [⟨owner, "int", "_x", 3, .field⟩, ⟨owner, "int", "Y", 4, .property⟩]
    (trimStart line).head? = some '[' ∧ Ordered (members buffer.lines owner) ∧
      ∃ request, prepare (⟨[buffer]⟩ : Workspace) {} buffer.id ⟨2, 0⟩ = .ok request ∧
        request.members = collected ∧ Ordered request.members := by
  intro line buffer owner collected
  obtain ⟨bracket, ordered⟩ := members_strictly_ordered
  obtain ⟨found, prepares⟩ := ordered buffer.lines (by decide +kernel)
  let workspace : Workspace := ⟨[buffer]⟩
  have opened : buffer? workspace buffer.id = some buffer := by decide +kernel
  have enclosing : enclosingType? buffer.lines 2 = some owner := by decide +kernel
  have declared : members buffer.lines owner = collected := by decide +kernel
  have upward : collected.Pairwise fun above below => above.line ≤ below.line := by decide
  have prepared : prepare workspace {} buffer.id ⟨2, 0⟩ =
      .ok ⟨buffer.id, owner, collected, ⟨3, 0⟩⟩ :=
    prepare_of_ordered opened enclosing declared upward rfl
  exact ⟨bracket line (by decide +kernel) (by decide +kernel), found owner, _, prepared, rfl,
    (prepares workspace {} _ _ buffer _ opened rfl prepared).2⟩

end ConstructorAction.Action
