import ConstructorAction.Source.Scope

namespace ConstructorAction.Source

/-!
What the search for a type and its members finds, in terms of single lines.
-/

variable {lines : List (List Char)} {line start : Nat} {text : List Char}

theorem mem_drop_zipIdx_iff : (text, line) ∈ lines.zipIdx.drop start ↔
    start ≤ line ∧ lines[line]? = some text := by
  rw [List.mem_iff_getElem?]
  constructor
  · rintro ⟨place, found⟩
    rw [List.getElem?_drop, List.getElem?_zipIdx] at found
    obtain ⟨other, present, same⟩ := Option.map_eq_some_iff.mp found
    obtain ⟨rfl, rfl⟩ := Prod.mk.inj same
    exact ⟨by omega, by rwa [Nat.zero_add]⟩
  · rintro ⟨reached, present⟩
    refine ⟨line - start, ?_⟩
    rw [List.getElem?_drop, List.getElem?_zipIdx, Nat.add_sub_cancel' reached, present]
    simp

theorem mem_declarations_iff {declaration : Nat × List Char} :
    declaration ∈ declarations lines ↔ 0 < declaration.1 ∧
      ∃ text, lines[declaration.1]? = some text ∧ declaredType? text = some declaration.2 := by
  rw [declarations, List.mem_filterMap]
  constructor
  · rintro ⟨⟨text, line⟩, member, declared⟩
    obtain ⟨name, named, rfl⟩ := Option.map_eq_some_iff.mp declared
    obtain ⟨positive, present⟩ := mem_drop_zipIdx_iff.mp member
    exact ⟨positive, text, present, named⟩
  · rintro ⟨positive, text, present, named⟩
    refine ⟨(text, declaration.1), mem_drop_zipIdx_iff.mpr ⟨positive, present⟩, ?_⟩
    exact Option.map_eq_some_iff.mpr ⟨declaration.2, named, rfl⟩

theorem mem_of_declarationAt? {declared : List (Nat × List Char)} {declaration : Nat × List Char}
    (found : declarationAt? declared line = some declaration) :
    declaration ∈ declared ∧ declaration.1 ≤ line := by
  obtain ⟨member, above⟩ := List.mem_filter.mp (List.mem_of_getLast? found)
  exact ⟨member, of_decide_eq_true above⟩

/-- The declaration that a line belongs to is on a line of the document, though not on the first. -/
theorem declarationAt?_bounds {declaration : Nat × List Char}
    (found : declarationAt? (declarations lines) line = some declaration) :
    0 < declaration.1 ∧ declaration.1 ≤ line ∧ declaration.1 < lines.length := by
  obtain ⟨member, above⟩ := mem_of_declarationAt? found
  obtain ⟨positive, text, present, _⟩ := mem_declarations_iff.mp member
  exact ⟨positive, above, (List.getElem?_eq_some_iff.mp present).1⟩

theorem enclosingType?_eq_some_iff {owner : TypeDeclaration} :
    enclosingType? lines line = some owner ↔ ∃ declaration,
      declarationAt? (declarations lines) line = some declaration ∧
        owner = typeOf lines.length declaration := by
  rw [enclosingType?, Option.map_eq_some_iff]
  simp only [eq_comm]

/-- What a line declares, as a member of the type that is declared last before it. -/
def declaredMember (lineCount line : Nat) (declaration : Nat × List Char)
    (found : Member × MemberKind) : MemberDeclaration :=
  { owningType := typeOf lineCount declaration
    declaredType := String.ofList found.1.declaredType
    name := String.ofList found.1.name
    line
    kind := found.2 }

theorem mem_members_iff {owner : TypeDeclaration} {member : MemberDeclaration} :
    member ∈ members lines owner ↔
      owner.startLine < member.line ∧ member.line < owner.endLine ∧
        ∃ text found declaration, lines[member.line]? = some text ∧ found ∈ lineMembers text ∧
          declarationAt? (declarations lines) member.line = some declaration ∧
          String.ofList declaration.2 = owner.typeName ∧
          member = declaredMember lines.length member.line declaration found := by
  simp only [members, List.mem_flatMap]
  constructor
  · rintro ⟨⟨text, line⟩, inLines, declared⟩
    obtain ⟨below, present⟩ := mem_drop_zipIdx_iff.mp inLines
    split at declared
    · next before =>
        obtain ⟨found, matched, collected⟩ := List.mem_filterMap.mp declared
        split at collected
        · cases collected
        · next declaration enclosing =>
            split at collected
            · next named =>
                obtain rfl := Option.some.inj collected
                exact ⟨below, before, text, found, declaration, present, matched, enclosing,
                  named, rfl⟩
            · cases collected
    · cases declared
  · rintro ⟨below, before, text, found, declaration, present, matched, enclosing, named, same⟩
    refine ⟨(text, member.line), mem_drop_zipIdx_iff.mpr ⟨below, present⟩, ?_⟩
    rw [if_pos before]
    refine List.mem_filterMap.mpr ⟨found, matched, ?_⟩
    simp only [enclosing, if_pos named]
    exact congrArg some same.symm

end ConstructorAction.Source
