import ConstructorAction.Proofs.Source.Moved

namespace ConstructorAction.Source

/-!
Members are shared out among the types of a document by name. The search upwards from the line of a
member, and the collection downwards from the first declaration of a name, agree on the owner: every
member goes to one name and to no other (`members_partition`).
-/

variable {lines : List (List Char)} {line : Nat} {text : List Char}
  {declaration : Nat × List Char} {name : String}

/-- The declaration on a line or on the nearest line above it; the first line is left out. -/
def searchUp? (lines : List (List Char)) : Nat → Option (Nat × List Char)
  | 0 => none
  | line + 1 =>
      match lines[line + 1]?.bind declaredType? with
      | some name => some (line + 1, name)
      | none => searchUp? lines line

/-- The last declaration up to a line is what a search upwards from that line finds. -/
theorem declarationAt?_eq_searchUp? (lines : List (List Char)) (line : Nat) :
    declarationAt? (declarations lines) line = searchUp? lines line := by
  induction line with
  | zero =>
      cases found : declarationAt? (declarations lines) 0 with
      | none => rfl
      | some declaration =>
          obtain ⟨positive, above, -⟩ := declarationAt?_bounds found
          omega
  | succ line ih =>
      unfold searchUp?
      cases declared : lines[line + 1]?.bind declaredType? with
      | some name =>
          obtain ⟨text, present, named⟩ := Option.bind_eq_some_iff.mp declared
          have member : (line + 1, name) ∈ declarations lines :=
            mem_declarations_iff.mpr ⟨Nat.succ_pos line, text, present, named⟩
          exact declarationAt?_eq_some_iff.mpr ⟨member, Nat.le_refl _, fun _ _ upTo => upTo⟩
      | none =>
          -- up to this line there are the same declarations as up to the line above it
          have skipped : ∀ other ∈ declarations lines, other.1 ≠ line + 1 := by
            intro other member same
            obtain ⟨-, text, present, named⟩ := mem_declarations_iff.mp member
            rw [← same, present, Option.bind_some, named] at declared
            cases declared
          rw [← ih, declarationAt?, declarationAt?]
          congr 1
          refine List.filter_congr fun other member => ?_
          have apart := skipped other member
          simp only [decide_eq_decide]
          omega

def declaredNames (lines : List (List Char)) : List String :=
  (declarations lines).map fun declaration => String.ofList declaration.2

def firstType? (lines : List (List Char)) (name : String) : Option TypeDeclaration :=
  ((declarations lines).find? fun declaration => String.ofList declaration.2 = name).map
    (typeOf lines.length)

/-- The members that are collected from the first type of a name on. -/
def membersNamed (lines : List (List Char)) (name : String) : List MemberDeclaration :=
  match firstType? lines name with
  | none => []
  | some owner => members lines owner

theorem mem_membersNamed_iff {member : MemberDeclaration} :
    member ∈ membersNamed lines name ↔ ∃ first,
      (declarations lines).find? (fun declaration => String.ofList declaration.2 = name) =
        some first ∧ member ∈ members lines (typeOf lines.length first) := by
  unfold membersNamed firstType?
  cases (declarations lines).find? fun declaration => String.ofList declaration.2 = name with
  | none => simp
  | some first => simp

theorem exists_first_of_mem_declarations (member : declaration ∈ declarations lines) :
    ∃ first, (declarations lines).find?
        (fun other => String.ofList other.2 = String.ofList declaration.2) = some first ∧
      String.ofList first.2 = String.ofList declaration.2 ∧ first.1 ≤ declaration.1 := by
  cases found : (declarations lines).find?
      fun other => String.ofList other.2 = String.ofList declaration.2 with
  | none => simpa using List.find?_eq_none.mp found declaration member
  | some first =>
      obtain ⟨named, above, below, split, others⟩ := List.find?_eq_some_iff_append.mp found
      refine ⟨first, rfl, of_decide_eq_true named, ?_⟩
      have ascending := pairwise_declarations lines
      rw [split] at ascending member
      rcases List.mem_append.mp member with inAbove | inRest
      · simpa using others declaration inAbove
      · rcases List.mem_cons.mp inRest with same | inBelow
        · rw [same]
        · have order := (List.pairwise_append.mp ascending).2.1
          exact Nat.le_of_lt (List.rel_of_pairwise_cons order inBelow)

/-- Below its own type a member is collected from the first type of that name on. -/
theorem mem_membersNamed_of_below {found : Member × MemberKind} (present : lines[line]? = some text)
    (matched : found ∈ lineMembers text)
    (enclosing : declarationAt? (declarations lines) line = some declaration)
    (below : declaration.1 < line) :
    declaredMember lines.length line declaration found ∈
      membersNamed lines (String.ofList declaration.2) := by
  obtain ⟨first, isFirst, named, above⟩ :=
    exists_first_of_mem_declarations (mem_of_declarationAt? enclosing).1
  have inside : line < lines.length := (List.getElem?_eq_some_iff.mp present).1
  refine mem_membersNamed_iff.mpr ⟨first, isFirst, mem_members_iff.mpr ?_⟩
  exact ⟨Nat.lt_of_le_of_lt above below, inside, text, found, declaration, present, matched,
    enclosing, named.symm, rfl⟩

theorem owned_of_mem_membersNamed {member : MemberDeclaration}
    (collected : member ∈ membersNamed lines name) :
    (∃ above ∈ declarations lines, above.1 < member.line) ∧
      ∃ text declaration, lines[member.line]? = some text ∧ lineMembers text ≠ [] ∧
        declarationAt? (declarations lines) member.line = some declaration ∧
        String.ofList declaration.2 = name := by
  obtain ⟨first, isFirst, inMembers⟩ := mem_membersNamed_iff.mp collected
  obtain ⟨below, -, text, found, declaration, present, matched, enclosing, named, -⟩ :=
    mem_members_iff.mp inMembers
  have firstNamed : String.ofList first.2 = name := by simpa using List.find?_some isFirst
  exact ⟨⟨first, List.mem_of_find?_eq_some isFirst, below⟩, text, declaration, present,
    List.ne_nil_of_mem matched, enclosing, named.trans firstNamed⟩

/-- A line that declares a member and no type, and has a type above it. -/
structure DeclaresMember (lines : List (List Char)) (line : Nat) (text : List Char) : Prop where
  present : lines[line]? = some text
  noType : declaredType? text = none
  matched : field? text ≠ none ∨ property? text ≠ none
  below : ∃ above ∈ declarations lines, above.1 < line

theorem lineMembers_ne_nil_iff :
    lineMembers text ≠ [] ↔ field? text ≠ none ∨ property? text ≠ none := by
  cases isField : field? text <;> cases isProperty : property? text <;>
    simp [lineMembers, isField, isProperty]

theorem DeclaresMember.exists_owner (declares : DeclaresMember lines line text) :
    ∃ declaration, declarationAt? (declarations lines) line = some declaration ∧
      declaration.1 < line := by
  obtain ⟨above, member, higher⟩ := declares.below
  have inFilter : above ∈ (declarations lines).filter fun other => other.1 ≤ line :=
    List.mem_filter.mpr ⟨member, decide_eq_true (Nat.le_of_lt higher)⟩
  obtain ⟨declaration, found⟩ : ∃ declaration,
      declarationAt? (declarations lines) line = some declaration :=
    Option.isSome_iff_exists.mp (List.getLast?_isSome.mpr (List.ne_nil_of_mem inFilter))
  obtain ⟨inDeclarations, upTo⟩ := mem_of_declarationAt? found
  -- the search starts on the line itself, where no type is declared
  refine ⟨declaration, found, Nat.lt_of_le_of_ne upTo fun same => ?_⟩
  obtain ⟨-, other, present, named⟩ := mem_declarations_iff.mp inDeclarations
  rw [same, declares.present] at present
  obtain rfl := Option.some.inj present
  rw [declares.noType] at named
  cases named

/-- Every member has one owner. If a line below some type declares members and no type, the name
that the search upwards finds is the only declared name for which members of that line are
collected, and all of them are. Other lines without a type give no name a member, and the members
of two names are never on one line. -/
theorem members_partition (lines : List (List Char)) :
    (∀ line text, DeclaresMember lines line text → ∃ declaration,
      searchUp? lines line = some declaration ∧
        enclosingType? lines line = some (typeOf lines.length declaration) ∧
        String.ofList declaration.2 ∈ declaredNames lines ∧
        (∀ found ∈ lineMembers text, declaredMember lines.length line declaration found ∈
          membersNamed lines (String.ofList declaration.2)) ∧
        ∀ name ∈ declaredNames lines, (∃ member ∈ membersNamed lines name, member.line = line) ↔
          name = String.ofList declaration.2) ∧
    (∀ name, ∀ member ∈ membersNamed lines name, ∃ text, lines[member.line]? = some text ∧
      (declaredType? text = none → DeclaresMember lines member.line text)) ∧
    ∀ name other, name ≠ other → ∀ member ∈ membersNamed lines name,
      ∀ second ∈ membersNamed lines other, member.line ≠ second.line := by
  refine ⟨fun line text declares => ?_, fun name member collected => ?_, ?_⟩
  · obtain ⟨declaration, enclosing, below⟩ := declares.exists_owner
    have all : ∀ found ∈ lineMembers text, declaredMember lines.length line declaration found ∈
        membersNamed lines (String.ofList declaration.2) :=
      fun found matched => mem_membersNamed_of_below declares.present matched enclosing below
    have declared : String.ofList declaration.2 ∈ declaredNames lines :=
      List.mem_map_of_mem (f := fun other : Nat × List Char => String.ofList other.2)
        (mem_of_declarationAt? enclosing).1
    refine ⟨declaration, declarationAt?_eq_searchUp? lines line ▸ enclosing,
      enclosingType?_eq_some_iff.mpr ⟨declaration, enclosing, rfl⟩, declared, all,
      fun name _ => ⟨?_, ?_⟩⟩
    · rintro ⟨member, collected, rfl⟩
      obtain ⟨-, -, other, -, -, resolved, named⟩ := owned_of_mem_membersNamed collected
      rw [← named, Option.some.inj (resolved.symm.trans enclosing)]
    · rintro rfl
      obtain ⟨found, matched⟩ :=
        List.exists_mem_of_ne_nil _ (lineMembers_ne_nil_iff.mpr declares.matched)
      exact ⟨_, all found matched, rfl⟩
  · obtain ⟨below, text, -, present, matched, -⟩ := owned_of_mem_membersNamed collected
    exact ⟨text, present, fun noType =>
      ⟨present, noType, lineMembers_ne_nil_iff.mp matched, below⟩⟩
  · intro name other apart member collected second otherCollected same
    obtain ⟨-, -, declaration, -, -, resolved, named⟩ := owned_of_mem_membersNamed collected
    obtain ⟨-, -, otherDeclaration, -, -, otherResolved, otherNamed⟩ :=
      owned_of_mem_membersNamed otherCollected
    rw [same, otherResolved] at resolved
    obtain rfl := Option.some.inj resolved
    exact apart (named.symm.trans otherNamed)

/-- The second part of a type that is declared twice, with another type in between. -/
theorem members_partition_of_repeated_type :
    let lines : List (List Char) := ["class A", "class A", " int x;", "struct B", " int y;",
      "partial", "class A", " int z \x7b get; \x7d"].map String.toList
    DeclaresMember lines 7 " int z \x7b get; \x7d".toList ∧
      (∃ member ∈ membersNamed lines "A", member.line = 7) ∧
      ∀ second ∈ membersNamed lines "B", second.line ≠ 7 := by
  intro lines
  have declares : DeclaresMember lines 7 " int z \x7b get; \x7d".toList := by
    refine ⟨rfl, by decide +kernel, .inr (by decide +kernel), (1, ['A']), ?_, by decide⟩
    exact mem_declarations_iff.mpr ⟨by decide, "class A".toList, rfl, by decide +kernel⟩
  obtain ⟨owned, -, apart⟩ := members_partition lines
  obtain ⟨declaration, searched, -, declared, -, owner⟩ := owned 7 _ declares
  have nearest : searchUp? lines 7 = some (6, ['A']) := by decide +kernel
  obtain rfl := Option.some.inj (nearest.symm.trans searched)
  obtain ⟨member, collected, same⟩ := (owner "A" declared).mpr rfl
  refine ⟨declares, ⟨member, collected, same⟩, fun second inB => ?_⟩
  exact same ▸ (apart "A" "B" (by decide) member collected second inB).symm

end ConstructorAction.Source
