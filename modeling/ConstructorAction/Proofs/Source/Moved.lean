import ConstructorAction.Proofs.Source.Scope
import ConstructorAction.Proofs.Source.Silent
import Mathlib.Data.List.Basic
import Mathlib.Order.Monotone.Basic

namespace ConstructorAction.Source

open ConstructorAction.Text

/-!
Types and members of a document after its lines have moved. As long as lines that declare anything
keep their order and what they declare, the same members are found for the same types
(`Follows`), at the places that the lines have moved to.
-/

/-- The types that some lines declare, the first line of which has a number. -/
def declaredFrom (start : Nat) (texts : List (List Char)) : List (Nat × List Char) :=
  (texts.zipIdx start).filterMap fun (text, line) => (declaredType? text).map (line, ·)

/-- A member of the type called `name`, if the declaration above its line has that name. -/
def owned? (lineCount : Nat) (declared : List (Nat × List Char)) (name : String) (line : Nat)
    (found : Member × MemberKind) : Option MemberDeclaration :=
  match declarationAt? declared line with
  | none => none
  | some declaration =>
      if String.ofList declaration.2 = name then
        some (declaredMember lineCount line declaration found)
      else none

/-- The members that some lines declare for the type called `name`. -/
def membersFrom (lineCount : Nat) (declared : List (Nat × List Char)) (name : String)
    (start : Nat) (texts : List (List Char)) : List MemberDeclaration :=
  (texts.zipIdx start).flatMap fun (text, line) =>
    (lineMembers text).filterMap (owned? lineCount declared name line)

theorem drop_zipIdx (texts : List (List Char)) (start count : Nat) :
    (texts.zipIdx start).drop count = (texts.drop count).zipIdx (start + count) := by
  induction count generalizing texts start with
  | zero => rfl
  | succ count ih =>
      cases texts with
      | nil => rfl
      | cons text later =>
          rw [List.zipIdx_cons, List.drop_succ_cons, ih, List.drop_succ_cons]
          congr 1
          omega

theorem declarations_eq (lines : List (List Char)) :
    declarations lines = declaredFrom 1 (lines.drop 1) := by
  rw [declarations, drop_zipIdx]
  rfl

theorem members_eq (lines : List (List Char)) (declaration : Nat × List Char) :
    members lines (typeOf lines.length declaration) =
      membersFrom lines.length (declarations lines) (String.ofList declaration.2)
        (declaration.1 + 1) (lines.drop (declaration.1 + 1)) := by
  have behind : (lines.drop (declaration.1 + 1)).zipIdx (declaration.1 + 1) =
      lines.zipIdx.drop (declaration.1 + 1) := by
    rw [drop_zipIdx, Nat.zero_add]
  rw [membersFrom, behind]
  refine List.flatMap_congr fun (text, line) member => ?_
  obtain ⟨-, present⟩ := mem_drop_zipIdx_iff.mp member
  have inside : line < (typeOf lines.length declaration).endLine :=
    (List.getElem?_eq_some_iff.mp present).1
  dsimp only
  rw [if_pos inside]
  rfl

section From

variable {lineCount start : Nat} {declared : List (Nat × List Char)} {name : String}
  {texts others : List (List Char)}

theorem declaredFrom_append (start : Nat) (texts others : List (List Char)) :
    declaredFrom start (texts ++ others) =
      declaredFrom start texts ++ declaredFrom (start + texts.length) others := by
  rw [declaredFrom, List.zipIdx_append, List.filterMap_append]
  rfl

theorem membersFrom_append (lineCount : Nat) (declared : List (Nat × List Char)) (name : String)
    (start : Nat) (texts others : List (List Char)) :
    membersFrom lineCount declared name start (texts ++ others) =
      membersFrom lineCount declared name start texts ++
        membersFrom lineCount declared name (start + texts.length) others := by
  rw [membersFrom, List.zipIdx_append, List.flatMap_append]
  rfl

theorem declaredFrom_of_silent (silent : ∀ text ∈ texts, Silent text) (start : Nat) :
    declaredFrom start texts = [] := by
  refine List.filterMap_eq_nil_iff.mpr fun (text, line) member => ?_
  have inTexts : text ∈ texts := (List.mem_zipIdx member).2.2 ▸ List.getElem_mem _
  simp only [(silent text inTexts).noType, Option.map_none]

theorem membersFrom_of_silent (silent : ∀ text ∈ texts, Silent text) :
    membersFrom lineCount declared name start texts = [] := by
  refine List.flatMap_eq_nil_iff.mpr fun (text, line) member => ?_
  have inTexts : text ∈ texts := (List.mem_zipIdx member).2.2 ▸ List.getElem_mem _
  simp only [(silent text inTexts).noMember, List.filterMap_nil]

theorem declaredFrom_congr (same : texts.map declaredType? = others.map declaredType?) :
    declaredFrom start texts = declaredFrom start others := by
  have through (all : List (List Char)) : declaredFrom start all =
      ((all.map declaredType?).zipIdx start).filterMap fun (name?, line) =>
        name?.map (line, ·) := by
    rw [← List.map_zipIdx, List.filterMap_map]
    rfl
  rw [through, through, same]

theorem membersFrom_congr (same : texts.map lineMembers = others.map lineMembers) :
    membersFrom lineCount declared name start texts =
      membersFrom lineCount declared name start others := by
  have through (all : List (List Char)) : membersFrom lineCount declared name start all =
      ((all.map lineMembers).zipIdx start).flatMap fun (found, line) =>
        found.filterMap (owned? lineCount declared name line) := by
    rw [← List.map_zipIdx, List.flatMap_map]
    rfl
  rw [through, through, same]

theorem pairwise_zipIdx (start : Nat) (texts : List (List Char)) :
    (texts.zipIdx start).Pairwise fun above below => above.2 < below.2 := by
  have lines : ((texts.zipIdx start).map Prod.snd).Pairwise (· < ·) := by
    rw [List.zipIdx_map_snd]
    exact List.pairwise_lt_range'
  exact List.pairwise_map.mp lines

/-- Types are found from the top down. -/
theorem pairwise_declaredFrom (start : Nat) (texts : List (List Char)) :
    (declaredFrom start texts).Pairwise fun above below => above.1 < below.1 := by
  refine (pairwise_zipIdx start texts).filterMap _ fun (text, line) (other, below) order => ?_
  intro declaration found later foundLater
  obtain ⟨name, -, rfl⟩ := Option.map_eq_some_iff.mp found
  obtain ⟨otherName, -, rfl⟩ := Option.map_eq_some_iff.mp foundLater
  exact order

theorem pairwise_declarations (lines : List (List Char)) :
    (declarations lines).Pairwise fun above below => above.1 < below.1 := by
  rw [declarations_eq]
  exact pairwise_declaredFrom 1 (lines.drop 1)

section Nearest

variable {lines : List (List Char)} {line : Nat} {declaration : Nat × List Char}

theorem nearest_of_declarationAt?
    (found : declarationAt? (declarations lines) line = some declaration)
    {other : Nat × List Char} (member : other ∈ declarations lines) (upTo : other.1 ≤ line) :
    other.1 ≤ declaration.1 := by
  obtain ⟨above, last⟩ := List.getLast?_eq_some_iff.mp found
  have order := (pairwise_declarations lines).filter fun other => decide (other.1 ≤ line)
  rw [last, List.pairwise_append] at order
  have inFilter : other ∈ (declarations lines).filter fun other => other.1 ≤ line :=
    List.mem_filter.mpr ⟨member, decide_eq_true upTo⟩
  rw [last] at inFilter
  rcases List.mem_append.mp inFilter with inAbove | isLast
  · exact Nat.le_of_lt (order.2.2 other inAbove declaration List.mem_cons_self)
  · rw [List.mem_singleton.mp isLast]

/-- A line belongs to the nearest declaration. -/
theorem declarationAt?_eq_some_iff :
    declarationAt? (declarations lines) line = some declaration ↔
      declaration ∈ declarations lines ∧ declaration.1 ≤ line ∧
        ∀ other ∈ declarations lines, other.1 ≤ line → other.1 ≤ declaration.1 := by
  constructor
  · intro found
    obtain ⟨member, above⟩ := mem_of_declarationAt? found
    exact ⟨member, above, fun other => nearest_of_declarationAt? found⟩
  · rintro ⟨member, above, nearest⟩
    have inFilter : declaration ∈ (declarations lines).filter fun other => other.1 ≤ line :=
      List.mem_filter.mpr ⟨member, decide_eq_true above⟩
    obtain ⟨last, found⟩ : ∃ last, declarationAt? (declarations lines) line = some last :=
      Option.isSome_iff_exists.mp (List.getLast?_isSome.mpr (List.ne_nil_of_mem inFilter))
    obtain ⟨lastMember, lastAbove⟩ := mem_of_declarationAt? found
    have sameLine : last.1 = declaration.1 :=
      Nat.le_antisymm (nearest last lastMember lastAbove)
        (nearest_of_declarationAt? found member above)
    obtain ⟨-, text, present, named⟩ := mem_declarations_iff.mp member
    obtain ⟨-, lastText, lastPresent, lastNamed⟩ := mem_declarations_iff.mp lastMember
    rw [sameLine, present] at lastPresent
    obtain rfl := Option.some.inj lastPresent
    have sameName : last.2 = declaration.2 := Option.some.inj (lastNamed.symm.trans named)
    rw [found, Prod.ext sameLine sameName]

/-- The line of a declaration belongs to it. -/
theorem declarationAt?_self
    (found : declarationAt? (declarations lines) line = some declaration) :
    declarationAt? (declarations lines) declaration.1 = some declaration :=
  declarationAt?_eq_some_iff.mpr
    ⟨(mem_of_declarationAt? found).1, Nat.le_refl _, fun _ _ upTo => upTo⟩

end Nearest

theorem line_of_owned? {line : Nat} {found : Member × MemberKind} {member : MemberDeclaration}
    (owned : owned? lineCount declared name line found = some member) : member.line = line := by
  unfold owned? at owned
  split at owned
  · cases owned
  · split at owned
    · obtain rfl := Option.some.inj owned
      rfl
    · cases owned

theorem line_of_mem_filterMap_owned? {line : Nat} {found : List (Member × MemberKind)}
    {member : MemberDeclaration}
    (inMembers : member ∈ found.filterMap (owned? lineCount declared name line)) :
    member.line = line := by
  obtain ⟨read, -, owned⟩ := List.mem_filterMap.mp inMembers
  exact line_of_owned? owned

/-- Members are found from the top down; a line may declare more than one. -/
theorem pairwise_membersFrom (start : Nat) (texts : List (List Char)) :
    (membersFrom lineCount declared name start texts).Pairwise fun above below =>
      above.line ≤ below.line := by
  refine List.pairwise_flatMap.mpr ⟨fun (text, line) _ => ?_, ?_⟩
  · refine List.pairwise_of_forall_mem_list fun above inAbove below inBelow => ?_
    rw [line_of_mem_filterMap_owned? inAbove, line_of_mem_filterMap_owned? inBelow]
  · refine (pairwise_zipIdx start texts).imp fun {_ _} order member inAbove other inBelow => ?_
    rw [line_of_mem_filterMap_owned? inAbove, line_of_mem_filterMap_owned? inBelow]
    exact Nat.le_of_lt order

end From

def movedDeclaration (move : Nat → Nat) (declaration : Nat × List Char) : Nat × List Char :=
  (move declaration.1, declaration.2)

/-- A member after its line and the line of its type have moved, in a document of `lineCount`
lines. -/
def movedMember (lineCount : Nat) (move : Nat → Nat) (member : MemberDeclaration) :
    MemberDeclaration :=
  { member with
    owningType := {
      typeName := member.owningType.typeName
      startLine := move member.owningType.startLine
      endLine := lineCount }
    line := move member.line }

section Moves

variable {move : Nat → Nat} {start place : Nat} {texts : List (List Char)}

theorem zipIdx_moved (places : ∀ index < texts.length, move (start + index) = place + index) :
    texts.zipIdx place = (texts.zipIdx start).map fun entry => (entry.1, move entry.2) := by
  refine List.ext_getElem (by simp) fun index inside _ => ?_
  have bound : index < texts.length := by simpa using inside
  simp [places index bound]

theorem declaredFrom_moved (places : ∀ index < texts.length, move (start + index) = place + index) :
    declaredFrom place texts = (declaredFrom start texts).map (movedDeclaration move) := by
  rw [declaredFrom, zipIdx_moved places, List.filterMap_map, declaredFrom, List.map_filterMap]
  refine List.filterMap_congr fun (text, line) _ => ?_
  simp only [Function.comp_apply, Option.map_map]
  rfl

/-- A line that has moved belongs to the declaration that it belonged to. -/
theorem declarationAt?_moved (monotone : StrictMono move) (declared : List (Nat × List Char))
    (line : Nat) : declarationAt? (declared.map (movedDeclaration move)) (move line) =
      (declarationAt? declared line).map (movedDeclaration move) := by
  unfold declarationAt?
  rw [List.filter_map, List.getLast?_map]
  congr 2
  refine List.filter_congr fun declaration _ => ?_
  simp [movedDeclaration, monotone.le_iff_le]

theorem owned?_moved (monotone : StrictMono move) (declared : List (Nat × List Char))
    (lineCount otherCount : Nat) (name : String) (line : Nat) (found : Member × MemberKind) :
    owned? otherCount (declared.map (movedDeclaration move)) name (move line) found =
      (owned? lineCount declared name line found).map (movedMember otherCount move) := by
  unfold owned?
  rw [declarationAt?_moved monotone]
  cases declarationAt? declared line with
  | none => rfl
  | some declaration =>
      by_cases named : String.ofList declaration.2 = name
      · simp only [Option.map_some, movedDeclaration, if_pos named]
        rfl
      · simp only [Option.map_some, movedDeclaration, if_neg named, Option.map_none]

theorem membersFrom_moved (monotone : StrictMono move) (declared : List (Nat × List Char))
    (lineCount otherCount : Nat) (name : String)
    (places : ∀ index < texts.length, move (start + index) = place + index) :
    membersFrom otherCount (declared.map (movedDeclaration move)) name place texts =
      (membersFrom lineCount declared name start texts).map (movedMember otherCount move) := by
  rw [membersFrom, zipIdx_moved places, List.flatMap_map, membersFrom, List.map_flatMap]
  refine List.flatMap_congr fun (text, line) _ => ?_
  rw [List.map_filterMap]
  exact List.filterMap_congr fun found _ => owned?_moved monotone declared _ _ name line found

theorem map_movedDeclaration_id (declared : List (Nat × List Char)) :
    declared.map (movedDeclaration id) = declared := List.map_id declared

/-- Only the number of lines of the document is another one. -/
theorem membersFrom_recounted (lineCount otherCount : Nat) (declared : List (Nat × List Char))
    (name : String) (start : Nat) (texts : List (List Char)) :
    membersFrom otherCount declared name start texts =
      (membersFrom lineCount declared name start texts).map (movedMember otherCount id) := by
  have moved : membersFrom otherCount (declared.map (movedDeclaration id)) name start texts = _ :=
    membersFrom_moved strictMono_id declared lineCount otherCount name fun _ _ => rfl
  rwa [map_movedDeclaration_id] at moved

end Moves

/-- A document in which what another one declares is found again, with its lines moved; of the
members those of one type. -/
structure Follows (move : Nat → Nat) (declaration : Nat × List Char)
    (lines after : List (List Char)) : Prop where
  declared : declarations after = (declarations lines).map (movedDeclaration move)
  collected : members after (typeOf after.length (movedDeclaration move declaration)) =
    (members lines (typeOf lines.length declaration)).map (movedMember after.length move)

section Documents

variable {declaration : Nat × List Char}

theorem Follows.trans {move other : Nat → Nat} {lines middle after : List (List Char)}
    (first : Follows move declaration lines middle)
    (second : Follows other (movedDeclaration move declaration) middle after) :
    Follows (other ∘ move) declaration lines after where
  declared := by
    rw [second.declared, first.declared, List.map_map]
    rfl
  collected := by
    have again := second.collected
    rw [first.collected, List.map_map] at again
    exact again

/-- Lines that declare the same in the same order. -/
theorem follows_of_alike {lines after : List (List Char)}
    (types : after.map declaredType? = lines.map declaredType?)
    (found : after.map lineMembers = lines.map lineMembers) :
    Follows id declaration lines after := by
  have behind (start : Nat) :
      declaredFrom start (after.drop start) = declaredFrom start (lines.drop start) :=
    declaredFrom_congr (by rw [List.map_drop, types, List.map_drop])
  have declared : declarations after = declarations lines := by
    rw [declarations_eq, declarations_eq, behind]
  have collected (start : Nat) : membersFrom after.length (declarations lines)
      (String.ofList declaration.2) start (after.drop start) =
      membersFrom after.length (declarations lines) (String.ofList declaration.2) start
        (lines.drop start) :=
    membersFrom_congr (by rw [List.map_drop, found, List.map_drop])
  refine ⟨by rw [declared, map_movedDeclaration_id], ?_⟩
  change members after (typeOf after.length declaration) = _
  rw [members_eq, members_eq, declared, collected, membersFrom_recounted lines.length]

/-- The line that a line becomes when some are put in front of the line `first`. -/
def behind (first count : Nat) (line : Nat) : Nat := if line < first then line else line + count

theorem strictMono_behind (first count : Nat) : StrictMono (behind first count) := by
  intro line later order
  unfold behind
  split <;> split <;> omega

theorem behind_of_lt {first line : Nat} (above : line < first) (count : Nat) :
    behind first count line = line := if_pos above

theorem behind_of_le {first line : Nat} (below : first ≤ line) (count : Nat) :
    behind first count line = line + count := if_neg (Nat.not_lt_of_le below)

/-- Silent lines below a type do not change what it declares. -/
theorem follows_insertion {front added back : List (List Char)}
    (silent : ∀ line ∈ added, Silent line) (above : declaration.1 < front.length) :
    Follows (behind front.length added.length) declaration (front ++ back)
      (front ++ added ++ back) := by
  have cut {start : Nat} (reached : start ≤ front.length) (rest : List (List Char)) :
      (front ++ rest).drop start = front.drop start ++ rest :=
    List.drop_append_of_le_length reached
  have inFront (start : Nat) (index : Nat) (inside : index < (front.drop start).length) :
      behind front.length added.length (start + index) = start + index := by
    rw [List.length_drop] at inside
    exact behind_of_lt (by omega) _
  have inBack (start : Nat) (reached : start ≤ front.length) (index : Nat)
      (_ : index < back.length) :
      behind front.length added.length (start + (front.drop start).length + index) =
        start + (front.drop start).length + added.length + index := by
    rw [List.length_drop, behind_of_le (by omega)]
    omega
  have declared : declarations (front ++ added ++ back) =
      (declarations (front ++ back)).map (movedDeclaration (behind front.length added.length)) := by
    have reached : 1 ≤ front.length := Nat.lt_of_le_of_lt (Nat.zero_le _) above
    have upper := declaredFrom_moved (inFront 1)
    have lower := declaredFrom_moved (inBack 1 reached)
    rw [declarations_eq, declarations_eq, List.append_assoc, cut reached, cut reached,
      declaredFrom_append, declaredFrom_append, declaredFrom_of_silent silent, List.nil_append,
      declaredFrom_append, List.map_append, ← upper, lower]
  have stays : movedDeclaration (behind front.length added.length) declaration = declaration := by
    rw [movedDeclaration, behind_of_lt above]
  refine ⟨declared, ?_⟩
  -- the same cut once more, now right below the type: members are read from there on
  have reached : declaration.1 + 1 ≤ front.length := above
  have monotone := strictMono_behind front.length added.length
  have upper := membersFrom_moved monotone (declarations (front ++ back)) (front ++ back).length
    (front ++ added ++ back).length (String.ofList declaration.2) (inFront (declaration.1 + 1))
  have lower := membersFrom_moved monotone (declarations (front ++ back)) (front ++ back).length
    (front ++ added ++ back).length (String.ofList declaration.2)
    (inBack (declaration.1 + 1) reached)
  rw [stays, members_eq, members_eq, declared]
  generalize (front ++ added ++ back).length = count at upper lower ⊢
  rw [List.append_assoc, cut reached, cut reached, membersFrom_append, membersFrom_append,
    membersFrom_of_silent silent, List.nil_append, membersFrom_append, List.map_append, ← upper,
    lower]

/-- A silent last line may be left out. -/
theorem follows_dropLast {front : List (List Char)} {last : List Char} (silent : Silent last) :
    Follows id declaration (front ++ [last]) front := by
  have none (start : Nat) : ∀ line ∈ [last].drop start, Silent line := by
    intro line member
    rw [List.mem_singleton.mp (List.mem_of_mem_drop member)]
    exact silent
  have declared : declarations front = declarations (front ++ [last]) := by
    rw [declarations_eq, declarations_eq, List.drop_append, declaredFrom_append,
      declaredFrom_of_silent (none _), List.append_nil]
  refine ⟨by rw [declared, map_movedDeclaration_id], ?_⟩
  change members front (typeOf front.length declaration) = _
  rw [members_eq, members_eq, declared, List.drop_append, membersFrom_append,
    membersFrom_of_silent (none _), List.append_nil, membersFrom_recounted (front ++ [last]).length]

end Documents

end ConstructorAction.Source
