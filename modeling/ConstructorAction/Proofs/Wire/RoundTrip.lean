import ConstructorAction.Action.Request

namespace ConstructorAction.Wire

open ConstructorAction.Action ConstructorAction.Document ConstructorAction.Settings
  ConstructorAction.Source

/-!
What is written is read back. Numbers have to fit into 64 bits, and nothing else is lost
(`Faithful`). For an enumeration it is enough that its names differ (`Enumeration`), and for a
record that its reader finds every field under its name or at its place (`Record`).
-/

/-- Types whose values, as far as they fit, come back from what is written for them. -/
class Faithful (α : Type) [Codec α] where
  Fits : α → Prop
  decode_encode {value : α} (fits : Fits value) : decode (encode value) = .ok value

export Faithful (Fits decode_encode)

instance : Faithful Nat where
  Fits n := n < Text.wordLimit
  decode_encode {n} fits := by
    have inRange : (0 : Int) ≤ n ∧ (n : Int) < Text.wordLimit :=
      ⟨Int.natCast_nonneg n, Int.ofNat_lt.mpr fits⟩
    change (if _ then _ else _) = _
    rw [if_pos inRange]
    rfl

instance : Faithful UInt32 where
  Fits _ := True
  decode_encode {n} _ := by
    have inRange : (0 : Int) ≤ n.toNat ∧ (n.toNat : Int) < UInt32.size :=
      ⟨Int.natCast_nonneg n.toNat, Int.ofNat_lt.mpr n.toNat_lt_size⟩
    change (if _ then Except.ok (UInt32.ofNat (Int.toNat n.toNat)) else _) = _
    rw [if_pos inRange, Int.toNat_natCast, UInt32.ofNat_toNat]

instance : Faithful String where
  Fits _ := True
  decode_encode _ := rfl

instance : Faithful Bool where
  Fits _ := True
  decode_encode _ := rfl

instance : Faithful Json where
  Fits _ := True
  decode_encode _ := rfl

instance : Faithful (Option String) where
  Fits _ := True
  decode_encode {value} _ := by
    cases value with
    | none => rfl
    | some text => rfl

theorem decodeElements_encode {α : Type} [Codec α] [Faithful α] {values : List α}
    (fits : ∀ value ∈ values, Fits value) : decodeElements (values.map encode) = .ok values := by
  induction values with
  | nil => rfl
  | cons value later ih =>
      obtain ⟨first, rest⟩ := List.forall_mem_cons.mp fits
      rw [List.map_cons, decodeElements, decode_encode first, ih rest]

instance {α : Type} [Codec α] [Faithful α] : Faithful (List α) where
  Fits values := ∀ value ∈ values, Fits value
  decode_encode fits := decodeElements_encode fits

theorem decodeName_eq_ok_iff {α : Type} {known : List (String × α)} {json : Json} {value : α} :
    decodeName known json = .ok value ↔
      ∃ name, known.lookup name = some value ∧
        (json = .string name ∨ json = .object [(name, .null)]) := by
  have find (name : String) :
      decodeName.find known name = .ok value ↔ known.lookup name = some value := by
    unfold decodeName.find
    cases known.lookup name <;> simp
  constructor
  · intro decoded
    unfold decodeName at decoded
    split at decoded
    · next name => exact ⟨name, (find name).mp decoded, .inl rfl⟩
    · next name payload =>
        split at decoded
        · cases decoded
        · next found =>
            split at decoded
            · cases decoded
              exact ⟨name, (find name).mp found, .inr rfl⟩
            · cases decoded
    · cases decoded
    · cases decoded
  · rintro ⟨name, found, rfl | rfl⟩
    · exact (find name).mpr found
    · rw [decodeName, (find name).mpr found]

/-- Types whose values are written by name. -/
class Enumeration (α : Type) [Codec α] where
  all : List α
  name : α → String
  complete (value : α) : value ∈ all
  distinct : (all.map name).Nodup
  encode_eq (value : α) : encode value = .string (name value)
  decode_eq (json : Json) : decode json = decodeName (all.map fun value => (name value, value)) json

theorem lookup_names_eq_some_iff {α : Type} {name : α → String} {values : List α}
    (distinct : (values.map name).Nodup) {written : String} {value : α} :
    (values.map fun value => (name value, value)).lookup written = some value ↔
      value ∈ values ∧ written = name value := by
  induction values with
  | nil => simp
  | cons first later ih =>
      rw [List.map_cons, List.nodup_cons] at distinct
      rw [List.map_cons, List.lookup_cons, List.mem_cons]
      by_cases same : written = name first
      · subst same
        have onlyFirst (elsewhere : value ∈ later) : name first ≠ name value := fun same =>
          distinct.1 (same ▸ List.mem_map_of_mem elsewhere)
        rw [beq_self_eq_true]
        constructor
        · rintro ⟨⟩
          exact ⟨.inl rfl, rfl⟩
        · rintro ⟨rfl | elsewhere, same⟩
          · rfl
          · exact absurd same (onlyFirst elsewhere)
      · rw [beq_false_of_ne same]
        constructor
        · intro found
          obtain ⟨inLater, named⟩ := (ih distinct.2).mp found
          exact ⟨.inr inLater, named⟩
        · rintro ⟨rfl | inLater, named⟩
          · exact absurd named same
          · exact (ih distinct.2).mpr ⟨inLater, named⟩

section Enumerations

variable {α : Type} [Codec α] [Enumeration α] {json : Json} {value : α}

/-- A value is read from its name, alone or as the only key, and from nothing else. -/
theorem decode_enumeration_eq_ok_iff : decode json = .ok value ↔
    json = .string (Enumeration.name value) ∨
      json = .object [(Enumeration.name value, .null)] := by
  rw [Enumeration.decode_eq, decodeName_eq_ok_iff]
  simp only [lookup_names_eq_some_iff Enumeration.distinct, Enumeration.complete, true_and,
    exists_eq_left]

instance : Faithful α where
  Fits _ := True
  decode_encode _ := decode_enumeration_eq_ok_iff.mpr (.inl (Enumeration.encode_eq _))

end Enumerations

instance : Enumeration MemberKind where
  all := [.field, .property]
  name := MemberKind.name
  complete kind := by cases kind <;> simp
  distinct := by decide
  encode_eq _ := rfl
  decode_eq _ := rfl

instance : Enumeration AssignmentRule where
  all := [.underscoreAware, .alwaysThis]
  name := AssignmentRule.name
  complete rule := by cases rule <;> simp
  distinct := by decide
  encode_eq _ := rfl
  decode_eq _ := rfl

instance : Enumeration InsertionRule where
  all := [.firstMember, .cursor]
  name := InsertionRule.name
  complete rule := by cases rule <;> simp
  distinct := by decide
  encode_eq _ := rfl
  decode_eq _ := rfl

instance : Enumeration IndentStyle where
  all := [.flat, .nested]
  name := IndentStyle.name
  complete style := by cases style <;> simp
  distinct := by decide
  encode_eq _ := rfl
  decode_eq _ := rfl

/-- What a source has for the field of that name and place. -/
def Source.value? (source : Source) (name : String) (place : Nat) : Option Json :=
  match source with
  | .members entries => entries.lookup name
  | .elements values => values[place]?

/-- A source has the values of all fields, each under its name or at its place. -/
def Source.Holds (source : Source) (entries : List (String × Json)) : Prop :=
  ∀ (place : Nat) {name : String} {value : Json}, entries[place]? = some (name, value) →
    source.value? name place = some value

theorem Source.holds_elements (entries : List (String × Json)) :
    (Source.elements (entries.map Prod.snd)).Holds entries := by
  intro place name value found
  rw [Source.value?, List.getElem?_map, found]
  rfl

theorem Source.holds_members {entries : List (String × Json)}
    (distinct : (entries.map Prod.fst).Nodup) : (Source.members entries).Holds entries := by
  intro place name value found
  obtain ⟨before, after, rfl⟩ := List.append_of_mem (List.mem_of_getElem? found)
  refine List.lookup_eq_some_iff.mpr ⟨before, after, rfl, fun entry inBefore => ?_⟩
  rw [List.map_append, List.map_cons, List.nodup_append] at distinct
  have apart : entry.1 ≠ name :=
    distinct.2.2 entry.1 (List.mem_map_of_mem inBefore) name List.mem_cons_self
  simpa using apart.symm

namespace Fields

variable {α β : Type} {source : Source}

/-- The fields are read without a gap. -/
def Reads (fields : Fields α) (source : Source) (value : α) : Prop := fields source = .whole value

theorem Reads.map {fields : Fields α} {value : α} (f : α → β) (reads : fields.Reads source value) :
    Reads (f <$> fields) source (f value) := by
  change (fields source).map f = _
  rw [show fields source = _ from reads]
  rfl

theorem Reads.seq {left : Fields (α → β)} {right : Fields α} {f : α → β} {value : α}
    (function : left.Reads source f) (argument : right.Reads source value) :
    Reads (left <*> right) source (f value) := by
  change (left source).apply (right source) = _
  rw [show left source = _ from function, show right source = _ from argument]
  rfl

theorem ofValue_encode [Codec α] [Faithful α] {value : α} (name : String) (fits : Fits value) :
    Gathered.ofValue name (encode value) = .whole value := by
  rw [Gathered.ofValue, decode_encode fits]

theorem reads_field [Codec α] [Faithful α] {name : String} {place : Nat} {value : α}
    (found : source.value? name place = some (encode value)) (fits : Fits value) :
    (field name place).Reads source value := by
  cases source with
  | members entries =>
      change entries.lookup name = _ at found
      rw [Reads, field, found]
      exact ofValue_encode name fits
  | elements values =>
      change values[place]? = _ at found
      rw [Reads, field, found]
      exact ofValue_encode name fits

theorem reads_optionalField [Codec α] [Faithful (Option α)] {name : String} {place : Nat}
    {value : Option α} (found : source.value? name place = some (encode value))
    (fits : Fits value) : (optionalField name place).Reads source value := by
  cases source with
  | members entries =>
      change entries.lookup name = _ at found
      rw [Reads, optionalField, found]
      exact ofValue_encode name fits
  | elements values => exact reads_field found fits

end Fields

/-- Types that are written as an object with one entry for each field. -/
class Record (α : Type) [Codec α] where
  name : String
  fields : Fields α
  entries : α → List (String × Json)
  Fits : α → Prop
  encode_eq (value : α) : encode value = .object (entries value)
  decode_eq (value : α) (json : Json) :
    decode json = decodeRecord name (entries value).length fields json
  distinct (value : α) : ((entries value).map Prod.fst).Nodup
  reads {source : Source} {value : α} (holds : source.Holds (entries value)) (fits : Fits value) :
    fields.Reads source value

section Records

variable {α : Type} [Codec α] [Record α] {value : α}

/-- A record is read from any object that has its entries, whatever else is in it. -/
theorem decode_object {entries : List (String × Json)}
    (holds : (Source.members entries).Holds (Record.entries value)) (fits : Record.Fits value) :
    decode (.object entries) = .ok value := by
  have reads := Record.reads holds fits
  rw [Record.decode_eq value, decodeRecord, reads]

/-- A record is read from the array of its values. -/
theorem decode_array (fits : Record.Fits value) :
    decode (.array ((Record.entries value).map Prod.snd)) = .ok value := by
  have reads := Record.reads (Source.holds_elements (Record.entries value)) fits
  rw [Record.decode_eq value, decodeRecord, reads]
  exact if_neg (by simp)

instance : Faithful α where
  Fits := Record.Fits
  decode_encode {value} fits := by
    rw [Record.encode_eq]
    exact decode_object (Source.holds_members (Record.distinct value)) fits

end Records

open Fields

instance : Record Position where
  name := "Position"
  fields := Position.mk <$> field "line" 0 <*> field "character" 1
  entries position := [("line", encode position.line), ("character", encode position.character)]
  Fits position := Fits position.line ∧ Fits position.character
  encode_eq _ := rfl
  decode_eq _ _ := rfl
  distinct _ := by simp
  reads holds fits := by
    obtain ⟨line, character⟩ := fits
    exact .seq (.map _ (reads_field (holds 0 rfl) line)) (reads_field (holds 1 rfl) character)

instance : Record Range where
  name := "Range"
  fields := Range.mk <$> field "start" 0 <*> field "end" 1
  entries range := [("start", encode range.start), ("end", encode range.stop)]
  Fits range := Fits range.start ∧ Fits range.stop
  encode_eq _ := rfl
  decode_eq _ _ := rfl
  distinct _ := by simp
  reads holds fits := by
    obtain ⟨start, stop⟩ := fits
    exact .seq (.map _ (reads_field (holds 0 rfl) start)) (reads_field (holds 1 rfl) stop)

instance : Record TextEdit where
  name := "TextEdit"
  fields := TextEdit.mk <$> field "range" 0 <*> field "newText" 1
  entries edit := [("range", encode edit.range), ("newText", encode edit.newText)]
  Fits edit := Fits edit.range
  encode_eq _ := rfl
  decode_eq _ _ := rfl
  distinct _ := by simp
  reads holds fits :=
    .seq (.map _ (reads_field (holds 0 rfl) fits)) (reads_field (holds 1 rfl) trivial)

instance : Record TypeDeclaration where
  name := "TypeDeclaration"
  fields := TypeDeclaration.mk <$> field "typeName" 0 <*> field "startLine" 1 <*> field "endLine" 2
  entries type :=
    [("typeName", encode type.typeName), ("startLine", encode type.startLine),
      ("endLine", encode type.endLine)]
  Fits type := Fits type.startLine ∧ Fits type.endLine
  encode_eq _ := rfl
  decode_eq _ _ := rfl
  distinct _ := by simp
  reads holds fits := by
    obtain ⟨startLine, endLine⟩ := fits
    have name := reads_field (holds 0 rfl) trivial
    exact .seq (.seq (.map _ name) (reads_field (holds 1 rfl) startLine))
      (reads_field (holds 2 rfl) endLine)

instance : Record MemberDeclaration where
  name := "MemberDeclaration"
  fields :=
    MemberDeclaration.mk <$> field "owningType" 0 <*> field "declaredType" 1 <*> field "name" 2
      <*> field "line" 3 <*> field "kind" 4
  entries member :=
    [("owningType", encode member.owningType), ("declaredType", encode member.declaredType),
      ("name", encode member.name), ("line", encode member.line), ("kind", encode member.kind)]
  Fits member := Fits member.owningType ∧ Fits member.line
  encode_eq _ := rfl
  decode_eq _ _ := rfl
  distinct _ := by simp
  reads holds fits := by
    obtain ⟨owningType, line⟩ := fits
    have owner := reads_field (holds 0 rfl) owningType
    have declaredType := reads_field (holds 1 rfl) trivial
    have name := reads_field (holds 2 rfl) trivial
    have kind := reads_field (holds 4 rfl) trivial
    exact .seq (.seq (.seq (.seq (.map _ owner) declaredType) name)
      (reads_field (holds 3 rfl) line)) kind

instance : Record ConstructorRequest where
  name := "ConstructorRequest"
  fields :=
    ConstructorRequest.mk <$> field "document" 0 <*> field "owningType" 1 <*> field "members" 2
      <*> field "insertionPosition" 3
  entries request :=
    [("document", encode request.document), ("owningType", encode request.owningType),
      ("members", encode request.members),
      ("insertionPosition", encode request.insertionPosition)]
  Fits request :=
    Fits request.owningType ∧ Fits request.members ∧ Fits request.insertionPosition
  encode_eq _ := rfl
  decode_eq _ _ := rfl
  distinct _ := by simp
  reads holds fits := by
    obtain ⟨owningType, members, insertionPosition⟩ := fits
    have document := reads_field (holds 0 rfl) trivial
    have owner := reads_field (holds 1 rfl) owningType
    have declared := reads_field (holds 2 rfl) members
    exact .seq (.seq (.seq (.map _ document) owner) declared)
      (reads_field (holds 3 rfl) insertionPosition)

instance : Record Command where
  name := "Command"
  fields := Command.mk <$> field "title" 0 <*> field "command" 1 <*> field "arguments" 2
  entries command :=
    [("title", encode command.title), ("command", encode command.command),
      ("arguments", encode command.arguments)]
  Fits _ := True
  encode_eq _ := rfl
  decode_eq _ _ := rfl
  distinct _ := by simp
  reads holds _ := by
    have title := reads_field (holds 0 rfl) trivial
    have command := reads_field (holds 1 rfl) trivial
    exact .seq (.seq (.map _ title) command) (reads_field (holds 2 rfl) fun _ _ => trivial)

instance : Record Strategy where
  name := "CtorStrategy"
  fields := Strategy.mk <$> field "assignment" 0 <*> field "insertion" 1 <*> field "indent" 2
  entries strategy :=
    [("assignment", encode strategy.assignment), ("insertion", encode strategy.insertion),
      ("indent", encode strategy.indent)]
  Fits _ := True
  encode_eq _ := rfl
  decode_eq _ _ := rfl
  distinct _ := by simp
  reads holds _ := by
    have assignment := reads_field (holds 0 rfl) trivial
    have insertion := reads_field (holds 1 rfl) trivial
    exact .seq (.seq (.map _ assignment) insertion) (reads_field (holds 2 rfl) trivial)

instance : Record Settings where
  name := "CtorConfig"
  fields :=
    Settings.mk <$> field "tab_size" 0 <*> field "reformat_after_change" 1 <*> field "strategy" 2
      <*> optionalField "formatter" 3
  entries settings :=
    [("tab_size", encode settings.tabSize),
      ("reformat_after_change", encode settings.reformatAfterChange),
      ("strategy", encode settings.strategy), ("formatter", encode settings.formatter)]
  Fits settings := Fits settings.tabSize
  encode_eq _ := rfl
  decode_eq _ _ := rfl
  distinct _ := by simp
  reads holds fits := by
    have reformatAfterChange := reads_field (holds 1 rfl) trivial
    have strategy := reads_field (holds 2 rfl) trivial
    have formatter := reads_optionalField (holds 3 rfl) trivial
    exact .seq (.seq (.seq (.map _ (reads_field (holds 0 rfl) fits)) reformatAfterChange)
      strategy) formatter

end ConstructorAction.Wire
