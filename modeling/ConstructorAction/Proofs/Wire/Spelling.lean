import Mathlib.Data.List.Forall2
import Mathlib.Data.List.Nodup
import ConstructorAction.Proofs.Wire.RoundTrip

namespace ConstructorAction.Wire

open ConstructorAction.Action ConstructorAction.Document ConstructorAction.Settings
  ConstructorAction.Source

/-!
All that is read as a value, said without the reader (`Spelled`). A record is spelled by an object
that has its fields among its entries, or by the array of them, an enumeration by a name or by an
object with the name as its only key; and each of these again wherever one stands in another. What
is spelled has numbers of 64 bits, so that it can be written again and comes back.
-/

/-- Types of which it is known what is read as which value. -/
class Spelled (α : Type) [Codec α] [Faithful α] where
  Spells : α → Json → Prop
  decode_eq_ok_iff {value : α} {json : Json} : decode json = .ok value ↔ Spells value json
  fits_of_spells {value : α} {json : Json} (spells : Spells value json) : Fits value

export Spelled (Spells decode_eq_ok_iff fits_of_spells)

instance : Spelled Nat where
  Spells n json := n < Text.wordLimit ∧ json = .integer n
  decode_eq_ok_iff {n json} := by
    constructor
    · intro decoded
      cases json with
      | integer value =>
          change (if 0 ≤ value ∧ value < Text.wordLimit then _ else _) = _ at decoded
          split at decoded
          · next inRange =>
              cases decoded
              have back : (value.toNat : Int) = value := Int.toNat_of_nonneg inRange.1
              exact ⟨by omega, by rw [back]⟩
          · cases decoded
      | _ => cases decoded
    · rintro ⟨small, rfl⟩
      exact decode_encode small
  fits_of_spells spells := spells.1

instance : Spelled String where
  Spells text json := json = .string text
  decode_eq_ok_iff {text json} := by
    constructor
    · intro decoded
      cases json <;> cases decoded
      rfl
    · rintro rfl
      rfl
  fits_of_spells _ := trivial

instance : Spelled Bool where
  Spells value json := json = .bool value
  decode_eq_ok_iff {value json} := by
    constructor
    · intro decoded
      cases json <;> cases decoded
      rfl
    · rintro rfl
      rfl
  fits_of_spells _ := trivial

instance : Spelled Json where
  Spells value json := json = value
  decode_eq_ok_iff := ⟨Except.ok.inj, fun same => same ▸ rfl⟩
  fits_of_spells _ := trivial

instance : Spelled (Option String) where
  Spells
    | none, json => json = .null
    | some text, json => json = .string text
  decode_eq_ok_iff {value json} := by
    constructor
    · intro decoded
      cases json <;> cases decoded <;> rfl
    · intro spells
      cases value with
      | none => cases spells; rfl
      | some text => cases spells; rfl
  fits_of_spells _ := trivial

section Elements

variable {α : Type} [Codec α] [Faithful α] [Spelled α] {values : List α} {elements : List Json}

theorem decodeElements_eq_ok_iff :
    decodeElements elements = .ok values ↔ List.Forall₂ Spells values elements := by
  induction elements generalizing values with
  | nil =>
      rw [List.forall₂_nil_right_iff]
      exact ⟨fun decoded => by cases decoded; rfl, fun empty => empty ▸ rfl⟩
  | cons element later ih =>
      rw [List.forall₂_cons_right_iff]
      constructor
      · intro decoded
        unfold decodeElements at decoded
        split at decoded
        · cases decoded
        · next value first =>
            split at decoded
            · cases decoded
            · next others rest =>
                cases decoded
                exact ⟨value, others, decode_eq_ok_iff.mp first, ih.mp rest, rfl⟩
      · rintro ⟨value, others, first, rest, rfl⟩
        rw [decodeElements, decode_eq_ok_iff.mpr first, ih.mpr rest]

theorem forall_fits_of_spells (spells : List.Forall₂ Spells values elements) :
    ∀ value ∈ values, Fits value := by
  induction spells with
  | nil => simp
  | cons first _ ih => exact List.forall_mem_cons.mpr ⟨fits_of_spells first, ih⟩

instance : Spelled (List α) where
  Spells values json := ∃ elements, json = .array elements ∧ List.Forall₂ Spells values elements
  decode_eq_ok_iff {values json} := by
    constructor
    · intro decoded
      cases json with
      | array elements => exact ⟨elements, rfl, decodeElements_eq_ok_iff.mp decoded⟩
      | _ => cases decoded
    · rintro ⟨elements, rfl, spells⟩
      exact decodeElements_eq_ok_iff.mpr spells
  fits_of_spells := by
    rintro values json ⟨elements, -, spells⟩
    exact forall_fits_of_spells spells

end Elements

instance {α : Type} [Codec α] [Enumeration α] : Spelled α where
  Spells value json :=
    json = .string (Enumeration.name value) ∨ json = .object [(Enumeration.name value, .null)]
  decode_eq_ok_iff := decode_enumeration_eq_ok_iff
  fits_of_spells _ := trivial

/-- A field of a record: its name, what spells its value, and whether an object may lack it. -/
structure Part where
  name : String
  Spells : Json → Prop
  MayLack : Prop

def part {α : Type} [Codec α] [Faithful α] [Spelled α] (name : String) (value : α) : Part :=
  ⟨name, Spells value, False⟩

def optionalPart {α : Type} [Codec α] [Faithful (Option α)] [Spelled (Option α)] (name : String)
    (value : Option α) : Part :=
  ⟨name, Spells value, value = none⟩

/-- An object spells a part by the entry of its name. -/
def Part.InMembers (entries : List (String × Json)) (part : Part) : Prop :=
  match entries.lookup part.name with
  | some json => part.Spells json
  | none => part.MayLack

/-- The object may have further entries, and the array may not. -/
def SpellsParts (parts : List Part) : Json → Prop
  | .object entries => ∀ part ∈ parts, part.InMembers entries
  | .array elements => List.Forall₂ Part.Spells parts elements
  | _ => False

/-- What a source has under the name of a part, or at its place, spells the part. -/
def Source.Shows (source : Source) (place : Nat) (part : Part) : Prop :=
  match source with
  | .members entries => part.InMembers entries
  | .elements values => ∃ json, values[place]? = some json ∧ part.Spells json

/-- The parts stand one after another from a place on. -/
@[simp] def Source.ShowsFrom (source : Source) : Nat → List Part → Prop
  | _, [] => True
  | place, part :: later => source.Shows place part ∧ source.ShowsFrom (place + 1) later

theorem Source.showsFrom_members_iff {entries : List (String × Json)} {place : Nat}
    {parts : List Part} : (Source.members entries).ShowsFrom place parts ↔
      ∀ part ∈ parts, part.InMembers entries := by
  induction parts generalizing place with
  | nil => simp [ShowsFrom]
  | cons part later ih => rw [ShowsFrom, ih, List.forall_mem_cons, Shows]

theorem Source.showsFrom_elements_iff {values : List Json} {place : Nat} {parts : List Part} :
    (Source.elements values).ShowsFrom place parts ∧ values.length ≤ place + parts.length ↔
      List.Forall₂ Part.Spells parts (values.drop place) := by
  induction parts generalizing place with
  | nil => simp [ShowsFrom]
  | cons part later ih =>
      have next : place + (part :: later).length = place + 1 + later.length := by
        rw [List.length_cons]
        omega
      rw [ShowsFrom, Shows, and_assoc, next, ih]
      by_cases inside : place < values.length
      · rw [List.getElem?_eq_getElem inside, List.drop_eq_getElem_cons inside, List.forall₂_cons]
        simp
      · rw [List.drop_eq_nil_of_le (Nat.le_of_not_lt inside), List.getElem?_eq_none (by omega)]
        simp

theorem Source.showsAll_elements_iff {values : List Json} {parts : List Part} :
    (Source.elements values).ShowsFrom 0 parts ∧ values.length ≤ parts.length ↔
      List.Forall₂ Part.Spells parts values := by
  have fromStart := @showsFrom_elements_iff values 0 parts
  rwa [Nat.zero_add, List.drop_zero] at fromStart

namespace Fields

variable {α β : Type} {source : Source}

@[simp] theorem reads_map_iff {f : α → β} {fields : Fields α} {result : β} :
    Reads (f <$> fields) source result ↔ ∃ value, fields.Reads source value ∧ f value = result := by
  constructor
  · intro reads
    change (fields source).map f = _ at reads
    cases held : fields source with
    | whole value =>
        rw [held] at reads
        cases reads
        exact ⟨value, held, rfl⟩
    | broken first later =>
        rw [held] at reads
        cases reads
  · rintro ⟨value, reads, rfl⟩
    exact reads.map f

@[simp] theorem reads_seq_iff {left : Fields (α → β)} {right : Fields α} {result : β} :
    Reads (left <*> right) source result ↔
      ∃ f, left.Reads source f ∧ ∃ value, right.Reads source value ∧ f value = result := by
  constructor
  · intro reads
    change (left source).apply (right source) = _ at reads
    cases function : left source with
    | whole f =>
        cases argument : right source with
        | whole value =>
            rw [function, argument] at reads
            cases reads
            exact ⟨f, function, value, argument, rfl⟩
        | broken first later =>
            rw [function, argument] at reads
            cases reads
    | broken first later =>
        cases argument : right source <;> rw [function, argument] at reads <;> cases reads
  · rintro ⟨f, function, value, argument, rfl⟩
    exact function.seq argument

theorem ofValue_eq_whole_iff [Codec α] [Faithful α] [Spelled α] {name : String} {json : Json}
    {value : α} : Gathered.ofValue name json = .whole value ↔ Spells value json := by
  rw [← decode_eq_ok_iff, Gathered.ofValue]
  cases (decode json : Except DecodeError α) <;> simp

@[simp] theorem reads_field_iff [Codec α] [Faithful α] [Spelled α] {name : String}
    {place : Nat} {value : α} :
    (field name place).Reads source value ↔ source.Shows place (part name value) := by
  cases source with
  | members entries =>
      simp only [Reads, field, Source.Shows, Part.InMembers, part]
      cases entries.lookup name with
      | none => simp
      | some json => exact ofValue_eq_whole_iff
  | elements values =>
      simp only [Reads, field, Source.Shows, part]
      cases values[place]? with
      | none => simp
      | some json => simpa using ofValue_eq_whole_iff

@[simp] theorem reads_optionalField_iff [Codec α] [Faithful (Option α)] [Spelled (Option α)]
    {name : String} {place : Nat} {value : Option α} :
    (optionalField name place).Reads source value ↔
      source.Shows place (optionalPart name value) := by
  cases source with
  | members entries =>
      simp only [Reads, optionalField, Source.Shows, Part.InMembers, optionalPart]
      cases entries.lookup name with
      | none => simp [eq_comm]
      | some json => exact ofValue_eq_whole_iff
  | elements values =>
      change (field name place).Reads (.elements values) value ↔ _
      exact reads_field_iff

theorem decodeRecord_members_eq_ok_iff {name : String} {size : Nat} {fields : Fields α}
    {value : α} {entries : List (String × Json)} :
    decodeRecord name size fields (.object entries) = .ok value ↔
      fields.Reads (.members entries) value := by
  rw [decodeRecord, Fields.Reads]
  cases fields (.members entries) with
  | whole found => simp
  | broken first later =>
      simp only [reduceCtorEq, iff_false]
      cases later.foldl Gap.inMembers first <;> simp

theorem decodeRecord_elements_eq_ok_iff {name : String} {size : Nat} {fields : Fields α}
    {value : α} {values : List Json} :
    decodeRecord name size fields (.array values) = .ok value ↔
      fields.Reads (.elements values) value ∧ values.length ≤ size := by
  rw [decodeRecord, Fields.Reads]
  cases fields (.elements values) with
  | whole found =>
      by_cases long : size < values.length
      · simp [long]
      · simp [long, Nat.le_of_not_lt long]
  | broken first later =>
      simp only [reduceCtorEq, false_and, iff_false]
      cases later.foldl Gap.inElements first <;> simp

end Fields

/-- Records of which the parts are known. -/
class SpelledRecord (α : Type) [Codec α] [Record α] where
  parts : α → List Part
  length_parts (value : α) : (parts value).length = (Record.entries value).length
  reads_iff {source : Source} {value : α} :
    Record.fields.Reads source value ↔ source.ShowsFrom 0 (parts value)
  fits_of_shows {source : Source} {value : α} (shows : source.ShowsFrom 0 (parts value)) :
    Record.Fits value

section Records

variable {α : Type} [Codec α] [Record α] [SpelledRecord α] {value : α} {json : Json}

theorem decode_record_eq_ok_iff :
    decode json = .ok value ↔ SpellsParts (SpelledRecord.parts value) json := by
  rw [Record.decode_eq value, ← SpelledRecord.length_parts value]
  cases json with
  | object entries =>
      rw [Fields.decodeRecord_members_eq_ok_iff, SpelledRecord.reads_iff,
        Source.showsFrom_members_iff, SpellsParts]
  | array values =>
      rw [Fields.decodeRecord_elements_eq_ok_iff, SpelledRecord.reads_iff,
        Source.showsAll_elements_iff, SpellsParts]
  | _ => exact ⟨fun decoded => (by cases decoded), False.elim⟩

theorem shows_of_spellsParts (spells : SpellsParts (SpelledRecord.parts value) json) :
    ∃ source : Source, source.ShowsFrom 0 (SpelledRecord.parts value) := by
  cases json with
  | object entries => exact ⟨.members entries, Source.showsFrom_members_iff.mpr spells⟩
  | array values => exact ⟨.elements values, (Source.showsAll_elements_iff.mpr spells).1⟩
  | _ => exact spells.elim

instance : Spelled α where
  Spells value json := SpellsParts (SpelledRecord.parts value) json
  decode_eq_ok_iff := decode_record_eq_ok_iff
  fits_of_spells spells := by
    obtain ⟨source, shows⟩ := shows_of_spellsParts spells
    exact SpelledRecord.fits_of_shows shows

end Records

theorem fits_of_shows {α : Type} [Codec α] [Faithful α] [Spelled α] {source : Source}
    {place : Nat} {name : String} {value : α} (shows : source.Shows place (part name value)) :
    Fits value := by
  cases source with
  | members entries =>
      change (part name value).InMembers entries at shows
      unfold Part.InMembers at shows
      split at shows
      · next json _ =>
          have spells : Spells value json := shows
          exact fits_of_spells spells
      · exact False.elim shows
  | elements values =>
      obtain ⟨json, -, spells⟩ : ∃ json, values[place]? = some json ∧ Spells value json := shows
      exact fits_of_spells spells

instance : SpelledRecord Position where
  parts position := [part "line" position.line, part "character" position.character]
  length_parts _ := rfl
  reads_iff {_ position} := by
    cases position
    simp [Record.fields]
  fits_of_shows := fun ⟨line, character, _⟩ => ⟨fits_of_shows line, fits_of_shows character⟩

instance : SpelledRecord Range where
  parts range := [part "start" range.start, part "end" range.stop]
  length_parts _ := rfl
  reads_iff {_ range} := by
    cases range
    simp [Record.fields]
  fits_of_shows := fun ⟨start, stop, _⟩ => ⟨fits_of_shows start, fits_of_shows stop⟩

instance : SpelledRecord TextEdit where
  parts edit := [part "range" edit.range, part "newText" edit.newText]
  length_parts _ := rfl
  reads_iff {_ edit} := by
    cases edit
    simp [Record.fields]
  fits_of_shows := fun ⟨range, _⟩ => fits_of_shows range

instance : SpelledRecord TypeDeclaration where
  parts type :=
    [part "typeName" type.typeName, part "startLine" type.startLine,
      part "endLine" type.endLine]
  length_parts _ := rfl
  reads_iff {_ type} := by
    cases type
    simp [Record.fields]
  fits_of_shows := fun ⟨_, startLine, endLine, _⟩ =>
    ⟨fits_of_shows startLine, fits_of_shows endLine⟩

instance : SpelledRecord MemberDeclaration where
  parts member :=
    [part "owningType" member.owningType, part "declaredType" member.declaredType,
      part "name" member.name, part "line" member.line, part "kind" member.kind]
  length_parts _ := rfl
  reads_iff {_ member} := by
    cases member
    simp [Record.fields, and_assoc]
  fits_of_shows := fun ⟨owningType, _, _, line, _⟩ => ⟨fits_of_shows owningType, fits_of_shows line⟩

instance : SpelledRecord ConstructorRequest where
  parts request :=
    [part "document" request.document, part "owningType" request.owningType,
      part "members" request.members, part "insertionPosition" request.insertionPosition]
  length_parts _ := rfl
  reads_iff {_ request} := by
    cases request
    simp [Record.fields, and_assoc]
  fits_of_shows := fun ⟨_, owningType, members, position, _⟩ =>
    ⟨fits_of_shows owningType, fits_of_shows members, fits_of_shows position⟩

instance : SpelledRecord Command where
  parts command :=
    [part "title" command.title, part "command" command.command,
      part "arguments" command.arguments]
  length_parts _ := rfl
  reads_iff {_ command} := by
    cases command
    simp [Record.fields]
  fits_of_shows _ := trivial

instance : SpelledRecord Strategy where
  parts strategy :=
    [part "assignment" strategy.assignment, part "insertion" strategy.insertion,
      part "indent" strategy.indent]
  length_parts _ := rfl
  reads_iff {_ strategy} := by
    cases strategy
    simp [Record.fields]
  fits_of_shows _ := trivial

instance : SpelledRecord Settings where
  parts settings :=
    [part "tab_size" settings.tabSize, part "reformat_after_change" settings.reformatAfterChange,
      part "strategy" settings.strategy, optionalPart "formatter" settings.formatter]
  length_parts _ := rfl
  reads_iff {_ settings} := by
    cases settings
    simp [Record.fields, and_assoc, -Bool.exists_bool]
  fits_of_shows := fun ⟨tabSize, _⟩ => fits_of_shows tabSize

/-- Types whose values share no spelling that is written for one of them. What is written for a
value that does not fit is not read at all. -/
class Apart (α : Type) [Codec α] [Faithful α] [Spelled α] : Prop where
  eq_of_spells {value other : α} (spells : Spells other (encode value)) : other = value

export Apart (eq_of_spells)

theorem eq_of_decode_encode {α : Type} [Codec α] [Faithful α] [Spelled α] [Apart α]
    {value other : α} (read : decode (encode value) = .ok other) : other = value :=
  eq_of_spells (decode_eq_ok_iff.mp read)

instance : Apart Nat where
  eq_of_spells spells := (Int.ofNat.inj (Json.integer.inj spells.2)).symm

instance : Apart String where
  eq_of_spells spells := (Json.string.inj spells).symm

instance {α : Type} [Codec α] [Faithful α] [Spelled α] [Apart α] : Apart (List α) where
  eq_of_spells := by
    rintro values others ⟨elements, same, spells⟩
    obtain rfl := Json.array.inj same
    induction others generalizing values with
    | nil =>
        rw [List.map_eq_nil_iff.mp (List.forall₂_nil_left_iff.mp spells)]
    | cons other later ih =>
        cases values with
        | nil => cases spells
        | cons value values =>
            obtain ⟨first, rest⟩ := List.forall₂_cons.mp spells
            rw [eq_of_spells first, ih rfl rest]

instance {α : Type} [Codec α] [Enumeration α] : Apart α where
  eq_of_spells {value other} spells := by
    rw [Enumeration.encode_eq] at spells
    rcases spells with same | same
    · exact List.inj_on_of_nodup_map Enumeration.distinct (Enumeration.complete other)
        (Enumeration.complete value) (Json.string.inj same).symm
    · cases same

/-- What an object has under the name of a field is all that the field is read from. -/
theorem eq_of_shows {α : Type} [Codec α] [Faithful α] [Spelled α] [Apart α]
    {entries : List (String × Json)} {place : Nat} {name : String} {value other : α}
    (found : entries.lookup name = some (encode value))
    (shows : (Source.members entries).Shows place (part name other)) : other = value := by
  have spells : Spells other (encode value) := by
    simpa [Source.Shows, Part.InMembers, part, found] using shows
  exact eq_of_spells spells

theorem shows_of_object {parts : List Part} {entries : List (String × Json)}
    (spells : SpellsParts parts (.object entries)) :
    (Source.members entries).ShowsFrom 0 parts := Source.showsFrom_members_iff.mpr spells

instance : Apart Position where
  eq_of_spells {value other} spells := by
    obtain ⟨line, character, -⟩ := shows_of_object spells
    cases value
    cases other
    rw [Position.mk.injEq]
    exact ⟨eq_of_shows rfl line, eq_of_shows rfl character⟩

instance : Apart TypeDeclaration where
  eq_of_spells {value other} spells := by
    obtain ⟨typeName, startLine, endLine, -⟩ := shows_of_object spells
    cases value
    cases other
    rw [TypeDeclaration.mk.injEq]
    exact ⟨eq_of_shows rfl typeName, eq_of_shows rfl startLine, eq_of_shows rfl endLine⟩

instance : Apart MemberDeclaration where
  eq_of_spells {value other} spells := by
    obtain ⟨owningType, declaredType, name, line, kind, -⟩ := shows_of_object spells
    cases value
    cases other
    rw [MemberDeclaration.mk.injEq]
    exact ⟨eq_of_shows rfl owningType, eq_of_shows rfl declaredType,
      eq_of_shows rfl name, eq_of_shows rfl line, eq_of_shows rfl kind⟩

instance : Apart ConstructorRequest where
  eq_of_spells {value other} spells := by
    obtain ⟨document, owningType, members, position, -⟩ := shows_of_object spells
    cases value
    cases other
    rw [ConstructorRequest.mk.injEq]
    exact ⟨eq_of_shows rfl document, eq_of_shows rfl owningType,
      eq_of_shows rfl members, eq_of_shows rfl position⟩

/-- What fits comes back from what is written for it. What is read as a value is what spells it, and
it can be written again. -/
structure Lossless (α : Type) [Codec α] [Faithful α] [Spelled α] : Prop where
  back {value : α} (fits : Fits value) : decode (encode value) = .ok value
  accepts {value : α} {json : Json} : decode json = .ok value ↔ Spells value json
  again {value : α} {json : Json} (accepted : decode json = .ok value) :
    Fits value ∧ decode (encode value) = .ok value

/-- A record comes back also from the array of its written fields, and from any object that has them
under their names. -/
structure LosslessRecord (α : Type) [Codec α] [Record α] [SpelledRecord α] : Prop
    extends Lossless α where
  array {value : α} (fits : Fits value) :
    decode (.array ((Record.entries value).map Prod.snd)) = .ok value
  object {value : α} {entries : List (String × Json)} (fits : Fits value)
    (held : ∀ entry ∈ Record.entries value, entries.lookup entry.1 = some entry.2) :
    decode (.object entries) = .ok value

theorem lossless (α : Type) [Codec α] [Faithful α] [Spelled α] : Lossless α where
  back fits := decode_encode fits
  accepts := decode_eq_ok_iff
  again accepted := by
    have fits := fits_of_spells (decode_eq_ok_iff.mp accepted)
    exact ⟨fits, decode_encode fits⟩

theorem losslessRecord (α : Type) [Codec α] [Record α] [SpelledRecord α] : LosslessRecord α where
  toLossless := lossless α
  array fits := decode_array fits
  object fits held := decode_object (fun _ _ _ found => held _ (List.mem_of_getElem? found)) fits

/-- Every type of the protocol keeps its values, and takes them in all of their spellings. -/
theorem wire_types_lossless :
    LosslessRecord Position ∧ LosslessRecord Range ∧ LosslessRecord TextEdit ∧
      Lossless DocumentId ∧ LosslessRecord TypeDeclaration ∧ LosslessRecord MemberDeclaration ∧
      LosslessRecord ConstructorRequest ∧ LosslessRecord Command ∧ LosslessRecord Strategy ∧
      LosslessRecord Settings :=
  ⟨losslessRecord _, losslessRecord _, losslessRecord _, lossless _, losslessRecord _,
    losslessRecord _, losslessRecord _, losslessRecord _, losslessRecord _, losslessRecord _⟩

/-- A member in an array, with its type in an object that has a further key, and its kind under the
only key. -/
theorem wire_types_lossless_of_mixed_forms :
    let member : MemberDeclaration := ⟨⟨"A", 1, 5⟩, "int", "X", 3, .property⟩
    let owner : Json := .object
      [("endLine", .integer 5), ("further", .bool true), ("startLine", .integer 1),
        ("typeName", .string "A")]
    let written : Json := .array
      [owner, .string "int", .string "X", .integer 3, .object [("property", .null)]]
    decode written = .ok member ∧ decode (encode member) = .ok member := by
  intro member owner written
  obtain ⟨-, -, -, -, -, ofMember, -⟩ := wire_types_lossless
  have ownerSpelled : Spells member.owningType owner := by
    simp [Spells, SpellsParts, SpelledRecord.parts, part, Part.InMembers, member, owner,
      List.lookup_cons, Text.wordLimit]
  have spelled : Spells member written := by
    refine .cons ownerSpelled (.cons rfl (.cons rfl (.cons ⟨by decide, rfl⟩ (.cons ?_ .nil))))
    exact .inr rfl
  have accepted := ofMember.accepts.mpr spelled
  exact ⟨accepted, (ofMember.again accepted).2⟩

end ConstructorAction.Wire
