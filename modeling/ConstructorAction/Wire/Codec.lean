import ConstructorAction.Text.Numeral
import ConstructorAction.Wire.DecodeError

namespace ConstructorAction.Wire

/-!
Encoding to JSON and decoding from it. A record is written as an object with its fields in the order
of their declaration. It is read from an object with any further members, or from an array of the
fields in order. An enumeration is written by name and read from the name or from an object with
the name as its only key and `null` under it.
-/

class Codec (α : Type) where
  encode : α → Json
  decode : Json → Except DecodeError α

export Codec (encode decode)

/-- Numbers of 64 bits. -/
instance : Codec Nat where
  encode n := .integer n
  decode
    | .integer value =>
        if 0 ≤ value ∧ value < Text.wordLimit then .ok value.toNat
        else .error (.wrongValue (.integer value) "usize")
    | other => .error (.wrongType other "usize")

/-- Numbers of 32 bits, such as the version of a document. -/
instance : Codec UInt32 where
  encode n := .integer n.toNat
  decode
    | .integer value =>
        if 0 ≤ value ∧ value < UInt32.size then .ok (.ofNat value.toNat)
        else .error (.wrongValue (.integer value) "u32")
    | other => .error (.wrongType other "u32")

instance : Codec String where
  encode text := .string text
  decode
    | .string text => .ok text
    | other => .error (.wrongType other "a string")

instance : Codec Bool where
  encode value := .bool value
  decode
    | .bool value => .ok value
    | other => .error (.wrongType other "a boolean")

instance : Codec Json where
  encode value := value
  decode value := .ok value

/-- The first element that does not decode decides the reason. -/
def decodeElements [Codec α] : List Json → Except DecodeError (List α)
  | [] => .ok []
  | element :: later =>
      match decode element with
      | .error problem => .error problem
      | .ok value =>
          match decodeElements later with
          | .error problem => .error problem
          | .ok values => .ok (value :: values)

instance [Codec α] : Codec (List α) where
  encode values := .array (values.map encode)
  decode
    | .array elements => decodeElements elements
    | other => .error (.wrongType other "a sequence")

instance [Codec α] : Codec (Option α) where
  encode
    | none => .null
    | some value => encode value
  decode
    | .null => .ok none
    | other => (decode other).map some

/-- Reads the name first, then what stands under it. -/
def decodeName (known : List (String × α)) : Json → Except DecodeError α
  | .string name => find name
  | .object [(name, payload)] =>
      match find name with
      | .error problem => .error problem
      | .ok value =>
          match payload with
          | .null => .ok value
          | other => .error (.wrongType other "unit")
  | .object members => .error (.wrongValue (.object members) "map with a single key")
  | other => .error (.wrongType other "string or map")
where
  find (name : String) : Except DecodeError α :=
    match known.lookup name with
    | some value => .ok value
    | none => .error (.unknownVariant name (known.map (·.1)))

/-- Where the fields of a record are read from. -/
inductive Source where
  | members (members : List (String × Json))
  | elements (elements : List Json)

/-- What keeps a record from being read. -/
inductive Gap where
  | bad (name : String) (problem : DecodeError)
  | missing (name : String)

/-- The fields read so far: all of them, or at least one gap. -/
inductive Gathered (α : Type) where
  | whole (value : α)
  | broken (first : Gap) (later : List Gap)

def Gathered.map (f : α → β) : Gathered α → Gathered β
  | .whole value => .whole (f value)
  | .broken first later => .broken first later

/-- Gaps on both sides are kept, those of the left side first. -/
def Gathered.apply : Gathered (α → β) → Gathered α → Gathered β
  | .whole f, .whole value => .whole (f value)
  | .whole _, .broken first later => .broken first later
  | .broken first later, .whole _ => .broken first later
  | .broken first later, .broken next more => .broken first (later ++ next :: more)

/-- A reader of fields, which learns of every gap. -/
def Fields (α : Type) := Source → Gathered α

def Fields.map (f : α → β) (fields : Fields α) : Fields β := fun source => (fields source).map f

def Fields.apply (left : Fields (α → β)) (right : Fields α) : Fields β := fun source =>
  (left source).apply (right source)

instance : Functor Fields where
  map := Fields.map

instance : Seq Fields where
  seq left right := Fields.apply left (right ())

def Gathered.ofValue [Codec α] (name : String) (value : Json) : Gathered α :=
  match decode value with
  | .ok value => .whole value
  | .error problem => .broken (.bad name problem) []

/-- The field of that name in an object, or at that place in an array. -/
def field [Codec α] (name : String) (place : Nat) : Fields α
  | .members members =>
      match members.lookup name with
      | some value => .ofValue name value
      | none => .broken (.missing name) []
  | .elements elements =>
      match elements[place]? with
      | some value => .ofValue name value
      | none => .broken (.missing name) []

/-- A field that an object may leave out. An array may not. -/
def optionalField [Codec α] (name : String) (place : Nat) : Fields (Option α)
  | .members members =>
      match members.lookup name with
      | some value => .ofValue name value
      | none => .whole none
  | .elements elements => field name place (.elements elements)

/-- In an object a bad value comes before a missing field, and of two bad values the one with the
lesser name. -/
def Gap.inMembers : Gap → Gap → Gap
  | .bad name problem, .bad other found =>
      if other < name then .bad other found else .bad name problem
  | .missing _, .bad name problem => .bad name problem
  | first, .missing _ => first

/-- In an array a bad value comes before a missing field, and of two bad values the first. -/
def Gap.inElements : Gap → Gap → Gap
  | .missing _, .bad name problem => .bad name problem
  | first, _ => first

/-- Reads a record with `size` fields. -/
def decodeRecord (name : String) (size : Nat) (fields : Fields α) : Json → Except DecodeError α
  | .object members =>
      match fields (.members members) with
      | .whole value => .ok value
      | .broken first later =>
          match later.foldl Gap.inMembers first with
          | .bad _ problem => .error problem
          | .missing absent => .error (.missingField absent)
  | .array elements =>
      match fields (.elements elements) with
      | .whole value =>
          if size < elements.length then .error (.tooLong elements.length) else .ok value
      | .broken first later =>
          match later.foldl Gap.inElements first with
          | .bad _ problem => .error problem
          | .missing _ =>
              .error (.tooShort elements.length s!"struct {name} with {size} elements")
  | other => .error (.wrongType other s!"struct {name}")

end ConstructorAction.Wire
