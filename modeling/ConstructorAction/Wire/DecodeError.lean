import ConstructorAction.Text.Quoted
import ConstructorAction.Decimal.Shortest
import ConstructorAction.Wire.Json

namespace ConstructorAction.Wire

open ConstructorAction.Text ConstructorAction.Decimal

/-!
Why a JSON value does not decode, and the wording of each reason.
-/

inductive DecodeError where
  /-- A value of another kind. -/
  | wrongType (actual : Json) (expected : String)
  /-- A value of the right kind that is out of bounds. -/
  | wrongValue (actual : Json) (expected : String)
  | missingField (name : String)
  | tooShort (count : Nat) (expected : String)
  | tooLong (count : Nat)
  | unknownVariant (name : String) (known : List String)
  deriving Repr

/-- A value as messages name it; lists and objects are named by their kind only. -/
def Json.describe : Json → String
  | .null => "null"
  | .bool value => s!"boolean `{value}`"
  | .integer value => s!"integer `{value}`"
  | .double value => s!"floating point `{scientific value}`"
  | .string value => s!"string {quoted value}"
  | .array _ => "sequence"
  | .object _ => "map"

/-- Known names as messages list them. -/
def oneOf (names : List String) : String :=
  match names.map (fun name => s!"`{name}`") with
  | [] => "no variants"
  | [only] => only
  | [first, second] => s!"{first} or {second}"
  | many => "one of " ++ ", ".intercalate many

def DecodeError.message : DecodeError → String
  | .wrongType actual expected => s!"invalid type: {actual.describe}, expected {expected}"
  | .wrongValue actual expected => s!"invalid value: {actual.describe}, expected {expected}"
  | .missingField name => s!"missing field `{name}`"
  | .tooShort count expected => s!"invalid length {count}, expected {expected}"
  | .tooLong count => s!"invalid length {count}, expected fewer elements in array"
  | .unknownVariant name [] => s!"unknown variant `{name}`, there are no variants"
  | .unknownVariant name known => s!"unknown variant `{name}`, expected {oneOf known}"

end ConstructorAction.Wire
