import ConstructorAction.Settings.Strategy
import ConstructorAction.Toml.Value

namespace ConstructorAction.Settings

/-!
What is wrong with a configuration file. Nothing of it is fatal: whatever a warning is about keeps
its default.
-/

def fileName : String := ".ctorgen.toml"

/-- The keys that a configuration file may have. -/
def knownKeys : List String :=
  ["tab_size", "reformat_after_change", "variant", "assignment", "insertion", "indent", "formatter"]

inductive Warning where
  | unknownKey (key : String) (suggestion : Option String)
  | tabSize (value : Toml.Value)
  | reformatAfterChange (value : Toml.Value)
  | rejected (problem : SettingsError)
  | notParsed
  | notRead
  deriving Repr, Inhabited

namespace Warning

def message : Warning → String
  | unknownKey _ (some suggestion) =>
      s!"Unknown key in {fileName}, did you mean '{suggestion}'?"
  | unknownKey _ none =>
      s!"Unknown key in {fileName} (known keys: " ++ ", ".intercalate knownKeys ++ ")"
  | tabSize _ => "tab_size must be a positive integer"
  | reformatAfterChange _ => "reformat_after_change must be true or false"
  | rejected problem => s!"invalid config: {problem.message}"
  | notParsed => s!"Failed to parse {fileName}"
  | notRead => s!"Failed to read {fileName}"

/-- What a warning is about, by name. -/
def details : Warning → List (String × String)
  | unknownKey key none => [("key", key)]
  | unknownKey key (some suggestion) => [("key", key), ("suggestion", suggestion)]
  | tabSize value | reformatAfterChange value => [("value", value.display)]
  | rejected _ | notParsed | notRead => []

end Warning

end ConstructorAction.Settings
