import ConstructorAction.Files.Tree
import ConstructorAction.Settings.Basic
import ConstructorAction.Settings.Warning
import ConstructorAction.Text.Blank
import ConstructorAction.Text.EditDistance
import ConstructorAction.Text.Utf8
import ConstructorAction.Toml.Reader

namespace ConstructorAction.Settings

open ConstructorAction.Files ConstructorAction.Text

/-!
Settings from a configuration file. Every key counts on its own: one that cannot be used leaves its
setting as it is, and most of them a warning.
-/

/-- Settings, and the warnings met on the way to them. -/
structure Loaded where
  settings : Settings := {}
  warnings : List Warning := []
  deriving Repr, Inhabited

/-- The first key with the least distance from a word. -/
def nearestKey (distance : String → Nat) : List String → Option String
  | [] => none
  | key :: later =>
      match nearestKey distance later with
      | none => some key
      | some other => if distance other < distance key then some other else some key

def keyDistance (key known : String) : Nat :=
  editDistance (toUtf8 key.toList) (toUtf8 known.toList)

/-- The known key that was probably meant: the nearest one, if it is at most three changes away. -/
def suggestion? (key : String) : Option String :=
  (nearestKey (keyDistance key) knownKeys).filter fun known => keyDistance key known ≤ 3

/-- A warning for every key that is not known. -/
def unknownKeys (table : Toml.Table) : List Warning :=
  (table.filter fun entry => !knownKeys.contains entry.1).map fun entry =>
    .unknownKey entry.1 (suggestion? entry.1)

/-- Why the value of a known key is not used, if that is worth a warning. -/
abbrev Unused := Option Warning

def tabSizeOf (value : Toml.Value) : Except Unused Nat :=
  match value with
  | .integer count => if 0 < count then .ok count.toNat else .error (some (.tabSize value))
  | _ => .error (some (.tabSize value))

def reformatAfterChangeOf (value : Toml.Value) : Except Unused Bool :=
  match value with
  | .boolean choice => .ok choice
  | _ => .error (some (.reformatAfterChange value))

/-- A choice by name; what is no string is passed over in silence. -/
def choiceOf (ofName : String → Except SettingsError α) (value : Toml.Value) : Except Unused α :=
  match value with
  | .string name => (ofName name).mapError fun problem => some (.rejected problem)
  | _ => .error none

/-- A command line without the blanks around it. One of blanks alone is passed over in silence, like
what is no string. -/
def formatterOf (value : Toml.Value) : Except Unused String :=
  match value with
  | .string line =>
      let command := trim line.toList
      if command.isEmpty then .error none else .ok (String.ofList command)
  | _ => .error none

/-- Takes over what a key sets, if the table has it. -/
def Loaded.take (table : Toml.Table) (key : String) (read : Toml.Value → Except Unused α)
    (set : α → Settings → Settings) (loaded : Loaded) : Loaded :=
  match table.lookup key with
  | none => loaded
  | some value =>
      match read value with
      | .ok setting => { loaded with settings := set setting loaded.settings }
      | .error warning => { loaded with warnings := loaded.warnings ++ warning.toList }

/-- The settings of a table. The preset comes before the rules that may depart from it. -/
def ofTable (table : Toml.Table) : Loaded :=
  ({ warnings := unknownKeys table } : Loaded)
    |>.take table "tab_size" tabSizeOf (fun count s => { s with tabSize := count })
    |>.take table "reformat_after_change" reformatAfterChangeOf
      (fun choice s => { s with reformatAfterChange := choice })
    |>.take table "variant" (choiceOf Strategy.ofVariant)
      (fun strategy s => { s with strategy := strategy })
    |>.take table "assignment" (choiceOf AssignmentRule.ofName)
      (fun rule s => { s with strategy.assignment := rule })
    |>.take table "insertion" (choiceOf InsertionRule.ofName)
      (fun rule s => { s with strategy.insertion := rule })
    |>.take table "indent" (choiceOf IndentStyle.ofName)
      (fun style s => { s with strategy.indent := style })
    |>.take table "formatter" formatterOf (fun line s => { s with formatter := some line })

/-- The settings of a configuration file, from what reading it gave. A file that is not there has no
warning. -/
def load (content : Except FileError (List UInt8)) : Loaded :=
  match content with
  | .error .notFound | .error .notDirectory => {}
  | .error _ => { warnings := [.notRead] }
  | .ok bytes =>
      match ofUtf8? bytes with
      | none => { warnings := [.notRead] }
      | some text =>
          match Toml.parse? text with
          | none => { warnings := [.notParsed] }
          | some table => ofTable table

end ConstructorAction.Settings
