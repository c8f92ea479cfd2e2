namespace ConstructorAction.Settings

/-!
The three choices in writing a constructor, their names, and the two presets that fix all three.
-/

/-- What stands on the left of an assignment. -/
inductive AssignmentRule where
  /-- A member with an underscore bare, every other one behind `this.`. -/
  | underscoreAware
  | alwaysThis
  deriving DecidableEq, Repr, Inhabited

/-- The line that the constructor is put before. -/
inductive InsertionRule where
  | firstMember
  /-- The line of the cursor, if it is below the declaration of the type. -/
  | cursor
  deriving DecidableEq, Repr, Inhabited

inductive IndentStyle where
  /-- The block at the margin. -/
  | flat
  /-- The block two levels in, as in a class in a namespace. -/
  | nested
  deriving DecidableEq, Repr, Inhabited

/-- Why a setting is not accepted. -/
inductive SettingsError where
  | unknownVariant (name : String)
  | unknownAssignment (name : String)
  | unknownInsertion (name : String)
  | unknownIndent (name : String)
  | emptyFormatterCommand
  deriving DecidableEq, Repr

def SettingsError.message : SettingsError → String
  | .unknownVariant name => s!"unknown variant '{name}' (expected standard or legacy)"
  | .unknownAssignment name =>
      s!"unknown assignment rule '{name}' (expected underscore-aware or always-this)"
  | .unknownInsertion name =>
      s!"unknown insertion rule '{name}' (expected first-member or cursor)"
  | .unknownIndent name => s!"unknown indent style '{name}' (expected flat or nested)"
  | .emptyFormatterCommand => "empty formatter command"

namespace AssignmentRule

def name : AssignmentRule → String
  | underscoreAware => "underscore-aware"
  | alwaysThis => "always-this"

def names : List (String × AssignmentRule) :=
  [underscoreAware, alwaysThis].map fun rule => (rule.name, rule)

def ofName (name : String) : Except SettingsError AssignmentRule :=
  match names.lookup name with
  | some rule => .ok rule
  | none => .error (.unknownAssignment name)

@[simp] theorem ofName_name (rule : AssignmentRule) : ofName rule.name = .ok rule := by
  cases rule <;> rfl

end AssignmentRule

namespace InsertionRule

def name : InsertionRule → String
  | firstMember => "first-member"
  | cursor => "cursor"

def names : List (String × InsertionRule) :=
  [firstMember, cursor].map fun rule => (rule.name, rule)

def ofName (name : String) : Except SettingsError InsertionRule :=
  match names.lookup name with
  | some rule => .ok rule
  | none => .error (.unknownInsertion name)

@[simp] theorem ofName_name (rule : InsertionRule) : ofName rule.name = .ok rule := by
  cases rule <;> rfl

end InsertionRule

namespace IndentStyle

def name : IndentStyle → String
  | flat => "flat"
  | nested => "nested"

def names : List (String × IndentStyle) :=
  [flat, nested].map fun style => (style.name, style)

def ofName (name : String) : Except SettingsError IndentStyle :=
  match names.lookup name with
  | some style => .ok style
  | none => .error (.unknownIndent name)

@[simp] theorem ofName_name (style : IndentStyle) : ofName style.name = .ok style := by
  cases style <;> rfl

end IndentStyle

structure Strategy where
  assignment : AssignmentRule
  insertion : InsertionRule
  indent : IndentStyle
  deriving DecidableEq, Repr, Inhabited

namespace Strategy

def standard : Strategy := ⟨.underscoreAware, .firstMember, .flat⟩

def legacy : Strategy := ⟨.alwaysThis, .firstMember, .nested⟩

/-- The preset of that name. -/
def ofVariant (name : String) : Except SettingsError Strategy :=
  if name = "standard" then .ok standard
  else if name = "legacy" then .ok legacy
  else .error (.unknownVariant name)

end Strategy

end ConstructorAction.Settings
