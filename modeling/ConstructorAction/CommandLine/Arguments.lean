import ConstructorAction.Text.Numeral

namespace ConstructorAction.CommandLine

/-!
What the program is asked to do, and how that is read from its arguments. An option is given at most
once, its value is the rest of its word after `=` or the next word, and after `--` every word is an
operand. Whatever comes first decides: a word that does not fit, or a question for help.
-/

/-- A place in a source file. -/
structure Target where
  file : String
  /-- Counted from one; zero stands for the first line as well. -/
  line : Nat
  deriving DecidableEq, Repr, Inhabited

/-- Where settings come from. -/
structure SettingsSource where
  /-- The directory of the configuration file; by default the one of the source file. -/
  root : Option String := none
  /-- A preset that goes before what the configuration file says. -/
  variant : Option String := none
  deriving DecidableEq, Repr, Inhabited

/-- What `apply` does differently from its default. -/
structure ApplyOptions where
  noReformat : Bool := false
  formatter : Option String := none
  dryRun : Bool := false
  deriving DecidableEq, Repr, Inhabited

/-- A command interpreter that completions can be written for. -/
inductive Shell where
  | bash
  | elvish
  | fish
  | powershell
  | zsh
  deriving DecidableEq, Repr, Inhabited

def Shell.names : List (String × Shell) :=
  [("bash", .bash), ("elvish", .elvish), ("fish", .fish), ("powershell", .powershell),
    ("zsh", .zsh)]

inductive Task where
  | members (target : Target)
  | preview (target : Target) (source : SettingsSource)
  | apply (target : Target) (source : SettingsSource) (options : ApplyOptions)
  | completions (shell : Shell)
  | version
  | help
  deriving DecidableEq, Repr, Inhabited

structure Invocation where
  task : Task
  /-- Whether results are wanted as JSON. -/
  json : Bool := false
  deriving DecidableEq, Repr, Inhabited

/-- Why arguments are not accepted. -/
inductive UsageError where
  | missingCommand
  | unexpected (word : String)
  | repeated (name : String)
  | missingValue (name : String)
  | unneededValue (name : String)
  | invalidValue (name value : String)
  | missing (name : String)
  deriving DecidableEq, Repr

def UsageError.message : UsageError → String
  | missingCommand => "a command is required"
  | unexpected word => s!"unexpected argument '{word}'"
  | repeated name => s!"the argument '{name}' cannot be used multiple times"
  | missingValue name => s!"a value is required for '{name}'"
  | unneededValue name => s!"the argument '{name}' takes no value"
  | invalidValue name value => s!"invalid value '{value}' for '{name}'"
  | missing name => s!"the argument '{name}' is required"

inductive Word where
  | separator
  | long (name : String) (value : Option String)
  | short (first : Char)
  | operand
  deriving DecidableEq, Repr

/-- A single hyphen is an operand. -/
def Word.ofString (text : String) : Word :=
  match text.toList with
  | ['-', '-'] => separator
  | '-' :: '-' :: rest =>
      let name := rest.takeWhile (· != '=')
      match rest.drop name.length with
      | _ :: value => long (String.ofList name) (some (String.ofList value))
      | [] => long (String.ofList name) none
  | '-' :: c :: _ => short c
  | _ => operand

inductive OptionName where
  | json
  | line
  | root
  | variant
  | noReformat
  | formatter
  | dryRun
  deriving DecidableEq, Repr, Inhabited

namespace OptionName

def name : OptionName → String
  | json => "json"
  | line => "line"
  | root => "root"
  | variant => "variant"
  | noReformat => "no-reformat"
  | formatter => "formatter"
  | dryRun => "dry-run"

def takesValue : OptionName → Bool
  | line | root | variant | formatter => true
  | json | noReformat | dryRun => false

end OptionName

/-- The commands that take arguments of their own. -/
inductive Verb where
  | members
  | preview
  | apply
  | completions
  deriving DecidableEq, Repr, Inhabited

namespace Verb

def names : List (String × Verb) :=
  [("members", members), ("preview", preview), ("apply", apply), ("completions", completions)]

def options : Verb → List OptionName
  | members => [.json, .line]
  | preview => [.json, .line, .root, .variant]
  | apply => [.json, .line, .root, .variant, .noReformat, .formatter, .dryRun]
  | completions => [.json]

def option? (verb : Verb) (name : String) : Option OptionName :=
  verb.options.find? fun option => option.name = name

end Verb

/-- What the arguments of a command said so far. -/
structure Draft where
  flags : List OptionName := []
  file : Option String := none
  line : Option Nat := none
  root : Option String := none
  variant : Option String := none
  formatter : Option String := none
  shell : Option Shell := none
  deriving DecidableEq, Repr, Inhabited

/-- A decimal number below `2 ^ 64`, which may have a plus sign. -/
def number? (text : String) : Option Nat :=
  let digits := match text.toList with
    | '+' :: digits => digits
    | digits => digits
  (Text.numeral? digits).filter fun value => value < Text.wordLimit

namespace Draft

/-- Puts a value in a place that must still be empty. -/
def fill (name : String) (place : Option α) (value : α) (put : Option α → Draft) :
    Except UsageError Draft :=
  if place.isSome then .error (.repeated name) else .ok (put (some value))

def raise (draft : Draft) (option : OptionName) : Except UsageError Draft :=
  if draft.flags.contains option then .error (.repeated option.name)
  else .ok { draft with flags := option :: draft.flags }

/-- Takes the value of an option. A directory has a name. -/
def assign (draft : Draft) (option : OptionName) (value : String) : Except UsageError Draft :=
  match option with
  | .line =>
      match number? value with
      | none => .error (.invalidValue option.name value)
      | some line => fill option.name draft.line line fun place => { draft with line := place }
  | .root =>
      if value.isEmpty then .error (.missingValue option.name)
      else fill option.name draft.root value fun place => { draft with root := place }
  | .variant => fill option.name draft.variant value fun place => { draft with variant := place }
  | .formatter =>
      fill option.name draft.formatter value fun place => { draft with formatter := place }
  | .json | .noReformat | .dryRun => .error (.unneededValue option.name)

/-- Takes an operand, of which every command has one. -/
def operand (draft : Draft) (verb : Verb) (word : String) : Except UsageError Draft :=
  match verb with
  | .completions =>
      if draft.shell.isSome then .error (.unexpected word)
      else
        match Shell.names.lookup word with
        | none => .error (.invalidValue "shell" word)
        | some shell => .ok { draft with shell := some shell }
  | _ =>
      if draft.file.isSome then .error (.unexpected word)
      else if word.isEmpty then .error (.missingValue "file")
      else .ok { draft with file := some word }

/-- Words after `--`. -/
def operands (draft : Draft) (verb : Verb) : List String → Except UsageError Draft
  | [] => .ok draft
  | word :: later =>
      match draft.operand verb word with
      | .error problem => .error problem
      | .ok draft => draft.operands verb later

/-- Reads the words after a command; there is no draft if they ask for help. -/
def read (draft : Draft) (verb : Verb) : List String → Except UsageError (Option Draft)
  | [] => .ok (some draft)
  | word :: later =>
      match Word.ofString word with
      | .separator => (draft.operands verb later).map some
      | .operand => draft.operand verb word >>= fun draft => draft.read verb later
      | .short first => if first = 'h' then .ok none else .error (.unexpected word)
      | .long name value =>
          match verb.option? name with
          | none =>
              if name = "help" then
                if value.isSome then .error (.unneededValue name) else .ok none
              else .error (.unexpected word)
          | some option =>
              if option.takesValue then
                match value with
                | some value => draft.assign option value >>= fun draft => draft.read verb later
                | none =>
                    match later with
                    | [] => .error (.missingValue name)
                    | value :: later =>
                        if Word.ofString value = .operand then
                          draft.assign option value >>= fun draft => draft.read verb later
                        else .error (.missingValue name)
              else if value.isSome then .error (.unneededValue name)
              else draft.raise option >>= fun draft => draft.read verb later

def target (draft : Draft) : Except UsageError Target :=
  match draft.file, draft.line with
  | none, _ => .error (.missing "file")
  | _, none => .error (.missing "line")
  | some file, some line => .ok ⟨file, line⟩

/-- The task that a complete draft stands for. -/
def task (draft : Draft) : Verb → Except UsageError Task
  | .members => draft.target.map .members
  | .preview => draft.target.map fun target => .preview target ⟨draft.root, draft.variant⟩
  | .apply => draft.target.map fun target =>
      .apply target ⟨draft.root, draft.variant⟩
        ⟨draft.flags.contains .noReformat, draft.formatter, draft.flags.contains .dryRun⟩
  | .completions =>
      match draft.shell with
      | none => .error (.missing "shell")
      | some shell => .ok (.completions shell)

end Draft

/-- The question for help on a command. -/
def helpOn : List String → Except UsageError Invocation
  | [] => .ok { task := .help }
  | [topic] =>
      if topic = "help" || (Verb.names.lookup topic).isSome then .ok { task := .help }
      else .error (.unexpected topic)
  | _ :: topic :: _ => .error (.unexpected topic)

/-- Reads the words of a command line. The wish for JSON may stand before the command as well as
behind it. -/
def Invocation.parse (words : List String) : Except UsageError Invocation :=
  go false words
where
  go (json : Bool) : List String → Except UsageError Invocation
    | [] => .error .missingCommand
    | word :: later =>
        if word = "help" then helpOn later
        else
          match Verb.names.lookup word with
          | some verb =>
              match ({} : Draft).read verb later with
              | .error problem => .error problem
              | .ok none => .ok { task := .help }
              | .ok (some draft) =>
                  (draft.task verb).map fun task => ⟨task, json || draft.flags.contains .json⟩
          | none =>
              match Word.ofString word with
              | .long "json" none => if json then .error (.repeated "json") else go true later
              | .long "help" none | .short 'h' => .ok { task := .help }
              | .long "version" none | .short 'V' => .ok { task := .version }
              | _ => .error (.unexpected word)

end ConstructorAction.CommandLine
