import ConstructorAction.Tools.ByteText

namespace ConstructorAction.Tools

/-!
Options in front of and among the operands of a program: letters behind one hyphen, which may be
run together, and names behind two, which may be shortened as long as they stay clear.
-/

/-- Whether an option is followed by a value. -/
inductive ValueRule where
  | never
  | optional
  | always
  deriving DecidableEq, Repr, Inhabited

/-- An option. A key of one character is also a letter behind one hyphen. -/
structure OptionForm where
  key : String
  names : List String := []
  value : ValueRule := .never
  deriving DecidableEq, Repr, Inhabited

/-- An option that was given, by its key. -/
structure GivenOption where
  key : String
  value : Option ByteText := none
  deriving DecidableEq, Repr, Inhabited

inductive OptionError where
  | unknownLetter (letter : Char)
  | letterWithoutValue (letter : Char)
  | unknownName (name : ByteText)
  | ambiguousName (name : ByteText) (candidates : List String)
  | unwantedValue (name : String)
  | nameWithoutValue (name : String)
  deriving DecidableEq, Repr

def OptionError.message : OptionError → ByteText
  | .unknownLetter letter => ofString "invalid option -- '" ++ [letter, '\'']
  | .letterWithoutValue letter =>
      ofString "option requires an argument -- '" ++ [letter, '\'']
  | .unknownName name => ofString "unrecognized option '--" ++ name ++ ['\'']
  | .ambiguousName name candidates =>
      ofString "option '--" ++ name ++ ofString "' is ambiguous; possibilities:" ++
        candidates.flatMap fun candidate => ofString s!" '--{candidate}'"
  | .unwantedValue name => ofString s!"option '--{name}' doesn't allow an argument"
  | .nameWithoutValue name => ofString s!"option '--{name}' requires an argument"

namespace OptionForm

def hasLetter (form : OptionForm) (letter : Char) : Bool := form.key.toList == [letter]

/-- The names that start with a text, each with its form. -/
def candidates (forms : List OptionForm) (start : ByteText) : List (String × OptionForm) :=
  forms.flatMap fun form =>
    (form.names.filter fun name => start.isPrefixOf name.toList).map (·, form)

/-- The option with a name: the name in full, or the start of names that all mean one option. -/
def named (forms : List OptionForm) (start : ByteText) : Except OptionError (String × OptionForm) :=
  let found := candidates forms start
  match found.find? fun candidate => candidate.1.toList == start with
  | some exact => .ok exact
  | none =>
      match found with
      | [] => .error (.unknownName start)
      | first :: later =>
          if later.all fun other => other.2 == first.2 then .ok first
          else .error (.ambiguousName start (found.map (·.1)))

/-- The letters of one argument. A value may follow a letter at once, or be the next argument, which
is then used up. -/
def readLetters (forms : List OptionForm) (next : Option ByteText) :
    ByteText → List GivenOption × Except OptionError Bool
  | [] => ([], .ok false)
  | letter :: rest =>
      match forms.find? (·.hasLetter letter) with
      | none => ([], .error (.unknownLetter letter))
      | some form =>
          match form.value, rest with
          | .never, rest =>
              let (given, used) := readLetters forms next rest
              (⟨form.key, none⟩ :: given, used)
          | .optional, [] => ([⟨form.key, none⟩], .ok false)
          | .always, [] =>
              match next with
              | none => ([], .error (.letterWithoutValue letter))
              | some value => ([⟨form.key, some value⟩], .ok true)
          | _, rest => ([⟨form.key, some rest⟩], .ok false)

/-- A name with or without `=` and a value. -/
def readName (forms : List OptionForm) (next : Option ByteText) (text : ByteText) :
    List GivenOption × Except OptionError Bool :=
  let start := text.takeWhile (· != '=')
  let attached := (text.drop start.length).tail?
  match named forms start with
  | .error (.ambiguousName _ candidates) => ([], .error (.ambiguousName text candidates))
  | .error _ => ([], .error (.unknownName text))
  | .ok (name, form) =>
      match form.value, attached, next with
      | .never, some _, _ => ([], .error (.unwantedValue name))
      | .always, none, none => ([], .error (.nameWithoutValue name))
      | .always, none, some value => ([⟨form.key, some value⟩], .ok true)
      | _, attached, _ => ([⟨form.key, attached⟩], .ok false)

end OptionForm

/-- Arguments taken apart. What is wrong with them comes after the options that were given before
it. -/
structure ReadArguments where
  given : List GivenOption := []
  operands : List ByteText := []
  problem : Option OptionError := none
  deriving DecidableEq, Repr, Inhabited

/-- Takes arguments apart into options and operands. Unless `mixed`, the first operand ends the
options. -/
def readArguments (forms : List OptionForm) (mixed : Bool) : List ByteText → ReadArguments
  | [] => {}
  | argument :: later =>
      let step := fun (given : List GivenOption) (read : ReadArguments) =>
        { read with given := given ++ read.given }
      match argument, later with
      | ['-', '-'], later => { operands := later }
      | '-' :: letter :: text, later =>
          let (given, used) :=
            if letter = '-' then OptionForm.readName forms later.head? text
            else OptionForm.readLetters forms later.head? (letter :: text)
          match used, later with
          | .error problem, _ => { given, problem := some problem }
          | .ok true, _ :: later => step given (readArguments forms mixed later)
          | .ok _, later => step given (readArguments forms mixed later)
      | operand, later =>
          if mixed then
            let read := readArguments forms mixed later
            { read with operands := operand :: read.operands }
          else { operands := operand :: later }

def hasOption (given : List GivenOption) (key : String) : Bool :=
  given.any fun option => option.key == key

def lastValue? (given : List GivenOption) (key : String) : Option ByteText :=
  (given.reverse.find? fun option => option.key == key).bind (·.value)

end ConstructorAction.Tools
