import ConstructorAction.Action.Provider
import ConstructorAction.CommandLine.Arguments
import ConstructorAction.Files.Tree
import ConstructorAction.Wire.JsonText

namespace ConstructorAction.CommandLine

open ConstructorAction.Action ConstructorAction.Files ConstructorAction.Source
  ConstructorAction.Wire

/-!
What the program writes: results on the standard output, remarks and failures on the standard error.
-/

/-- The streams and the exit code that the program ends with. -/
structure Report where
  code : Nat := 0
  stdout : String := ""
  stderr : String := ""
  deriving DecidableEq, Repr, Inhabited

inductive Failure where
  | notRead (file : String) (reason : FileError)
  /-- The bytes of the file are not UTF-8. -/
  | notText (file : String)
  | notWritten (file : String) (reason : FileError)
  | nothingEncloses (target : Target)
  | refused (problem : ActionError)
  deriving Repr

def Failure.message : Failure → String
  | notRead file reason => s!"Could not read {file}: {reason.message}"
  | notText file => s!"Could not read {file}: stream did not contain valid UTF-8"
  | notWritten file reason => s!"Could not write {file}: {reason.message}"
  | nothingEncloses target => s!"No class or struct encloses {target.file}:{target.line}"
  | refused problem => problem.message

/-- A missing type is named by the place that the user gave. -/
def Failure.ofAction (target : Target) : ActionError → Failure
  | .noEnclosingType _ => nothingEncloses target
  | problem => refused problem

def Report.failure (failure : Failure) : Report :=
  { code := 1, stderr := failure.message ++ "\n" }

def Report.ofJson (value : Json) : Report :=
  { stdout := value.pretty ++ "\n" }

/-- Blanks that bring a text to a width. -/
def padding (width : Nat) (text : String) : String := "".pushn ' ' (width - text.length)

def rightAligned (width : Nat) (text : String) : String := padding width text ++ text

def leftAligned (width : Nat) (text : String) : String := text ++ padding width text

/-- A member in the table of members. -/
def memberRow (member : MemberDeclaration) : String :=
  "  " ++ rightAligned 5 (toString (member.line + 1)) ++ "  " ++ leftAligned 8 member.kind.name ++
    " " ++ leftAligned 30 member.declaredType ++ " " ++ member.name

/-- A type without members is a failure, but not in JSON. -/
def Report.members (json : Bool) (owner : TypeDeclaration) (members : List MemberDeclaration) :
    Report :=
  if json then .ofJson (.sorted (.object [("type", encode owner), ("members", encode members)]))
  else
    let title := s!"{owner.typeName} (line {owner.startLine + 1})\n"
    if members.isEmpty then
      { code := 1, stdout := title, stderr := "No fields or properties found\n" }
    else { stdout := title ++ String.join (members.map fun member => memberRow member ++ "\n") }

def Report.preview (json : Bool) (request : ConstructorRequest) (text : String) : Report :=
  if json then .ofJson (.sorted (.object [("request", encode request), ("text", encode text)]))
  else
    { stdout := text ++ "\n"
      stderr := s!"\nwould insert at line {request.insertionPosition.line + 1}\n" }

/-- The report on an insertion; `text` is the document, if it is printed instead of written. -/
def Report.applied (json : Bool) (outcome : Outcome) (text : Option String) : Report :=
  let printed := text.getD ""
  if json then { stdout := printed ++ outcome.toJson.pretty ++ "\n" }
  else
    { stdout := printed
      stderr := s!"Inserted {outcome.typeName}({outcome.members} members) at line " ++
        s!"{outcome.insertedAt.line + 1}\n" }

def programName : String := "ctorgen"

def versionText : String := s!"{programName} 0.3.1\n"

def helpText : String :=
  "Initialize a constructor from fields and properties\n\n" ++
  s!"Usage: {programName} [--json] <command>\n\n" ++
  "Commands:\n" ++
  "  members <file> --line <line>      list the members of the type around a line\n" ++
  "  preview <file> --line <line>      print the constructor that would be inserted\n" ++
  "  apply <file> --line <line>        insert the constructor and write the file back\n" ++
  "  completions <shell>               write completions for a shell\n\n" ++
  "Options of preview and apply:\n" ++
  "  --root <directory>                where the configuration file is\n" ++
  "  --variant <name>                  standard or legacy\n\n" ++
  "Options of apply:\n" ++
  "  --no-reformat                     leave the layout as it is\n" ++
  "  --formatter <command>             lay the text out by an external program\n" ++
  "  --dry-run                         print the result and leave the file as it is\n"

/-- A script that has a shell complete the names of the commands. -/
def completionText (shell : Shell) : String :=
  let names := Verb.names.map (·.1) ++ ["help"]
  let words := " ".intercalate names
  match shell with
  | .bash => s!"complete -W '{words}' {programName}\n"
  | .elvish => s!"set edit:completion:arg-completer[{programName}] = " ++
      "\x7b|@words| put " ++ words ++ " \x7d\n"
  | .fish => s!"complete -c {programName} -f -n __fish_use_subcommand -a '{words}'\n"
  | .powershell => s!"Register-ArgumentCompleter -Native -CommandName {programName} " ++
      "-ScriptBlock " ++
      "\x7b param($word) " ++ ", ".intercalate (names.map fun name => s!"'{name}'") ++
      " | Where-Object \x7b $_ -like \"$word*\" \x7d \x7d\n"
  | .zsh => s!"#compdef {programName}\ncompadd {words}\n"

def Report.usage (problem : UsageError) : Report :=
  { code := 2, stderr := s!"error: {problem.message}\n\n{helpText}" }

end ConstructorAction.CommandLine
