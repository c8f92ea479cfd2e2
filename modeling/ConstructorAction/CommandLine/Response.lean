import ConstructorAction.CommandLine.Report
import ConstructorAction.Settings.Loading
import ConstructorAction.Tools.Toolbox

namespace ConstructorAction.CommandLine

open ConstructorAction.Action ConstructorAction.Document ConstructorAction.Files
  ConstructorAction.Layout ConstructorAction.Settings ConstructorAction.Source
  ConstructorAction.Synthesis ConstructorAction.Tools

/-!
The tasks of the program, as functions of the files and programs around it. A task reads, and says
what is to be written; the only file that may change is the source file, and only when everything
else has gone well.
-/

/-- The files and programs that a task can make use of. -/
structure Surroundings where
  read : FileReader
  launch : Launcher

/-- The lines of a document are counted from zero. -/
def Target.cursor (target : Target) : Position := ⟨max target.line 1 - 1, 0⟩

/-- The directory that a path lies in: the path without its last part, and the current directory if
there is none. -/
def directoryOf (path : String) : String :=
  let absolute := path.toList.head? = some '/'
  let parts := match Tree.parts path with
    | "." :: later => "." :: later.filter (· ≠ ".")
    | parts => parts.filter (· ≠ ".")
  let parts := parts.filter (· ≠ "")
  if parts.isEmpty then "."
  else (if absolute then "/" else "") ++ "/".intercalate parts.dropLast

/-- The path of a file in a directory. -/
def pathIn (directory file : String) : String :=
  if directory.isEmpty || directory.toList.getLast? = some '/' then directory ++ file
  else directory ++ "/" ++ file

def settingsPath (target : Target) (source : SettingsSource) : String :=
  pathIn (source.root.getD (directoryOf target.file)) fileName

/-- The settings for a task: a preset in the arguments replaces all three choices of the file. -/
def settingsFor (around : Surroundings) (target : Target) (source : SettingsSource) :
    Except Failure Settings :=
  let settings := (load (around.read (settingsPath target source))).settings
  match source.variant with
  | none => .ok settings
  | some name =>
      match Strategy.ofVariant name with
      | .error problem => .error (.refused (.settings problem))
      | .ok strategy => .ok { settings with strategy }

def formatterFor (around : Surroundings) (settings : Settings) : Except Failure Formatter :=
  (Formatter.ofSettings around.launch settings).mapError fun problem => .refused (.settings problem)

/-- A workspace with the source file as its only document. -/
def openTarget (around : Surroundings) (target : Target) : Except Failure Workspace :=
  match around.read target.file with
  | .error reason => .error (.notRead target.file reason)
  | .ok bytes =>
      match Text.ofUtf8? bytes with
      | none => .error (.notText target.file)
      | some text => .ok (({} : Workspace).open target.file (String.ofList text))

/-- The type around a place, and its members in the order they are found. -/
def listMembers (around : Surroundings) (target : Target) :
    Except Failure (TypeDeclaration × List MemberDeclaration) := do
  let workspace ← openTarget around target
  match workspace.find? target.file with
  | none => .error (.refused (.unknownDocument target.file))
  | some buffer =>
      match enclosingType? buffer.lines target.cursor.line with
      | none => .error (.nothingEncloses target)
      | some owner => .ok (owner, members buffer.lines owner)

/-- The request at a place, and the constructor it asks for. The formatter is not run, but it must
be one that could be. -/
def previewConstructor (around : Surroundings) (target : Target) (source : SettingsSource) :
    Except Failure (ConstructorRequest × String) := do
  let settings ← settingsFor around target source
  let _ ← formatterFor around settings
  let workspace ← openTarget around target
  match prepare workspace settings target.file target.cursor with
  | .error problem => .error (.ofAction target problem)
  | .ok request =>
      .ok (request, constructorText settings request.owningType request.members)

/-- The settings with what the arguments of `apply` say. -/
def ApplyOptions.adjust (options : ApplyOptions) (settings : Settings) : Settings :=
  { settings with
    reformatAfterChange := settings.reformatAfterChange && !options.noReformat
    formatter := options.formatter.or settings.formatter }

/-- The document after a command; none if the command was not carried out. -/
def documentAfter (target : Target) : Except ActionError Outcome × Workspace → Option Buffer
  | (.error _, _) => none
  | (.ok _, workspace) => workspace.find? target.file

/-- The outcome of a command, and the text of the document after it. -/
def resultOf (target : Target) :
    Except ActionError Outcome × Workspace → Except Failure (Outcome × String)
  | (.error problem, _) => .error (.refused problem)
  | (.ok outcome, workspace) =>
      match workspace.find? target.file with
      | none => .error (.refused (.unknownDocument target.file))
      | some buffer => .ok (outcome, buffer.text)

/-- The files as the program that formats leaves them; none if it is not run. It is given the
document with the constructor in it. -/
def filesAfterFormatting (around : Surroundings) (target : Target) (source : SettingsSource)
    (options : ApplyOptions) : Option Tree := do
  let settings ← (settingsFor around target source).toOption
  let settings := options.adjust settings
  let command ← (FormatterCommand.parse (← settings.formatter)).toOption
  let workspace ← (openTarget around target).toOption
  let request ← (prepare workspace settings target.file target.cursor).toOption
  if settings.reformatAfterChange then
    let calm := { settings with reformatAfterChange := false }
    let inserted := execute workspace calm (.basic settings.tabSize) request.toCommand
    let buffer ← documentAfter target inserted
    let input := Text.toUtf8 (formatterInput buffer)
    let finished ← (around.launch command.program command.arguments input).toOption
    some finished.tree
  else none

/-- Carries out the command that is offered at a place; the text is that of the document after it.
-/
def applyConstructor (around : Surroundings) (target : Target) (source : SettingsSource)
    (options : ApplyOptions) : Except Failure (Outcome × String) := do
  let settings ← settingsFor around target source
  let settings := options.adjust settings
  let formatter ← formatterFor around settings
  let workspace ← openTarget around target
  match prepare workspace settings target.file target.cursor with
  | .error problem => .error (.ofAction target problem)
  | .ok request => resultOf target (execute workspace settings formatter request.toCommand)

/-- How the program ends. -/
structure Response where
  report : Report
  /-- A file that is written before the report, and its text. -/
  saved : Option (String × String) := none
  /-- The files as another program has left them, if one was run. -/
  tree : Option Tree := none
  deriving Repr, Inhabited

/-- The response to an invocation. -/
def respond (around : Surroundings) (invocation : Invocation) : Response :=
  match invocation.task with
  | .members target =>
      match listMembers around target with
      | .error failure => { report := .failure failure }
      | .ok (owner, members) => { report := .members invocation.json owner members }
  | .preview target source =>
      match previewConstructor around target source with
      | .error failure => { report := .failure failure }
      | .ok (request, text) => { report := .preview invocation.json request text }
  | .apply target source options =>
      let tree := filesAfterFormatting around target source options
      match applyConstructor around target source options with
      | .error failure => { report := .failure failure, tree }
      | .ok (outcome, text) =>
          if options.dryRun then { report := .applied invocation.json outcome (some text), tree }
          else
            { report := .applied invocation.json outcome none
              saved := some (target.file, text)
              tree }
  | .completions shell => { report := { stdout := completionText shell } }
  | .version => { report := { stdout := versionText } }
  | .help => { report := { stdout := helpText } }

/-- The files that an invocation reads in any case. -/
def Invocation.files (invocation : Invocation) : List String :=
  match invocation.task with
  | .members target => [target.file]
  | .preview target source | .apply target source _ => [settingsPath target source, target.file]
  | .completions _ | .version | .help => []

/-- The words of the command line of the formatter that an invocation uses: programs of the toolbox
read the files that they name. -/
def Invocation.formatterWords (read : FileReader) (invocation : Invocation) : List String :=
  match invocation.task with
  | .apply target source options =>
      let settings := options.adjust (load (read (settingsPath target source))).settings
      (Text.words (settings.formatter.getD "").toList).map String.ofList
  | _ => []

/-- The response to the arguments of the program. -/
def respondTo (around : Surroundings) (arguments : List String) : Response :=
  match Invocation.parse arguments with
  | .error problem => { report := .usage problem }
  | .ok invocation => respond around invocation

/-- What is reported in the end, and the files as they are then: a report that comes with a file is
only made if the file can be written. -/
def Response.carryOut (response : Response) (tree : Tree) : Report × Tree :=
  let tree := response.tree.getD tree
  match response.saved with
  | none => (response.report, tree)
  | some (file, text) =>
      match tree.write file (Text.toUtf8 text.toList) with
      | .error reason => (.failure (.notWritten file reason), tree)
      | .ok tree => (response.report, tree)

/-- Runs the program in a directory, with the programs of the toolbox around it. -/
def runIn (tree : Tree) (arguments : List String) : Report × Tree :=
  (respondTo ⟨tree.read, toolbox tree⟩ arguments).carryOut tree

end ConstructorAction.CommandLine
