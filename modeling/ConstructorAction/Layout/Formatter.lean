import ConstructorAction.Error
import ConstructorAction.Layout.Indent
import ConstructorAction.Layout.LineEdits
import ConstructorAction.Settings.Basic
import ConstructorAction.Text.Utf8

namespace ConstructorAction.Layout

open ConstructorAction.Document ConstructorAction.Settings ConstructorAction.Text
  ConstructorAction.Tools

/-!
Formatters of whole documents. A formatter proposes edits and applies none. The basic one indents by
braces; an external one sends the text through a program and compares the lines.
-/

structure Formatter where
  name : String
  edits : Buffer → Except ActionError (List TextEdit)

/-- Indents by braces, `tabSize` blanks a level. -/
def Formatter.basic (tabSize : Nat) : Formatter where
  name := "basic"
  edits buffer := .ok (lineEdits buffer.lines (indent tabSize buffer.lines))

/-- A program and its arguments. -/
structure FormatterCommand where
  program : String
  arguments : List String
  deriving DecidableEq, Repr

/-- The words of a command line, of which there must be one at least. -/
def FormatterCommand.parse (line : String) : Except SettingsError FormatterCommand :=
  match words line.toList with
  | [] => .error .emptyFormatterCommand
  | program :: arguments => .ok ⟨String.ofList program, arguments.map String.ofList⟩

/-- What a program is given to read: every line of the document, terminated by a line feed. -/
def formatterInput (buffer : Buffer) : List Char := joinLines buffer.lines ++ ['\n']

/-- The edits that a run of a program amounts to. Output of blanks alone is a failure. -/
def editsOfRun (program : String) (buffer : Buffer) (run : Except LaunchError Finished) :
    Except FormatterError (List TextEdit) :=
  match run with
  | .error reason => .error (.notStarted program reason)
  | .ok finished =>
      if finished.status.isSuccess then
        let output := ofUtf8Lossy finished.stdout
        if (trim output).isEmpty then .error (.noOutput program)
        else .ok (lineEdits buffer.lines (outputLines output))
      else
        .error (.exited program finished.status
          (String.ofList (trim (ofUtf8Lossy finished.stderr))))

/-- Sends the text of a document through a program. -/
def Formatter.external (launch : Launcher) (command : FormatterCommand) : Formatter where
  name := command.program
  edits buffer :=
    let run := launch command.program command.arguments (toUtf8 (formatterInput buffer))
    (editsOfRun command.program buffer run).mapError .formatter

/-- The formatter that the settings ask for. -/
def Formatter.ofSettings (launch : Launcher) (settings : Settings) :
    Except SettingsError Formatter :=
  match settings.formatter with
  | none => .ok (.basic settings.tabSize)
  | some line => (FormatterCommand.parse line).map (Formatter.external launch)

end ConstructorAction.Layout
