import ConstructorAction.Action.Outcome
import ConstructorAction.Action.Provider
import ConstructorAction.Action.Request
import ConstructorAction.CommandLine.Arguments
import ConstructorAction.CommandLine.Report
import ConstructorAction.CommandLine.Response
import ConstructorAction.Decimal.Shortest
import ConstructorAction.Document.Buffer
import ConstructorAction.Document.Host
import ConstructorAction.Document.Position
import ConstructorAction.Error
import ConstructorAction.Files.Tree
import ConstructorAction.Layout.Formatter
import ConstructorAction.Layout.Indent
import ConstructorAction.Layout.LineEdits
import ConstructorAction.Layout.Scan
import ConstructorAction.Main
import ConstructorAction.Proofs.Action.Command
import ConstructorAction.Proofs.Action.Commit
import ConstructorAction.Proofs.Action.History
import ConstructorAction.Proofs.Action.Offer
import ConstructorAction.Proofs.Action.Order
import ConstructorAction.Proofs.Action.Reformat
import ConstructorAction.Proofs.Action.Reoffer
import ConstructorAction.Proofs.Action.Session
import ConstructorAction.Proofs.Action.Splice
import ConstructorAction.Proofs.CommandLine.Agreement
import ConstructorAction.Proofs.Document.Batch
import ConstructorAction.Proofs.Document.Embedding
import ConstructorAction.Proofs.Document.Indexed
import ConstructorAction.Proofs.Document.Insertion
import ConstructorAction.Proofs.Document.LineIndex
import ConstructorAction.Proofs.Document.Offset
import ConstructorAction.Proofs.Layout.Blocks
import ConstructorAction.Proofs.Layout.Declarations
import ConstructorAction.Proofs.Layout.Echo
import ConstructorAction.Proofs.Layout.Entered
import ConstructorAction.Proofs.Layout.Indent
import ConstructorAction.Proofs.Layout.LineEdits
import ConstructorAction.Proofs.Layout.Reindent
import ConstructorAction.Proofs.Layout.Scan
import ConstructorAction.Proofs.Layout.Strings
import ConstructorAction.Proofs.Layout.Tokens
import ConstructorAction.Proofs.Layout.Verbatim
import ConstructorAction.Proofs.Settings.Loading
import ConstructorAction.Proofs.Settings.Suggestion
import ConstructorAction.Proofs.Settings.Usable
import ConstructorAction.Proofs.Sorting
import ConstructorAction.Proofs.Source.Found
import ConstructorAction.Proofs.Source.Front
import ConstructorAction.Proofs.Source.LineRule
import ConstructorAction.Proofs.Source.MemberEnd
import ConstructorAction.Proofs.Source.MemberLine
import ConstructorAction.Proofs.Source.Moved
import ConstructorAction.Proofs.Source.Partition
import ConstructorAction.Proofs.Source.Scope
import ConstructorAction.Proofs.Source.Silent
import ConstructorAction.Proofs.Source.TypeLine
import ConstructorAction.Proofs.Synthesis.Declarable
import ConstructorAction.Proofs.Synthesis.FreshNames
import ConstructorAction.Proofs.Synthesis.Header
import ConstructorAction.Proofs.Synthesis.Lines
import ConstructorAction.Proofs.Synthesis.Meaning
import ConstructorAction.Proofs.Synthesis.Naming
import ConstructorAction.Proofs.Text.Blank
import ConstructorAction.Proofs.Text.Case
import ConstructorAction.Proofs.Text.EditDistance
import ConstructorAction.Proofs.Text.Rows
import ConstructorAction.Proofs.Text.Utf8
import ConstructorAction.Proofs.Wire.RoundTrip
import ConstructorAction.Proofs.Wire.Spelling
import ConstructorAction.Settings.Basic
import ConstructorAction.Settings.Loading
import ConstructorAction.Settings.Strategy
import ConstructorAction.Settings.Warning
import ConstructorAction.Source.Declaration
import ConstructorAction.Source.LineRule
import ConstructorAction.Source.Scope
import ConstructorAction.Synthesis.Constructor
import ConstructorAction.Synthesis.Naming
import ConstructorAction.Synthesis.Parameters
import ConstructorAction.Synthesis.Placement
import ConstructorAction.Text.Alphabetic
import ConstructorAction.Text.Blank
import ConstructorAction.Text.Case
import ConstructorAction.Text.CaseTable
import ConstructorAction.Text.CodeRanges
import ConstructorAction.Text.EditDistance
import ConstructorAction.Text.Invisible
import ConstructorAction.Text.Lines
import ConstructorAction.Text.Mark
import ConstructorAction.Text.Number
import ConstructorAction.Text.Numeral
import ConstructorAction.Text.Quoted
import ConstructorAction.Text.Utf8
import ConstructorAction.Text.Word
import ConstructorAction.Toml.Document
import ConstructorAction.Toml.Reader
import ConstructorAction.Toml.Value
import ConstructorAction.Tools.ByteText
import ConstructorAction.Tools.Copy
import ConstructorAction.Tools.Filter
import ConstructorAction.Tools.Filters
import ConstructorAction.Tools.Head
import ConstructorAction.Tools.LineSort
import ConstructorAction.Tools.LineSort.Key
import ConstructorAction.Tools.LineSort.Numeric
import ConstructorAction.Tools.LineSort.Order
import ConstructorAction.Tools.LineSort.Version
import ConstructorAction.Tools.Options
import ConstructorAction.Tools.Pattern
import ConstructorAction.Tools.Pattern.Notation
import ConstructorAction.Tools.Quotation
import ConstructorAction.Tools.Reverse
import ConstructorAction.Tools.Run
import ConstructorAction.Tools.Shell
import ConstructorAction.Tools.Shell.Arithmetic
import ConstructorAction.Tools.Shell.Builtin
import ConstructorAction.Tools.Shell.Condition
import ConstructorAction.Tools.Shell.Evaluation
import ConstructorAction.Tools.Shell.Fields
import ConstructorAction.Tools.Shell.Floating
import ConstructorAction.Tools.Shell.Formatted
import ConstructorAction.Tools.Shell.Globbing
import ConstructorAction.Tools.Shell.Grammar
import ConstructorAction.Tools.Shell.Matching
import ConstructorAction.Tools.Shell.Program
import ConstructorAction.Tools.Shell.Session
import ConstructorAction.Tools.Shell.Signal
import ConstructorAction.Tools.Shell.Token
import ConstructorAction.Tools.StreamEditor
import ConstructorAction.Tools.StreamEditor.Escape
import ConstructorAction.Tools.StreamEditor.Reader
import ConstructorAction.Tools.StreamEditor.Run
import ConstructorAction.Tools.StreamEditor.Script
import ConstructorAction.Tools.Toolbox
import ConstructorAction.Tools.Transliterate
import ConstructorAction.Tools.Transliterate.CharacterList
import ConstructorAction.Wire.Codec
import ConstructorAction.Wire.DecodeError
import ConstructorAction.Wire.Json
import ConstructorAction.Wire.JsonText
import ConstructorAction.Wire.Records
