import Scripting.Assoc
import Scripting.Buffer
import Scripting.Data
import Scripting.Decimal.Layout
import Scripting.Decimal.Shortest
import Scripting.Diagnostic
import Scripting.Dialect.Canned
import Scripting.Dialect.Line
import Scripting.Dialect.Scripted
import Scripting.Dialect.Standard
import Scripting.EntryPoint
import Scripting.Environment
import Scripting.Event
import Scripting.Failure
import Scripting.Fingerprint
import Scripting.Flags
import Scripting.Host
import Scripting.Json.Cursor
import Scripting.Json.Lexeme
import Scripting.Json.Reader
import Scripting.Json.Writer
import Scripting.Language
import Scripting.Library.Catalog
import Scripting.Library.Colour
import Scripting.Library.Markup
import Scripting.Library.Native
import Scripting.Library.Space
import Scripting.Name
import Scripting.Registry
import Scripting.Script.Builtin
import Scripting.Script.Compile
import Scripting.Script.CompileFault
import Scripting.Script.Eval
import Scripting.Script.Fault
import Scripting.Script.Fold
import Scripting.Script.Identifier
import Scripting.Script.Import
import Scripting.Script.Known
import Scripting.Script.Lexer
import Scripting.Script.Machine
import Scripting.Script.Operator
import Scripting.Script.Parser
import Scripting.Script.Place
import Scripting.Script.Source
import Scripting.Script.Syntax
import Scripting.Script.Token
import Scripting.Script.Value
import Scripting.Settings
import Scripting.Settings.Reader
import Scripting.Subscription
import Scripting.Text.Ascii
import Scripting.Text.Blank
import Scripting.Text.Lowercase
import Scripting.Text.Property
import Scripting.Text.Quoted
import Scripting.Text.Split
import Scripting.Text.Utf8
import Scripting.TypePath
import Scripting.Proofs.Assoc
import Scripting.Proofs.Dialect.Alias
import Scripting.Proofs.Dialect.Answer
import Scripting.Proofs.Dialect.Declaration
import Scripting.Proofs.Dialect.Declared
import Scripting.Proofs.Dialect.Entered
import Scripting.Proofs.Dialect.Exports
import Scripting.Proofs.Dialect.Finished
import Scripting.Proofs.Dialect.Keyword
import Scripting.Proofs.Dialect.Linewise
import Scripting.Proofs.Dialect.Naming
import Scripting.Proofs.Dialect.Qualified
import Scripting.Proofs.Dialect.Recorded
import Scripting.Proofs.Dialect.Returned
import Scripting.Proofs.Dialect.Rows
import Scripting.Proofs.Dialect.Running
import Scripting.Proofs.Dialect.Source
import Scripting.Proofs.Dialect.Traced
import Scripting.Proofs.EntryPoint.Failure
import Scripting.Proofs.EntryPoint.Fallback
import Scripting.Proofs.EntryPoint.Scan
import Scripting.Proofs.EntryPoint.Spelling
import Scripting.Proofs.EntryPoint.Table
import Scripting.Proofs.Fingerprint.Stream
import Scripting.Proofs.Host.Current
import Scripting.Proofs.Host.Gathered
import Scripting.Proofs.Host.History
import Scripting.Proofs.Host.Notified
import Scripting.Proofs.Host.Replay
import Scripting.Proofs.Host.Running
import Scripting.Proofs.Host.Twin
import Scripting.Proofs.Json.Cursor
import Scripting.Proofs.Json.Grammar
import Scripting.Proofs.Json.Number
import Scripting.Proofs.Json.Passing
import Scripting.Proofs.Json.Text
import Scripting.Proofs.Library.Colour
import Scripting.Proofs.Library.Function
import Scripting.Proofs.Library.Markup
import Scripting.Proofs.Library.Path
import Scripting.Proofs.Library.Tree
import Scripting.Proofs.Name
import Scripting.Proofs.Script.Alike
import Scripting.Proofs.Script.Barred
import Scripting.Proofs.Script.Crossing
import Scripting.Proofs.Script.Identifier
import Scripting.Proofs.Script.Import
import Scripting.Proofs.Script.Imported
import Scripting.Proofs.Script.Level
import Scripting.Proofs.Script.Magnitude
import Scripting.Proofs.Script.Parameter
import Scripting.Proofs.Script.Reading
import Scripting.Proofs.Script.Reread
import Scripting.Proofs.Script.Same
import Scripting.Proofs.Script.Tokens
import Scripting.Proofs.Settings.Document
import Scripting.Proofs.Settings.Given
import Scripting.Proofs.Settings.Object
import Scripting.Proofs.Settings.Value
import Scripting.Proofs.Text.Lines
import Scripting.Proofs.Text.Lowercase
import Scripting.Proofs.Text.Pieces
import Scripting.Proofs.TypePath.Text
