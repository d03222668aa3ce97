import ScriptComposer.Catalog
import ScriptComposer.Catalog.Builtin
import ScriptComposer.Catalog.Format
import ScriptComposer.Catalog.Search
import ScriptComposer.CommandLine.Options
import ScriptComposer.CommandLine.Run
import ScriptComposer.Debounce
import ScriptComposer.Decimal.Binary64
import ScriptComposer.Decimal.Shortest
import ScriptComposer.FileTree
import ScriptComposer.FileTree.Change
import ScriptComposer.FileTree.Path
import ScriptComposer.FileTree.Unfinished
import ScriptComposer.Json.Choice
import ScriptComposer.Json.Error
import ScriptComposer.Json.Format
import ScriptComposer.Json.Literal
import ScriptComposer.Json.Node
import ScriptComposer.Json.Numeral
import ScriptComposer.Json.Record
import ScriptComposer.Json.Token
import ScriptComposer.Json.Value
import ScriptComposer.Main
import ScriptComposer.Program
import ScriptComposer.Program.Edit
import ScriptComposer.Program.Sort
import ScriptComposer.Proofs.Program.Rearrange
import ScriptComposer.Proofs.Script.HeadLine
import ScriptComposer.Proofs.Script.Matching
import ScriptComposer.Proofs.Script.Plain
import ScriptComposer.Proofs.Script.Reading
import ScriptComposer.Proofs.Script.RoundTrip
import ScriptComposer.Proofs.Script.Rows
import ScriptComposer.Script.Argument
import ScriptComposer.Script.Blocks
import ScriptComposer.Script.Layout
import ScriptComposer.Script.Piece
import ScriptComposer.Script.Quotes
import ScriptComposer.Script.Report
import ScriptComposer.Session
import ScriptComposer.Statement
import ScriptComposer.Statement.Form
import ScriptComposer.Statement.Format
import ScriptComposer.Statement.Patch
import ScriptComposer.Storage
import ScriptComposer.Text.Blank
import ScriptComposer.Text.Case
import ScriptComposer.Text.Case.Table
import ScriptComposer.Text.Class
import ScriptComposer.Text.Decimal
import ScriptComposer.Text.Lines
import ScriptComposer.Text.Order
import ScriptComposer.Text.Search
import ScriptComposer.Text.Visible
import ScriptComposer.Text.Visible.Table
import ScriptComposer.Text.Word
import ScriptComposer.Proofs.Program.Change
import ScriptComposer.Proofs.Program.Fresh
import ScriptComposer.Proofs.Session.Cache
import ScriptComposer.Proofs.Session.Report
import ScriptComposer.Proofs.Program.Version
import ScriptComposer.Proofs.Script.ProgramText
import ScriptComposer.Proofs.Script.CallLine
import ScriptComposer.Proofs.Json.Lawful
import ScriptComposer.Proofs.FileTree.Written
import ScriptComposer.Proofs.Statement.Lawful
import ScriptComposer.Proofs.Storage.Reload
import ScriptComposer.Proofs.Session.Separation
import ScriptComposer.Proofs.Program.Sections
import ScriptComposer.Proofs.FileTree.Proper
import ScriptComposer.Proofs.FileTree.Directories
import ScriptComposer.Proofs.FileTree.Unfinished
import ScriptComposer.Proofs.Storage.Export
import ScriptComposer.Proofs.CommandLine.Ending
import ScriptComposer.Proofs.CommandLine.Effects
import ScriptComposer.Proofs.CommandLine.Agreement
import ScriptComposer.Proofs.Program.Locality
import ScriptComposer.Proofs.Program.NormalForm
import ScriptComposer.Proofs.Script.Indentation
import ScriptComposer.Proofs.Script.Bracketing
import ScriptComposer.Proofs.Script.Renaming
import ScriptComposer.Proofs.Script.Indifference
import ScriptComposer.Proofs.Program.Sides
import ScriptComposer.Proofs.Program.Alphabetical
import ScriptComposer.Proofs.Program.Grouping
import ScriptComposer.Proofs.Script.ReadBack
import ScriptComposer.Proofs.Script.Argument
import ScriptComposer.Proofs.Program.Moves
import ScriptComposer.Proofs.Program.Patches
import ScriptComposer.Proofs.Catalog.Search
import ScriptComposer.Proofs.Json.Numeral
import ScriptComposer.Proofs.Json.Spelling
import ScriptComposer.Proofs.Json.Tree
import ScriptComposer.Proofs.Json.Slots
import ScriptComposer.Proofs.Json.Shape
import ScriptComposer.Proofs.Statement.Presentation
import ScriptComposer.Proofs.Text.Lowering
import ScriptComposer.Proofs.Catalog.Verbatim
import ScriptComposer.Proofs.Session.Deadline
import ScriptComposer.Proofs.Script.Quotation
import ScriptComposer.Proofs.FileTree.Paths
