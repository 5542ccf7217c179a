import CatalogFilter.Catalog
import CatalogFilter.CommandLine.Completion
import CatalogFilter.CommandLine.Help
import CatalogFilter.CommandLine.Invocation
import CatalogFilter.CommandLine.Level
import CatalogFilter.CommandLine.Parse
import CatalogFilter.Condition.Basic
import CatalogFilter.Condition.Check
import CatalogFilter.Condition.Parse
import CatalogFilter.Condition.Record
import CatalogFilter.Disk.Basic
import CatalogFilter.Disk.Path
import CatalogFilter.Filter.Basic
import CatalogFilter.Filter.Compile
import CatalogFilter.Json.Basic
import CatalogFilter.Json.FloatText
import CatalogFilter.Json.Mismatch
import CatalogFilter.Json.Printer
import CatalogFilter.Json.Quoted
import CatalogFilter.Json.Reader
import CatalogFilter.Json.Record
import CatalogFilter.Json.Scan
import CatalogFilter.Log.Directive
import CatalogFilter.Log.Event
import CatalogFilter.Log.Filter
import CatalogFilter.Log.Level
import CatalogFilter.Main
import CatalogFilter.Number.Binary64
import CatalogFilter.Number.Decimal
import CatalogFilter.Number.Hexadecimal
import CatalogFilter.Number.Numeral
import CatalogFilter.Number.Power
import CatalogFilter.Number.Shortest
import CatalogFilter.Operator
import CatalogFilter.Pattern.Basic
import CatalogFilter.Pattern.Check
import CatalogFilter.Pattern.Class
import CatalogFilter.Pattern.Escape
import CatalogFilter.Program.Action
import CatalogFilter.Program.Command
import CatalogFilter.Program.Events
import CatalogFilter.Program.Failure
import CatalogFilter.Program.Run
import CatalogFilter.Report.Style
import CatalogFilter.Report.Table
import CatalogFilter.Request
import CatalogFilter.RuleError
import CatalogFilter.RuleText
import CatalogFilter.Scalar
import CatalogFilter.Settings.Basic
import CatalogFilter.Settings.Read
import CatalogFilter.Settings.Store
import CatalogFilter.Text.Alphanumeric
import CatalogFilter.Text.Blank
import CatalogFilter.Text.Bytes
import CatalogFilter.Text.EditDistance
import CatalogFilter.Text.Layout
import CatalogFilter.Text.Lines
import CatalogFilter.Text.Lowercase
import CatalogFilter.Text.Ranges
import CatalogFilter.Text.Split
import CatalogFilter.Text.Visible
import CatalogFilter.Toml.Basic
import CatalogFilter.Toml.Document
import CatalogFilter.Toml.Literal
import CatalogFilter.Toml.Scan
import CatalogFilter.Vocabulary
import CatalogFilter.Proofs.Results
import CatalogFilter.Proofs.Condition.Accepted
import CatalogFilter.Proofs.Filter.Compiled
import CatalogFilter.Proofs.Filter.Meaning
import CatalogFilter.Proofs.Text.Trimming
import CatalogFilter.Proofs.Condition.Division
import CatalogFilter.Proofs.Condition.LeftmostLongest
import CatalogFilter.Proofs.Json.Words
import CatalogFilter.Proofs.Number.Rounding
import CatalogFilter.Proofs.Number.ShortestDigits
import CatalogFilter.Proofs.Json.FloatWords
import CatalogFilter.Proofs.Json.RoundTrip
import CatalogFilter.Proofs.Filter.QueryText
import CatalogFilter.Proofs.RuleText.RoundTrip
import CatalogFilter.Proofs.Json.Grammar
import CatalogFilter.Proofs.Json.Records
import CatalogFilter.Proofs.Condition.JsonText
import CatalogFilter.Proofs.Request.Body
import CatalogFilter.Proofs.CommandLine.Arguments
import CatalogFilter.Proofs.Program.Actions
import CatalogFilter.Proofs.Program.Routes
import CatalogFilter.Proofs.CommandLine.Written
import CatalogFilter.Proofs.CommandLine.Exclusion
import CatalogFilter.Proofs.Disk.Changes
import CatalogFilter.Proofs.Toml.Lines
import CatalogFilter.Proofs.Settings.RoundTrip
import CatalogFilter.Proofs.Settings.Changes
import CatalogFilter.Proofs.Program.Effects
import CatalogFilter.Proofs.Program.Session
import CatalogFilter.Proofs.Json.Documents
import CatalogFilter.Proofs.Program.Failures
import CatalogFilter.Proofs.Condition.Grammar
import CatalogFilter.Proofs.RuleText.Outcome
import CatalogFilter.Proofs.CommandLine.Accepted
import CatalogFilter.Proofs.Filter.Refused
import CatalogFilter.Proofs.Condition.Faults
import CatalogFilter.Proofs.Condition.Spacing
import CatalogFilter.Proofs.RuleText.Concatenation
import CatalogFilter.Proofs.Filter.Reordered
import CatalogFilter.Proofs.Number.LiteralScan
import CatalogFilter.Proofs.Filter.WholeNumbers
import CatalogFilter.Proofs.Catalog.Suggestions
import CatalogFilter.Proofs.Filter.Placements
import CatalogFilter.Proofs.Json.PrintedText
import CatalogFilter.Proofs.Report.Cells
import CatalogFilter.Proofs.Report.Decoration
import CatalogFilter.Proofs.Report.Columns
import CatalogFilter.Proofs.Report.Pages
