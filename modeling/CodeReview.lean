import CodeReview.Act
import CodeReview.Command
import CodeReview.CommandLine.Grammar
import CodeReview.CommandLine.Program
import CodeReview.Config.Basic
import CodeReview.Config.Exclusion
import CodeReview.Config.Loading
import CodeReview.Config.Validation
import CodeReview.Console
import CodeReview.Disk
import CodeReview.Fault
import CodeReview.Finding
import CodeReview.Fix
import CodeReview.Glob
import CodeReview.History.Basic
import CodeReview.History.Export
import CodeReview.History.Review
import CodeReview.History.Timeline
import CodeReview.Json.Basic
import CodeReview.Json.Display
import CodeReview.Json.Reader
import CodeReview.Json.Writer
import CodeReview.Linter
import CodeReview.Main
import CodeReview.Metrics.Count
import CodeReview.Metrics.Quality
import CodeReview.Metrics.Report
import CodeReview.Notice
import CodeReview.Number.Amount
import CodeReview.Number.Decimal
import CodeReview.Number.Double
import CodeReview.Number.Integer
import CodeReview.Number.Logarithm
import CodeReview.Number.Power
import CodeReview.Number.Shortest
import CodeReview.Path
import CodeReview.Pattern.Basic
import CodeReview.Pattern.Reader
import CodeReview.Pattern.Search
import CodeReview.Proofs.Act
import CodeReview.Proofs.Config.Exclusion
import CodeReview.Proofs.Config.Independence
import CodeReview.Proofs.Config.Keys
import CodeReview.Proofs.Config.Loading
import CodeReview.Proofs.Config.Names
import CodeReview.Proofs.Config.Revalidation
import CodeReview.Proofs.Config.Spelling
import CodeReview.Proofs.Config.Usable
import CodeReview.Proofs.Config.Validation
import CodeReview.Proofs.Disk.Frame
import CodeReview.Proofs.Disk.Reordering
import CodeReview.Proofs.Disk.Tree
import CodeReview.Proofs.Disk.Walk
import CodeReview.Proofs.Disk.Writing
import CodeReview.Proofs.Distinct
import CodeReview.Proofs.Fix
import CodeReview.Proofs.Fix.Ending
import CodeReview.Proofs.Fix.Lines
import CodeReview.Proofs.Fix.Naming
import CodeReview.Proofs.Fix.Rewriting
import CodeReview.Proofs.Fix.Rounds
import CodeReview.Proofs.Fix.Settling
import CodeReview.Proofs.Glob
import CodeReview.Proofs.History.Backends
import CodeReview.Proofs.History.Days
import CodeReview.Proofs.History.Exporting
import CodeReview.Proofs.History.Malformed
import CodeReview.Proofs.History.Operations
import CodeReview.Proofs.History.Order
import CodeReview.Proofs.History.Overlap
import CodeReview.Proofs.History.Persistence
import CodeReview.Proofs.History.Reading
import CodeReview.Proofs.History.Rereading
import CodeReview.Proofs.History.Retention
import CodeReview.Proofs.History.Run
import CodeReview.Proofs.History.Scoring
import CodeReview.Proofs.History.Sharing
import CodeReview.Proofs.History.Steps
import CodeReview.Proofs.History.Window
import CodeReview.Proofs.Json.Number
import CodeReview.Proofs.Json.Plain
import CodeReview.Proofs.Json.Quoted
import CodeReview.Proofs.Json.RoundTrip
import CodeReview.Proofs.Metrics.Arithmetic
import CodeReview.Proofs.Metrics.Averages
import CodeReview.Proofs.Metrics.Bounds
import CodeReview.Proofs.Metrics.Branches
import CodeReview.Proofs.Metrics.HalfUp
import CodeReview.Proofs.Metrics.Lines
import CodeReview.Proofs.Metrics.Mean
import CodeReview.Proofs.Metrics.Percent
import CodeReview.Proofs.Metrics.Scale
import CodeReview.Proofs.Metrics.Score
import CodeReview.Proofs.Metrics.Shares
import CodeReview.Proofs.Number.Digits
import CodeReview.Proofs.Number.Errors
import CodeReview.Proofs.Number.Rounding
import CodeReview.Proofs.Number.Shortest
import CodeReview.Proofs.Pattern.Counting
import CodeReview.Proofs.Pattern.Ends
import CodeReview.Proofs.Pattern.Finding
import CodeReview.Proofs.Pattern.Local
import CodeReview.Proofs.Pattern.Reading
import CodeReview.Proofs.Pattern.Refusal
import CodeReview.Proofs.Pattern.Width
import CodeReview.Proofs.Pattern.Within
import CodeReview.Proofs.Result
import CodeReview.Proofs.Rule.Analysis
import CodeReview.Proofs.Rule.Custom
import CodeReview.Proofs.Rule.Numbers
import CodeReview.Proofs.Rule.Places
import CodeReview.Proofs.Rule.Style
import CodeReview.Proofs.Scan.Admission
import CodeReview.Proofs.Scan.Batching
import CodeReview.Proofs.Scan.Discovery
import CodeReview.Proofs.Scan.Linting
import CodeReview.Proofs.Scan.Reordering
import CodeReview.Proofs.Scan.Repeating
import CodeReview.Proofs.Scan.Totals
import CodeReview.Proofs.Session.Answers
import CodeReview.Proofs.Session.Checkup
import CodeReview.Proofs.Session.Reviewing
import CodeReview.Proofs.Session.Setup
import CodeReview.Proofs.Session.Sparing
import CodeReview.Proofs.StableSort
import CodeReview.Proofs.Store.Documents
import CodeReview.Proofs.Store.Entries
import CodeReview.Proofs.Store.Faulty
import CodeReview.Proofs.Store.JsonFile
import CodeReview.Proofs.Store.Keeping
import CodeReview.Proofs.Store.PlainName
import CodeReview.Proofs.Text.CodePoint
import CodeReview.Proofs.Text.Csv
import CodeReview.Proofs.Text.Pieces
import CodeReview.Proofs.Text.Rows
import CodeReview.Proofs.Text.Runs
import CodeReview.Proofs.Text.Utf8
import CodeReview.Proofs.Text.Words
import CodeReview.Proofs.Time.Calendar
import CodeReview.Proofs.Time.DateOrder
import CodeReview.Proofs.Time.Notation
import CodeReview.Rule.Catalog
import CodeReview.Rule.Custom
import CodeReview.Rule.Detector
import CodeReview.Rule.Performance
import CodeReview.Rule.Security
import CodeReview.Rule.Style
import CodeReview.Scan.Discovery
import CodeReview.Scan.Files
import CodeReview.Scan.Result
import CodeReview.Scan.Scanner
import CodeReview.Scan.Workspace
import CodeReview.Session.Archive
import CodeReview.Session.Backend
import CodeReview.Session.Basic
import CodeReview.Session.Checkup
import CodeReview.Session.Dialogue
import CodeReview.Session.Project
import CodeReview.Session.Wizard
import CodeReview.Store.Basic
import CodeReview.Store.Gist
import CodeReview.Store.JsonFile
import CodeReview.Store.Memory
import CodeReview.Text.Base64
import CodeReview.Text.Blank
import CodeReview.Text.Case
import CodeReview.Text.CodePoint
import CodeReview.Text.Csv
import CodeReview.Text.Digit
import CodeReview.Text.Find
import CodeReview.Text.Identifier
import CodeReview.Text.Lines
import CodeReview.Text.Name
import CodeReview.Text.NameTable
import CodeReview.Text.Printable
import CodeReview.Text.Quoted
import CodeReview.Text.Similar
import CodeReview.Text.Utf8
import CodeReview.Text.Word
import CodeReview.Time.Calendar
import CodeReview.Time.Iso
import CodeReview.Time.Moment
import CodeReview.Usage
import CodeReview.Value
import CodeReview.Value.Display
import CodeReview.Yaml.BlockScalar
import CodeReview.Yaml.Cursor
import CodeReview.Yaml.Lexer
import CodeReview.Yaml.Node
import CodeReview.Yaml.Page
import CodeReview.Yaml.PlainScalar
import CodeReview.Yaml.Property
import CodeReview.Yaml.QuotedScalar
import CodeReview.Yaml.Reader
import CodeReview.Yaml.ScalarWriter
import CodeReview.Yaml.Tag
import CodeReview.Yaml.Timestamp
import CodeReview.Yaml.Writer
