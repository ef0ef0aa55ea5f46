import AnalysisHarness.CommandLine.Arguments
import AnalysisHarness.CommandLine.Command
import AnalysisHarness.CommandLine.Execution
import AnalysisHarness.Config.Layers
import AnalysisHarness.Config.Settings
import AnalysisHarness.Date
import AnalysisHarness.Decimal.Binary64
import AnalysisHarness.Decimal.Layout
import AnalysisHarness.Decimal.Literal
import AnalysisHarness.Decimal.Shortest
import AnalysisHarness.Failure
import AnalysisHarness.Json.Form
import AnalysisHarness.Json.Number
import AnalysisHarness.Json.Printer
import AnalysisHarness.Json.Value
import AnalysisHarness.Log.LineClass
import AnalysisHarness.Log.Reading
import AnalysisHarness.Log.TaskUrl
import AnalysisHarness.Log.Verdict
import AnalysisHarness.Main
import AnalysisHarness.Measures.Check
import AnalysisHarness.Measures.Entries
import AnalysisHarness.Measures.Expectation
import AnalysisHarness.Measures.Measured
import AnalysisHarness.Path
import AnalysisHarness.Pattern
import AnalysisHarness.Pattern.Bracket
import AnalysisHarness.Pattern.Escape
import AnalysisHarness.Pattern.Flags
import AnalysisHarness.Pattern.Matching
import AnalysisHarness.Pattern.Node
import AnalysisHarness.Pattern.Reader
import AnalysisHarness.Proofs.Config.Address
import AnalysisHarness.Proofs.Config.Guarantees
import AnalysisHarness.Proofs.Config.Overlay
import AnalysisHarness.Proofs.Config.Paths
import AnalysisHarness.Proofs.Config.Precedence
import AnalysisHarness.Proofs.Config.Shadowing
import AnalysisHarness.Proofs.Date
import AnalysisHarness.Proofs.Decimal.Digits
import AnalysisHarness.Proofs.Decimal.Layout
import AnalysisHarness.Proofs.Decimal.Rounding
import AnalysisHarness.Proofs.Decimal.Shortest
import AnalysisHarness.Proofs.Journal
import AnalysisHarness.Proofs.Json.Grammar
import AnalysisHarness.Proofs.Json.Meaning
import AnalysisHarness.Proofs.Json.Number
import AnalysisHarness.Proofs.Json.Parts
import AnalysisHarness.Proofs.Json.Reading
import AnalysisHarness.Proofs.Json.Reprinting
import AnalysisHarness.Proofs.Json.RoundTrip
import AnalysisHarness.Proofs.Json.Scalar
import AnalysisHarness.Proofs.Json.Soundness
import AnalysisHarness.Proofs.Log.Announcement
import AnalysisHarness.Proofs.Log.LineEnds
import AnalysisHarness.Proofs.Log.Phrases
import AnalysisHarness.Proofs.Log.Scan
import AnalysisHarness.Proofs.Log.Suppression
import AnalysisHarness.Proofs.Log.Verdict
import AnalysisHarness.Proofs.Measures.Contradiction
import AnalysisHarness.Proofs.Measures.Entries
import AnalysisHarness.Proofs.Measures.Exactness
import AnalysisHarness.Proofs.Measures.Positions
import AnalysisHarness.Proofs.Measures.Responses
import AnalysisHarness.Proofs.Measures.Tokens
import AnalysisHarness.Proofs.Measures.Variation
import AnalysisHarness.Proofs.Outcome
import AnalysisHarness.Proofs.Path
import AnalysisHarness.Proofs.Pattern.Alternatives
import AnalysisHarness.Proofs.Pattern.Continuing.Basic
import AnalysisHarness.Proofs.Pattern.Continuing.Bracket
import AnalysisHarness.Proofs.Pattern.Continuing.Escape
import AnalysisHarness.Proofs.Pattern.Continuing.Expression
import AnalysisHarness.Proofs.Pattern.Holding
import AnalysisHarness.Proofs.Pattern.IgnoreText
import AnalysisHarness.Proofs.Pattern.Inside
import AnalysisHarness.Proofs.Pattern.Parts
import AnalysisHarness.Proofs.Pattern.Plain
import AnalysisHarness.Proofs.Pattern.Runs
import AnalysisHarness.Proofs.Pattern.Simulation
import AnalysisHarness.Proofs.Pattern.Spans
import AnalysisHarness.Proofs.Report.Agreement
import AnalysisHarness.Proofs.Report.Listing
import AnalysisHarness.Proofs.Report.Rendering
import AnalysisHarness.Proofs.Scenario.Checks
import AnalysisHarness.Proofs.Scenario.Counts
import AnalysisHarness.Proofs.Scenario.Start
import AnalysisHarness.Proofs.ServerLog.Daily
import AnalysisHarness.Proofs.ServerLog.Folder
import AnalysisHarness.Proofs.ServerLog.Following
import AnalysisHarness.Proofs.ServerLog.Growing
import AnalysisHarness.Proofs.ServerLog.Rereading
import AnalysisHarness.Proofs.Task.Announced
import AnalysisHarness.Proofs.Task.Documents
import AnalysisHarness.Proofs.Task.Duration
import AnalysisHarness.Proofs.Task.LastRound
import AnalysisHarness.Proofs.Task.LogsAddress
import AnalysisHarness.Proofs.Task.Polling
import AnalysisHarness.Proofs.Task.Storing
import AnalysisHarness.Proofs.Task.TimeLimit
import AnalysisHarness.Proofs.Text.ByteOrder
import AnalysisHarness.Proofs.Text.Decoding
import AnalysisHarness.Proofs.Text.Ends
import AnalysisHarness.Proofs.Text.Entries
import AnalysisHarness.Proofs.Text.Occurrences
import AnalysisHarness.Proofs.Text.Replacing
import AnalysisHarness.Proofs.Text.Splitting
import AnalysisHarness.Proofs.Toml.Integer
import AnalysisHarness.Proofs.Toml.Sorted
import AnalysisHarness.Proofs.Workspace.Append
import AnalysisHarness.Proofs.Workspace.Hollow
import AnalysisHarness.Proofs.Workspace.Removal
import AnalysisHarness.Proofs.Workspace.Routes
import AnalysisHarness.Proofs.Workspace.Write
import AnalysisHarness.Report.LogReport
import AnalysisHarness.Report.Palette
import AnalysisHarness.Scenario.Basic
import AnalysisHarness.Scenario.Run
import AnalysisHarness.Scenario.Step
import AnalysisHarness.ServerLog.Daily
import AnalysisHarness.ServerLog.Folder
import AnalysisHarness.ServerLog.Tail
import AnalysisHarness.Session
import AnalysisHarness.Shell.Arithmetic
import AnalysisHarness.Shell.Builtin
import AnalysisHarness.Shell.Edit
import AnalysisHarness.Shell.EditPattern
import AnalysisHarness.Shell.Field
import AnalysisHarness.Shell.Filter
import AnalysisHarness.Shell.Format
import AnalysisHarness.Shell.Frame
import AnalysisHarness.Shell.Naming
import AnalysisHarness.Shell.Print
import AnalysisHarness.Shell.Program
import AnalysisHarness.Shell.Run
import AnalysisHarness.Shell.Signal
import AnalysisHarness.Shell.State
import AnalysisHarness.Shell.Token
import AnalysisHarness.Shell.Utility
import AnalysisHarness.Task.Document
import AnalysisHarness.Task.Poll
import AnalysisHarness.Task.Status
import AnalysisHarness.Text.Blank
import AnalysisHarness.Text.Keyed
import AnalysisHarness.Text.Search
import AnalysisHarness.Text.Segments
import AnalysisHarness.Text.Utf8
import AnalysisHarness.Toml.Draft
import AnalysisHarness.Toml.Fields
import AnalysisHarness.Toml.Number
import AnalysisHarness.Toml.Printer
import AnalysisHarness.Toml.Quoted
import AnalysisHarness.Toml.Reader
import AnalysisHarness.Toml.Value
import AnalysisHarness.Unicode.Age
import AnalysisHarness.Unicode.BinaryProperty
import AnalysisHarness.Unicode.CaseOrbit
import AnalysisHarness.Unicode.Category
import AnalysisHarness.Unicode.CharClass
import AnalysisHarness.Unicode.CodeTable
import AnalysisHarness.Unicode.Printable
import AnalysisHarness.Unicode.Property
import AnalysisHarness.Unicode.Script
import AnalysisHarness.Unicode.ScriptExtension
import AnalysisHarness.Unicode.Segmentation
import AnalysisHarness.Url.Basic
import AnalysisHarness.Url.Escaping
import AnalysisHarness.Url.Host
import AnalysisHarness.Url.Punycode
import AnalysisHarness.Url.Reader
import AnalysisHarness.Url.Unanswered
import AnalysisHarness.Workspace.Basic
import AnalysisHarness.Workspace.Files
import AnalysisHarness.Workspace.Lookup
