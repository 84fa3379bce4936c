import Recap.Budget
import Recap.Calendar
import Recap.Chat.Basic
import Recap.Chat.Json
import Recap.CommandLine.Arguments
import Recap.CommandLine.Report
import Recap.CommandLine.Run
import Recap.Compressor.Command
import Recap.Compressor.Prompt
import Recap.Compressor.StandIn
import Recap.Decimal.Binary
import Recap.Decimal.Rounding
import Recap.Programs.Precision
import Recap.Decimal.Shortest
import Recap.Decimal.Style
import Recap.Dialogue
import Recap.Disk.ChatName
import Recap.Disk.Error
import Recap.Disk.Host
import Recap.Disk.Project
import Recap.Disk.Records
import Recap.Engine.Config
import Recap.Engine.Host
import Recap.Engine.Memory
import Recap.Engine.Operations
import Recap.Engine.Pass
import Recap.Ids
import Recap.Injection
import Recap.Json.Document
import Recap.Json.Scalar
import Recap.Json.Token
import Recap.Json.Value
import Recap.Machine.Call
import Recap.Machine.FileTree
import Recap.Machine.Memory
import Recap.Machine.Memory.Basic
import Recap.Machine.Path
import Recap.Plan
import Recap.Proofs.Dialogue.Throughout
import Recap.Proofs.Engine.Backing
import Recap.Proofs.Engine.Chapter
import Recap.Proofs.Engine.Course
import Recap.Proofs.Engine.Coverage
import Recap.Proofs.Engine.FailedSave
import Recap.Proofs.Engine.OperationEffect
import Recap.Proofs.Engine.PassEffect
import Recap.Proofs.Engine.PassOutcome
import Recap.Proofs.Engine.Record
import Recap.Proofs.Engine.Reliable
import Recap.Proofs.Engine.Runs
import Recap.Proofs.Engine.WorkingSet
import Recap.Proofs.Engine.World
import Recap.Proofs.Plan.Chunks
import Recap.Proofs.Selection.Fit
import Recap.Proofs.Selection.Greedy
import Recap.Proofs.Selection.Order
import Recap.Proofs.Tag.PerSwipe
import Recap.Proofs.Tag.Store
import Recap.Proofs.Tag.Untracked
import Recap.Proofs.Text.Words
import Recap.Record.Fault
import Recap.Record.Node
import Recap.Record.Reader
import Recap.Selection
import Recap.Settings.Basic
import Recap.Settings.Toml
import Recap.Programs.Shell.Arithmetic
import Recap.Programs.Shell.Braces
import Recap.Programs.Shell.Builtin
import Recap.Programs.Shell.Command
import Recap.Programs.Shell.Condition
import Recap.Programs.Shell.Declare
import Recap.Programs.Shell.Evaluation
import Recap.Programs.Shell.Expansion
import Recap.Programs.Shell.Glob
import Recap.Programs.Shell.Process
import Recap.Programs.Shell.Quoting
import Recap.Programs.Shell.ReadLine
import Recap.Programs.Shell.Redirection
import Recap.Programs.Shell.Regex
import Recap.Programs.Shell.RegexText
import Recap.Programs.Shell.Run
import Recap.Programs.Shell.Script
import Recap.Programs.Shell.Session
import Recap.Programs.Shell.Signal
import Recap.Programs.Shell.Start
import Recap.Programs.Shell.Switch
import Recap.Programs.Shell.Token
import Recap.Programs.Shell.Value
import Recap.Programs.Shell.Variable
import Recap.SortedMap
import Recap.Storage.Basic
import Recap.Storage.Export
import Recap.Storage.Json
import Recap.Summary.Basic
import Recap.Summary.Json
import Recap.Tag.Basic
import Recap.Tag.Json
import Recap.Tag.Store
import Recap.Text.Alphanumeric
import Recap.Text.Words
import Recap.Programs.Named
import Recap.Text.Shown
import Recap.Text.Utf8
import Recap.Toml.Document
import Recap.Toml.Item
import Recap.Toml.Parser
import Recap.Toml.Printer
import Recap.Toml.Scalar
import Recap.Programs.Tool.Clock
import Recap.Programs.Tool.Columns
import Recap.Programs.Tool.Condition
import Recap.Programs.Tool.Copy
import Recap.Programs.Tool.Count
import Recap.Programs.Tool.Difference
import Recap.Programs.Tool.Digest
import Recap.Programs.Tool.Dump
import Recap.Programs.Tool.Echo
import Recap.Programs.Tool.Edit.Run
import Recap.Programs.Tool.Edit.Script
import Recap.Programs.Tool.Ends
import Recap.Programs.Tool.Environment
import Recap.Programs.Tool.Expression
import Recap.Programs.Tool.Factor
import Recap.Programs.Tool.Files
import Recap.Programs.Tool.Merge
import Recap.Programs.Tool.Name
import Recap.Programs.Tool.Number
import Recap.Programs.Tool.Options
import Recap.Programs.Tool.Order
import Recap.Programs.Tool.Paragraph
import Recap.Programs.Tool.Printing
import Recap.Programs.Tool.Repetition
import Recap.Programs.Tool.Rules.Run
import Recap.Programs.Tool.Rules.Script
import Recap.Programs.Tool.Rules.Value
import Recap.Programs.Tool.Rules.World
import Recap.Programs.Tool.Search
import Recap.Programs.Tool.Sequence
import Recap.Programs.Tool.Start
import Recap.Programs.Tool.Tabs
import Recap.Programs.Tool.Translate
import Recap.Programs.Tool.WordList
import Recap.Trigger
import Recap.Main
import Recap.Proofs.Dialogue.Stepwise
import Recap.Proofs.Engine.Stage
import Recap.Proofs.Engine.Log
import Recap.Proofs.Engine.Import
import Recap.Proofs.Dialogue.Interleaving
import Recap.Proofs.Engine.Lock
import Recap.Proofs.Engine.Exclusion
import Recap.Proofs.Engine.Settling
import Recap.Proofs.Decimal.Rounding
import Recap.Proofs.Decimal.Shortest
import Recap.Proofs.Json.Numeral
import Recap.Proofs.Json.Quoted
import Recap.Proofs.Json.Double
import Recap.Proofs.Json.DoubleRange
import Recap.Proofs.Json.Value
import Recap.Proofs.Record.Written
import Recap.Proofs.Record.RoundTrip
import Recap.Proofs.Storage.Export
import Recap.Proofs.Machine.FileTree
import Recap.Proofs.Machine.Memory
import Recap.Proofs.Disk.ChatName
import Recap.Proofs.Disk.Component
import Recap.Proofs.Disk.Records
import Recap.Proofs.Disk.Mirror
import Recap.Proofs.Disk.Summaries
import Recap.Proofs.Engine.LostUpdate
import Recap.Proofs.Engine.Profile
import Recap.Proofs.Engine.Scene
import Recap.Proofs.Engine.Slices
import Recap.Proofs.Engine.Frame
import Recap.Proofs.Engine.Prompt
import Recap.Proofs.Toml.Document
import Recap.Proofs.Settings.RoundTrip
import Recap.Proofs.Decimal.Bits
import Recap.Proofs.Decimal.ReadBack
import Recap.Proofs.Selection.Assembled
import Recap.Proofs.Tag.Counts
import Recap.Proofs.Tag.Changes
import Recap.Proofs.Dialogue.Relying
import Recap.Proofs.Engine.TagHistory
import Recap.Proofs.Engine.Progress
import Recap.Proofs.Dialogue.Alike
import Recap.Proofs.Engine.Statistics
import Recap.Proofs.Chat.Ids
import Recap.Proofs.Settings.Command
import Recap.Proofs.Compressor.StandIn
import Recap.Proofs.Engine.Unfailing
