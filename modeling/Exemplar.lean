import Exemplar.Text.Basic
import Exemplar.Text.Search
import Exemplar.Text.Lines
import Exemplar.Text.Blank
import Exemplar.Text.Utf8
import Exemplar.Text.Case
import Exemplar.Number.Power
import Exemplar.Number.Binary64
import Exemplar.Number.Literal
import Exemplar.Number.Duration
import Exemplar.Log
import Exemplar.Comment.Rule
import Exemplar.Comment.Scan
import Exemplar.Comment.Block
import Exemplar.Prompt.Basic
import Exemplar.Prompt.Table
import Exemplar.Example.Options
import Exemplar.Example.Basic
import Exemplar.Example.Reader
import Exemplar.Expected.Tag
import Exemplar.Expected.Normal
import Exemplar.Expected.Pattern
import Exemplar.Expected.Match
import Exemplar.Diff.Edit
import Exemplar.Diff.Myers
import Exemplar.Diff.Compact
import Exemplar.Diff.Listing
import Exemplar.Files.Path
import Exemplar.Files.Tree
import Exemplar.Files.Discovery
import Exemplar.Harvest
import Exemplar.Session.Basic
import Exemplar.Session.Spec
import Exemplar.Session.Frame
import Exemplar.Session.Live
import Exemplar.Text.Unprintable
import Exemplar.Text.Quoted
import Exemplar.Session.Registry
import Exemplar.Session.Scripted
import Exemplar.Execution.State
import Exemplar.Execution.Outcome
import Exemplar.Execution.Language
import Exemplar.Execution.Run
import Exemplar.Execution.Crew
import Exemplar.Report.Summary
import Exemplar.Report.Render
import Exemplar.Pool
import Exemplar.CommandLine.Grammar
import Exemplar.CommandLine.Config
import Exemplar.Check
import Exemplar.CommandLine.Invocation
import Exemplar.Shell.Syntax
import Exemplar.Shell.Reader
import Exemplar.Shell.Grammar
import Exemplar.Shell.Arithmetic
import Exemplar.Shell.Glob
import Exemplar.Shell.Regex
import Exemplar.Shell.Format
import Exemplar.Files.Layout
import Exemplar.Shell.Setting
import Exemplar.Shell.Machine
import Exemplar.Shell.Field
import Exemplar.Shell.Expansion
import Exemplar.Shell.Builtin.Options
import Exemplar.Shell.Builtin.Variables
import Exemplar.Shell.Builtin.Directory
import Exemplar.Shell.Condition
import Exemplar.Shell.Builtin.Output
import Exemplar.Shell.Builtin.Signals
import Exemplar.Shell.Lookup
import Exemplar.Shell.Redirection
import Exemplar.Shell.Call
import Exemplar.Shell.Program.Basic
import Exemplar.Shell.Program.Batch
import Exemplar.Shell.Program.Script
import Exemplar.Shell.Program.Editing
import Exemplar.Shell.Program.Paths
import Exemplar.Shell.Program.Files
import Exemplar.Shell.Program.Reckoning
import Exemplar.Shell.Program.Lines
import Exemplar.Shell.Program.Searching
import Exemplar.Shell.Program.Columns
import Exemplar.Shell.Program.Sorting
import Exemplar.Shell.Program.System
import Exemplar.Shell.Program.Table
import Exemplar.Shell.Start
import Exemplar.Shell.Evaluation
import Exemplar.Shell.Running
import Exemplar.Main
import Exemplar.Proofs.Text.Occurrence
import Exemplar.Proofs.Expected.Segments
import Exemplar.Proofs.Expected.Filling
import Exemplar.Proofs.Expected.Matching
import Exemplar.Proofs.Expected.Mismatch
import Exemplar.Proofs.Text.Trimming
import Exemplar.Proofs.Text.Lines
import Exemplar.Proofs.Prompt.Opening
import Exemplar.Proofs.Example.Flags
import Exemplar.Proofs.Example.Blocks
import Exemplar.Proofs.Example.Segmentation
import Exemplar.Proofs.Example.RoundTrip
import Exemplar.Proofs.Text.Position
import Exemplar.Proofs.Comment.Opening
import Exemplar.Proofs.Comment.Reading
import Exemplar.Proofs.Comment.Suppression
import Exemplar.Proofs.Comment.Standing
import Exemplar.Proofs.Comment.Lines
import Exemplar.Proofs.Comment.Placement
import Exemplar.Proofs.Example.Position
import Exemplar.Proofs.Harvest.Position
import Exemplar.Proofs.Execution.Step
import Exemplar.Proofs.Execution.Ledger
import Exemplar.Proofs.Execution.Outcomes
import Exemplar.Proofs.Execution.Alternation
import Exemplar.Proofs.Execution.Beside
import Exemplar.Proofs.Execution.Isolation
import Exemplar.Proofs.Execution.Account
import Exemplar.Proofs.Execution.Protocol
import Exemplar.Proofs.Execution.FailFast
import Exemplar.Proofs.Execution.Absence
import Exemplar.Proofs.Text.Decoding
import Exemplar.Proofs.Session.Framing
import Exemplar.Proofs.Check.Schedule
import Exemplar.Proofs.Report.Severity
import Exemplar.Proofs.Check.Reporting
import Exemplar.Proofs.Check.Course
import Exemplar.Proofs.CommandLine.Configuration
import Exemplar.Proofs.CommandLine.ExitStatus
import Exemplar.Proofs.Prompt.Selection
import Exemplar.Proofs.Prompt.Ordering
import Exemplar.Proofs.Example.Selection
import Exemplar.Proofs.Example.Cutting
import Exemplar.Proofs.Example.Indentation
import Exemplar.Proofs.Comment.CommentedOut
import Exemplar.Proofs.Text.LineEnds
import Exemplar.Proofs.Example.LineEnds
import Exemplar.Proofs.Comment.LineEnds
import Exemplar.Proofs.Harvest.Layout
import Exemplar.Proofs.Harvest.Searching
import Exemplar.Proofs.Execution.Pasting
import Exemplar.Proofs.Execution.Clipboard
import Exemplar.Proofs.Execution.DataFlow
import Exemplar.Proofs.Expected.Rendering
import Exemplar.Proofs.Expected.Tags
import Exemplar.Proofs.Text.Words
import Exemplar.Proofs.Expected.NormalForm
import Exemplar.Proofs.Expected.Substitution
import Exemplar.Proofs.Expected.Rereading
import Exemplar.Proofs.Example.Layers
import Exemplar.Proofs.Diff.Spelling
import Exemplar.Proofs.Diff.Listing
import Exemplar.Proofs.Session.Prompts
import Exemplar.Proofs.Session.Token
import Exemplar.Proofs.Session.Stale
import Exemplar.Proofs.Session.Lifetime
import Exemplar.Proofs.Files.Walk
import Exemplar.Proofs.Files.Discovery
import Exemplar.Proofs.Number.Literal
import Exemplar.Proofs.Number.Rounding
import Exemplar.Proofs.CommandLine.TimeLimit
import Exemplar.Proofs.Comment.Progress
import Exemplar.Proofs.Shell.Session
