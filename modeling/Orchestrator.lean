import Orchestrator.Action
import Orchestrator.Bench
import Orchestrator.Boost.Build
import Orchestrator.Boost.Failure
import Orchestrator.Boost.Request
import Orchestrator.Boost.Step
import Orchestrator.Cause
import Orchestrator.Child.Drain
import Orchestrator.Child.Interpreter
import Orchestrator.Child.Launch
import Orchestrator.Child.Program
import Orchestrator.Child.Runner
import Orchestrator.Child.Signal
import Orchestrator.Cli
import Orchestrator.CommandLine
import Orchestrator.Config
import Orchestrator.Context
import Orchestrator.Desk
import Orchestrator.Example
import Orchestrator.Fault
import Orchestrator.FileSystem.Basic
import Orchestrator.FileSystem.Change
import Orchestrator.FileSystem.Query
import Orchestrator.FileSystem.Walk
import Orchestrator.Main
import Orchestrator.Matrix
import Orchestrator.Order
import Orchestrator.Outlet
import Orchestrator.Part
import Orchestrator.Path
import Orchestrator.Runner
import Orchestrator.Script.Device
import Orchestrator.Script.Machine
import Orchestrator.Script.Program
import Orchestrator.Script.Rules
import Orchestrator.Shell.Arithmetic
import Orchestrator.Shell.Builtin.Control
import Orchestrator.Shell.Builtin.Directory
import Orchestrator.Shell.Builtin.Process
import Orchestrator.Shell.Builtin.Report
import Orchestrator.Shell.Builtin.Variable
import Orchestrator.Shell.Call
import Orchestrator.Shell.Condition
import Orchestrator.Shell.Cursor
import Orchestrator.Shell.Evaluation
import Orchestrator.Shell.Expansion
import Orchestrator.Shell.Expression
import Orchestrator.Shell.Field
import Orchestrator.Shell.Format
import Orchestrator.Shell.Lexeme
import Orchestrator.Shell.Lookup
import Orchestrator.Shell.Means
import Orchestrator.Shell.Number
import Orchestrator.Shell.Options
import Orchestrator.Shell.Output
import Orchestrator.Shell.Pattern
import Orchestrator.Shell.Reader
import Orchestrator.Shell.Redirect
import Orchestrator.Shell.Session
import Orchestrator.Shell.State
import Orchestrator.Shell.Syntax
import Orchestrator.Shell.Variables
import Orchestrator.Sink
import Orchestrator.Stage
import Orchestrator.Text.Blank
import Orchestrator.Text.Digits
import Orchestrator.Text.Lines
import Orchestrator.Text.Search
import Orchestrator.Text.Utf8
import Orchestrator.Toolchain
import Orchestrator.Validate
import Orchestrator.Proofs.Boost.Marker
import Orchestrator.Proofs.Boost.Resume
import Orchestrator.Proofs.Boost.Retry
import Orchestrator.Proofs.Course
import Orchestrator.Proofs.Delivery
import Orchestrator.Proofs.Diary
import Orchestrator.Proofs.FailureLine
import Orchestrator.Proofs.Outputs
import Orchestrator.Proofs.Plan
import Orchestrator.Proofs.Transcript
import Orchestrator.Proofs.Child.Merge
import Orchestrator.Proofs.Boost.Shape
import Orchestrator.Proofs.LineStarts
import Orchestrator.Proofs.Verdict
import Orchestrator.Proofs.Cutoff
import Orchestrator.Proofs.Boost.Changes
import Orchestrator.Proofs.Boost.Places
import Orchestrator.Proofs.Discovery
import Orchestrator.Proofs.Text.Decoding
import Orchestrator.Proofs.Selection
import Orchestrator.Proofs.Child.Decoding
import Orchestrator.Proofs.Validation
import Orchestrator.Proofs.Child.Endings
import Orchestrator.Proofs.Spelling
import Orchestrator.Proofs.Child.Variables
import Orchestrator.Proofs.Boost.Versions
import Orchestrator.Proofs.Boost.Progress
