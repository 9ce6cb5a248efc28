import GoldenSuite.Build.Basic
import GoldenSuite.Build.Error
import GoldenSuite.Build.Sources
import GoldenSuite.Case.Basic
import GoldenSuite.Case.Comparison
import GoldenSuite.Case.Discovery
import GoldenSuite.Case.Execution
import GoldenSuite.Child.Command
import GoldenSuite.Child.Deadline
import GoldenSuite.Child.Outcome
import GoldenSuite.Child.Status
import GoldenSuite.Child.Supervision
import GoldenSuite.CommandLine.Help
import GoldenSuite.CommandLine.Options
import GoldenSuite.CommandLine.Reading
import GoldenSuite.CommandLine.Run
import GoldenSuite.CommandLine.Snapshot
import GoldenSuite.Config.Basic
import GoldenSuite.Config.Error
import GoldenSuite.Config.Field
import GoldenSuite.Config.Reading
import GoldenSuite.Config.Validity
import GoldenSuite.Decimal.Rounded
import GoldenSuite.Decimal.Shortest
import GoldenSuite.Diagnostic
import GoldenSuite.Fault
import GoldenSuite.FileTree.Basic
import GoldenSuite.FileTree.Resolve
import GoldenSuite.Glob.Compiling
import GoldenSuite.Glob.Lexeme
import GoldenSuite.Glob.Matching
import GoldenSuite.Glob.Reading
import GoldenSuite.Glob.Token
import GoldenSuite.Journal
import GoldenSuite.Journal.Directive
import GoldenSuite.Journal.Expression
import GoldenSuite.Journal.Filter
import GoldenSuite.Json.Cursor
import GoldenSuite.Json.Number
import GoldenSuite.Json.Text
import GoldenSuite.Json.Value
import GoldenSuite.Main
import GoldenSuite.Path.Basic
import GoldenSuite.Proofs.Build.Collected
import GoldenSuite.Proofs.Build.Depth
import GoldenSuite.Proofs.Build.JavaSources
import GoldenSuite.Proofs.Build.Stages
import GoldenSuite.Proofs.Build.Walk
import GoldenSuite.Proofs.Case.Agreement
import GoldenSuite.Proofs.Case.Artifacts
import GoldenSuite.Proofs.Case.Cleaned
import GoldenSuite.Proofs.Case.Decision
import GoldenSuite.Proofs.Case.Discovered
import GoldenSuite.Proofs.Case.Entries
import GoldenSuite.Proofs.Case.Executed
import GoldenSuite.Proofs.Case.Input
import GoldenSuite.Proofs.Case.Inside
import GoldenSuite.Proofs.Case.Isolation
import GoldenSuite.Proofs.Case.Listing
import GoldenSuite.Proofs.Case.Mismatch
import GoldenSuite.Proofs.Case.Places
import GoldenSuite.Proofs.Case.Respelled
import GoldenSuite.Proofs.Case.Strictness
import GoldenSuite.Proofs.Child.Deadline
import GoldenSuite.Proofs.Child.Quoted
import GoldenSuite.Proofs.Child.Started
import GoldenSuite.Proofs.CommandLine.Channels
import GoldenSuite.Proofs.CommandLine.Precedence
import GoldenSuite.Proofs.Config.Acceptance
import GoldenSuite.Proofs.Config.Assigned
import GoldenSuite.Proofs.Config.Conditions
import GoldenSuite.Proofs.Config.Documents
import GoldenSuite.Proofs.Config.Spelled
import GoldenSuite.Proofs.Diagnostic.RunError
import GoldenSuite.Proofs.FileTree.Detours
import GoldenSuite.Proofs.FileTree.Laid
import GoldenSuite.Proofs.FileTree.Route
import GoldenSuite.Proofs.Glob.Language
import GoldenSuite.Proofs.Glob.Nesting
import GoldenSuite.Proofs.Json.Grammar
import GoldenSuite.Proofs.Json.Naturals
import GoldenSuite.Proofs.Json.Nested
import GoldenSuite.Proofs.Json.Quoted
import GoldenSuite.Proofs.Json.Readers
import GoldenSuite.Proofs.Json.Values
import GoldenSuite.Proofs.Path.Names
import GoldenSuite.Proofs.Path.Normal
import GoldenSuite.Proofs.Path.Order
import GoldenSuite.Proofs.Path.Spelling
import GoldenSuite.Proofs.Session.Effects
import GoldenSuite.Proofs.Suite.Calls
import GoldenSuite.Proofs.Suite.Commands
import GoldenSuite.Proofs.Suite.GoldenFiles
import GoldenSuite.Proofs.Suite.Green
import GoldenSuite.Proofs.Suite.Independence
import GoldenSuite.Proofs.Suite.Narration
import GoldenSuite.Proofs.Suite.Order
import GoldenSuite.Proofs.Suite.Repetition
import GoldenSuite.Proofs.Suite.StaleOutput
import GoldenSuite.Proofs.Suite.Strictness
import GoldenSuite.Proofs.Suite.Transcript
import GoldenSuite.Proofs.Suite.Trials
import GoldenSuite.Proofs.Suite.Warnings
import GoldenSuite.Proofs.Text.Bytewise
import GoldenSuite.Proofs.Text.Decoding
import GoldenSuite.Proofs.Text.Octets
import GoldenSuite.Proofs.Verdict.Wording
import GoldenSuite.Proofs.Workspace.Cleaning
import GoldenSuite.Proofs.Workspace.Endings
import GoldenSuite.Proofs.Workspace.Finding
import GoldenSuite.Proofs.Workspace.Growing
import GoldenSuite.Proofs.Workspace.Making
import GoldenSuite.Proofs.Workspace.Passing
import GoldenSuite.Proofs.Workspace.Seeing
import GoldenSuite.Proofs.Workspace.Shrinking
import GoldenSuite.Session
import GoldenSuite.Shell.Access
import GoldenSuite.Shell.Arithmetic
import GoldenSuite.Shell.Builtin
import GoldenSuite.Shell.Builtin.Basic
import GoldenSuite.Shell.Builtin.Directory
import GoldenSuite.Shell.Builtin.Input
import GoldenSuite.Shell.Builtin.Names
import GoldenSuite.Shell.Builtin.Parameters
import GoldenSuite.Shell.Builtin.Plain
import GoldenSuite.Shell.Builtin.Processes
import GoldenSuite.Shell.Condition
import GoldenSuite.Shell.Conversion
import GoldenSuite.Shell.Draft
import GoldenSuite.Shell.Evaluation
import GoldenSuite.Shell.Expansion
import GoldenSuite.Shell.Flags
import GoldenSuite.Shell.Grammar
import GoldenSuite.Shell.Heading
import GoldenSuite.Shell.Launcher
import GoldenSuite.Shell.Machine
import GoldenSuite.Shell.Mention
import GoldenSuite.Shell.PathPattern
import GoldenSuite.Shell.Pattern
import GoldenSuite.Shell.Printing
import GoldenSuite.Shell.Program
import GoldenSuite.Shell.Redirecting
import GoldenSuite.Shell.Scene
import GoldenSuite.Shell.Script
import GoldenSuite.Shell.Setting
import GoldenSuite.Shell.Signal
import GoldenSuite.Shell.Source
import GoldenSuite.Shell.Spawning
import GoldenSuite.Shell.Speech
import GoldenSuite.Shell.Token
import GoldenSuite.Shell.Transfer
import GoldenSuite.Shell.Utility
import GoldenSuite.Shell.Utility.Cat
import GoldenSuite.Shell.Utility.Cp
import GoldenSuite.Shell.Utility.Format
import GoldenSuite.Shell.Utility.Mkdir
import GoldenSuite.Shell.Utility.Plain
import GoldenSuite.Shell.Utility.Test
import GoldenSuite.Shell.Variables
import GoldenSuite.Shell.Waiting
import GoldenSuite.Shell.World
import GoldenSuite.Suite.Console
import GoldenSuite.Suite.Reporter
import GoldenSuite.Suite.Run
import GoldenSuite.Suite.Summary
import GoldenSuite.Suite.Toolchain
import GoldenSuite.Text.Blank
import GoldenSuite.Text.Octets
import GoldenSuite.Text.Plain
import GoldenSuite.Text.Quoted
import GoldenSuite.Text.Unprinted
import GoldenSuite.Text.Utf8
import GoldenSuite.Verdict
import GoldenSuite.Workspace.Basic
import GoldenSuite.Workspace.Change
