import ModuleMapper.Artifact
import ModuleMapper.Bytes
import ModuleMapper.Child
import ModuleMapper.CommandLine
import ModuleMapper.Connection
import ModuleMapper.Digest
import ModuleMapper.Ending
import ModuleMapper.Failure
import ModuleMapper.FileSystem
import ModuleMapper.FileSystem.Change
import ModuleMapper.FileSystem.Content
import ModuleMapper.FileSystem.Tree
import ModuleMapper.Host
import ModuleMapper.Host.Environment
import ModuleMapper.Host.Fixture
import ModuleMapper.Host.Image
import ModuleMapper.Host.Process
import ModuleMapper.Host.Process.Channel
import ModuleMapper.Host.Shell.Arithmetic
import ModuleMapper.Host.Shell.Builtin.Arguments
import ModuleMapper.Host.Shell.Builtin.Control
import ModuleMapper.Host.Shell.Builtin.Directory
import ModuleMapper.Host.Shell.Builtin.Jobs
import ModuleMapper.Host.Shell.Builtin.Names
import ModuleMapper.Host.Shell.Builtin.Options
import ModuleMapper.Host.Shell.Builtin.Printing
import ModuleMapper.Host.Shell.Builtin.Reading
import ModuleMapper.Host.Shell.Builtin.Signals
import ModuleMapper.Host.Shell.Builtin.System
import ModuleMapper.Host.Shell.Builtin.Table
import ModuleMapper.Host.Shell.Builtin.Variables
import ModuleMapper.Host.Shell.Command
import ModuleMapper.Host.Shell.Condition
import ModuleMapper.Host.Shell.Execution
import ModuleMapper.Host.Shell.Expansion
import ModuleMapper.Host.Shell.External
import ModuleMapper.Host.Shell.Fields
import ModuleMapper.Host.Shell.Format
import ModuleMapper.Host.Shell.Grammar
import ModuleMapper.Host.Shell.Machine
import ModuleMapper.Host.Shell.Pattern
import ModuleMapper.Host.Shell.Redirection
import ModuleMapper.Host.Shell.Scanner
import ModuleMapper.Host.Shell.Session
import ModuleMapper.Host.Shell.Simple
import ModuleMapper.Host.Shell.Source
import ModuleMapper.Host.Shell.Start
import ModuleMapper.Host.Shell.Token
import ModuleMapper.Host.Signal
import ModuleMapper.Host.Text.Binary64
import ModuleMapper.Host.Text.Binary64.Figures
import ModuleMapper.Host.Text.Decimal
import ModuleMapper.Host.Text.Integer
import ModuleMapper.Host.Text.Safe
import ModuleMapper.Host.Utility.Catalogue
import ModuleMapper.Host.Utility.Columns
import ModuleMapper.Host.Utility.Files
import ModuleMapper.Host.Utility.Lines
import ModuleMapper.Host.Utility.Options
import ModuleMapper.Host.Utility.Values
import ModuleMapper.Invocation
import ModuleMapper.Main
import ModuleMapper.Path
import ModuleMapper.Program
import ModuleMapper.Program.Basic
import ModuleMapper.Proofs.Answering
import ModuleMapper.Proofs.Artifacts
import ModuleMapper.Proofs.Clients
import ModuleMapper.Proofs.ColdCache
import ModuleMapper.Proofs.CommandLines
import ModuleMapper.Proofs.Confinement
import ModuleMapper.Proofs.Conservation
import ModuleMapper.Proofs.Course
import ModuleMapper.Proofs.Cursors
import ModuleMapper.Proofs.Directories
import ModuleMapper.Proofs.Effects
import ModuleMapper.Proofs.Endings
import ModuleMapper.Proofs.Exchanges
import ModuleMapper.Proofs.Frame
import ModuleMapper.Proofs.Gate
import ModuleMapper.Proofs.Grammar
import ModuleMapper.Proofs.Grouping
import ModuleMapper.Proofs.History
import ModuleMapper.Proofs.Inheritance
import ModuleMapper.Proofs.Iterating
import ModuleMapper.Proofs.Keys
import ModuleMapper.Proofs.LineEnds
import ModuleMapper.Proofs.Lines
import ModuleMapper.Proofs.LocalFailures
import ModuleMapper.Proofs.Locations
import ModuleMapper.Proofs.Lockstep
import ModuleMapper.Proofs.Names
import ModuleMapper.Proofs.PlainLines
import ModuleMapper.Proofs.Poisoning
import ModuleMapper.Proofs.Presence
import ModuleMapper.Proofs.Quoting
import ModuleMapper.Proofs.Reading
import ModuleMapper.Proofs.Rebuilding
import ModuleMapper.Proofs.Renderings
import ModuleMapper.Proofs.Repetition
import ModuleMapper.Proofs.Replies
import ModuleMapper.Proofs.Resolution
import ModuleMapper.Proofs.RoundTrip
import ModuleMapper.Proofs.Rounds
import ModuleMapper.Proofs.Scanning
import ModuleMapper.Proofs.SelfDelimiting
import ModuleMapper.Proofs.Settling
import ModuleMapper.Proofs.ShortWrites
import ModuleMapper.Proofs.Showing
import ModuleMapper.Proofs.Sinks
import ModuleMapper.Proofs.Sources
import ModuleMapper.Proofs.Stability
import ModuleMapper.Proofs.Terminal
import ModuleMapper.Proofs.Texts
import ModuleMapper.Proofs.TokenGrammar
import ModuleMapper.Proofs.Trees
import ModuleMapper.Proofs.WholeReplies
import ModuleMapper.Proofs.Writing
import ModuleMapper.Repository
import ModuleMapper.Request
import ModuleMapper.Response
import ModuleMapper.Session
import ModuleMapper.Settings
import ModuleMapper.Stream.Input
import ModuleMapper.Stream.Output
import ModuleMapper.Stream.Sink
import ModuleMapper.SystemError
import ModuleMapper.Text.CodePoints
import ModuleMapper.Text.Hidden
import ModuleMapper.Text.Lossy
import ModuleMapper.Text.Quoted
import ModuleMapper.Wire.Block
import ModuleMapper.Wire.Draft
import ModuleMapper.Wire.Encoding
import ModuleMapper.Wire.Outline
import ModuleMapper.Wire.Reader
import ModuleMapper.Wire.Sending
import ModuleMapper.Wire.Token
import ModuleMapper.Workspace
