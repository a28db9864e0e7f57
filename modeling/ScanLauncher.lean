import ScanLauncher.Cli.Grammar
import ScanLauncher.Cli.Inspect
import ScanLauncher.Cli.Launch
import ScanLauncher.Cli.Markup
import ScanLauncher.Cli.Option
import ScanLauncher.Cli.Paragraph
import ScanLauncher.Cli.Program
import ScanLauncher.Cli.Terminal
import ScanLauncher.Cli.Usage
import ScanLauncher.Config.Basic
import ScanLauncher.Config.Convert
import ScanLauncher.Config.Expand
import ScanLauncher.Config.File
import ScanLauncher.Config.Load
import ScanLauncher.Config.Merge
import ScanLauncher.Config.Schema
import ScanLauncher.Config.Suggest
import ScanLauncher.Environment
import ScanLauncher.Failure
import ScanLauncher.Files.Change
import ScanLauncher.Files.Errno
import ScanLauncher.Files.Path
import ScanLauncher.Files.Resolve
import ScanLauncher.Files.Search
import ScanLauncher.Files.Tree
import ScanLauncher.Files.Walk
import ScanLauncher.Gate
import ScanLauncher.Http.Authority
import ScanLauncher.Http.Endpoint
import ScanLauncher.Http.Form
import ScanLauncher.Http.Multipart
import ScanLauncher.Http.Parameter
import ScanLauncher.Http.Target
import ScanLauncher.Log
import ScanLauncher.Main
import ScanLauncher.Number.Binary64
import ScanLauncher.Number.Decimal
import ScanLauncher.Number.Numeral
import ScanLauncher.Process.Behaviour
import ScanLauncher.Process.Session
import ScanLauncher.Process.Spec
import ScanLauncher.Proofs.Action
import ScanLauncher.Proofs.Agreement
import ScanLauncher.Proofs.Cli.ConfigFailure
import ScanLauncher.Proofs.Cli.Delivering
import ScanLauncher.Proofs.Cli.ExitCode
import ScanLauncher.Proofs.Config.Conforming
import ScanLauncher.Proofs.Config.Converting
import ScanLauncher.Proofs.Config.Expanding
import ScanLauncher.Proofs.Config.Layering
import ScanLauncher.Proofs.Config.Load
import ScanLauncher.Proofs.Config.MergeLaws
import ScanLauncher.Proofs.Config.Precedence
import ScanLauncher.Proofs.Config.Reading
import ScanLauncher.Proofs.Config.ReportDir
import ScanLauncher.Proofs.Config.Reported
import ScanLauncher.Proofs.Config.Returning
import ScanLauncher.Proofs.Config.Reviewed
import ScanLauncher.Proofs.Config.Setting
import ScanLauncher.Proofs.Config.Severity
import ScanLauncher.Proofs.Config.Similarity
import ScanLauncher.Proofs.Config.Suggesting
import ScanLauncher.Proofs.Consumers
import ScanLauncher.Proofs.Files.Apart
import ScanLauncher.Proofs.Files.Locate
import ScanLauncher.Proofs.Files.Names
import ScanLauncher.Proofs.Files.Passing
import ScanLauncher.Proofs.Files.Stable
import ScanLauncher.Proofs.Files.Written
import ScanLauncher.Proofs.Forwarding
import ScanLauncher.Proofs.Gate
import ScanLauncher.Proofs.Http.Disconnect
import ScanLauncher.Proofs.Number.Overflow
import ScanLauncher.Proofs.Number.Rounding
import ScanLauncher.Proofs.Process.Behaviour
import ScanLauncher.Proofs.Process.Cutting
import ScanLauncher.Proofs.Process.Effects
import ScanLauncher.Proofs.Process.Independence
import ScanLauncher.Proofs.Process.Launch
import ScanLauncher.Proofs.Process.LifeCycle
import ScanLauncher.Proofs.Process.Producing
import ScanLauncher.Proofs.Process.Reading
import ScanLauncher.Proofs.Process.Stalling
import ScanLauncher.Proofs.Process.Stopping
import ScanLauncher.Proofs.Report.Canonical
import ScanLauncher.Proofs.Report.Emptied
import ScanLauncher.Proofs.Report.Honest
import ScanLauncher.Proofs.Report.Reset
import ScanLauncher.Proofs.Run.Afresh
import ScanLauncher.Proofs.Run.BodyEnd
import ScanLauncher.Proofs.Run.BodyStep
import ScanLauncher.Proofs.Run.Bound
import ScanLauncher.Proofs.Run.Closing
import ScanLauncher.Proofs.Run.Framing
import ScanLauncher.Proofs.Run.Grammar
import ScanLauncher.Proofs.Run.Handing
import ScanLauncher.Proofs.Run.Independence
import ScanLauncher.Proofs.Run.Lasting
import ScanLauncher.Proofs.Run.Launching
import ScanLauncher.Proofs.Run.ReportNames
import ScanLauncher.Proofs.Run.SinkFailure
import ScanLauncher.Proofs.Run.Spawning
import ScanLauncher.Proofs.Run.Starting
import ScanLauncher.Proofs.Run.TimedOut
import ScanLauncher.Proofs.Run.Transcript
import ScanLauncher.Proofs.Run.Unlimited
import ScanLauncher.Proofs.Run.Vector
import ScanLauncher.Proofs.Stream
import ScanLauncher.Proofs.System.Absorbing
import ScanLauncher.Proofs.System.Afresh
import ScanLauncher.Proofs.System.Basic
import ScanLauncher.Proofs.System.Delivery
import ScanLauncher.Proofs.System.Exclusion
import ScanLauncher.Proofs.System.Files
import ScanLauncher.Proofs.System.Limit
import ScanLauncher.Proofs.System.Ownership
import ScanLauncher.Proofs.System.Reader
import ScanLauncher.Proofs.System.Rejection
import ScanLauncher.Proofs.System.RunStep
import ScanLauncher.Proofs.System.Told
import ScanLauncher.Proofs.Text.Bytes
import ScanLauncher.Proofs.Text.Decoding
import ScanLauncher.Proofs.Text.Order
import ScanLauncher.Proofs.Value.Key
import ScanLauncher.Proofs.Value.Mapping
import ScanLauncher.Proofs.Value.Tidy
import ScanLauncher.Proofs.Yaml.Tidy
import ScanLauncher.Report.Basic
import ScanLauncher.Report.Listing
import ScanLauncher.Report.Reset
import ScanLauncher.Request
import ScanLauncher.Run.Basic
import ScanLauncher.Run.Body
import ScanLauncher.Run.Deliver
import ScanLauncher.Shell.Arithmetic
import ScanLauncher.Shell.Builtin
import ScanLauncher.Shell.Command
import ScanLauncher.Shell.Eval
import ScanLauncher.Shell.Expand
import ScanLauncher.Shell.Expression
import ScanLauncher.Shell.FileTool
import ScanLauncher.Shell.Filter
import ScanLauncher.Shell.Format
import ScanLauncher.Shell.Integer
import ScanLauncher.Shell.Octets
import ScanLauncher.Shell.Options
import ScanLauncher.Shell.Pattern
import ScanLauncher.Shell.Predicate
import ScanLauncher.Shell.ReadLine
import ScanLauncher.Shell.Regex
import ScanLauncher.Shell.Signals
import ScanLauncher.Shell.State
import ScanLauncher.Shell.Stream
import ScanLauncher.Shell.Token
import ScanLauncher.Shell.Utility
import ScanLauncher.Shell.Word
import ScanLauncher.Stream
import ScanLauncher.Text.Basic
import ScanLauncher.Text.Digit
import ScanLauncher.Text.Printable
import ScanLauncher.Text.Quoted
import ScanLauncher.Text.Utf8
import ScanLauncher.Value.Basic
import ScanLauncher.Value.Calendar
import ScanLauncher.Value.Text
import ScanLauncher.World
import ScanLauncher.Yaml.Cursor
import ScanLauncher.Yaml.Document
import ScanLauncher.Yaml.Node
import ScanLauncher.Yaml.Scalar
import ScanLauncher.Yaml.Source
import ScanLauncher.Yaml.Token
import ScanLauncher.Yaml.Token.Property
import ScanLauncher.Yaml.Token.Scalar
import ScanLauncher.Yaml.Token.Stream
