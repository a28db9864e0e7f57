import ScanLauncher.Text.Basic

/-!
The log: what was noticed, how much it matters, and which part of the program noticed it.
-/
namespace ScanLauncher

/-- How much a record matters. -/
inductive LogLevel where
  | debug
  | info
  | warning
  | error
deriving DecidableEq, Repr

namespace LogLevel

/-- A level's word. -/
def word : LogLevel → String
  | debug => "DEBUG"
  | info => "INFO"
  | warning => "WARNING"
  | error => "ERROR"

/-- A level's rank. -/
def rank : LogLevel → Nat
  | debug => 10
  | info => 20
  | warning => 30
  | error => 40

end LogLevel

/-- The parts of the program that keep a log. -/
inductive Origin where
  | loader
  | schema
  | reset
  | listing
  | run
  | process
  | stream
  | endpoint
  | commandLine
  | scanCommand
  | serveCommand
deriving DecidableEq, Repr

namespace Origin

/-- The name under which a part keeps its log. -/
def name : Origin → String
  | loader => "yugaweb.config.loader"
  | schema => "yugaweb.config.validation"
  | reset => "yugaweb.pipeline.reconciler"
  | listing => "yugaweb.pipeline.lister"
  | run => "yugaweb.pipeline.executor"
  | process => "yugaweb.core.subprocess_runner"
  | stream => "yugaweb.core.streaming"
  | endpoint => "yugaweb.server.app"
  | commandLine => "yugaweb.cli.runner"
  | scanCommand => "yugaweb.cli.commands.scan"
  | serveCommand => "yugaweb.cli.commands.serve"

end Origin

/-- One record of the log. -/
structure LogRecord where
  level : LogLevel
  origin : Origin
  message : Text
deriving DecidableEq, Repr

namespace LogRecord

/-- A record as a line, after the time at which it was made. -/
def line (record : LogRecord) : Text :=
  record.level.word ++ " " ++ record.origin.name ++ ": " ++ record.message

end LogRecord

/-- How much a user wants to see. -/
structure Verbosity where
  debug : Bool := false
  verbose : Bool := false
  quiet : Bool := false
deriving DecidableEq, Repr

namespace Verbosity

/-- The least level that is shown. Quiet wins over debug, and debug over verbose. -/
def threshold (v : Verbosity) : LogLevel :=
  if v.quiet then .error else if v.debug then .debug else if v.verbose then .info else .warning

end Verbosity

/-- The levels at which the whole program and its request log report. -/
structure LogLevels where
  /-- The program's level; it is chosen once, by the first call. -/
  program : Option LogLevel := none
  /-- The request log's level; every call chooses it anew. -/
  requests : Option LogLevel := none
deriving DecidableEq, Repr

namespace LogLevels

/-- The form of a log line. -/
def format : String := "%(asctime)s %(levelname)s %(name)s: %(message)s"

/-- Chooses the levels by verbosity. -/
def configure (levels : LogLevels) (v : Verbosity) : LogLevels :=
  { program := levels.program.or (some v.threshold), requests := some v.threshold }

end LogLevels

/-- The name of a logger: a missing name means the logging part itself, an empty one the root. -/
def loggerName : Option Text → Text
  | none => "yugaweb.core.logging"
  | some name => if name.isEmpty then "root" else name

end ScanLauncher
