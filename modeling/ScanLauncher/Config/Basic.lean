import ScanLauncher.Files.Path
import ScanLauncher.Number.Decimal
import ScanLauncher.Value.Text

/-!
The settings of the launcher, section by section, with their built-in values.
-/
namespace ScanLauncher

/-- A duration in seconds, as a whole number or as a double. -/
inductive Seconds where
  | whole (n : Int)
  | real (x : Binary64)
deriving DecidableEq, Repr

namespace Seconds

/-- The double nearest to a duration. -/
def toBinary64 : Seconds → Binary64
  | whole n => .ofInt n
  | real x => x

/-- A duration as a value. -/
def toValue : Seconds → Value
  | whole n => .int n
  | real x => .float x 0

/-- Whether a duration is zero, which stands for no limit. -/
def isZero : Seconds → Bool
  | whole n => n == 0
  | real x => x.isZero

/-- Whether a duration is above zero; a NaN is not. -/
def isPositive : Seconds → Bool
  | whole n => 0 < n
  | real x => x.isPositive

/-- A duration with all its digits, unless there are too many. -/
def text? (s : Seconds) : Option Text := s.toValue.plain?

/-- A duration in at most six significant digits. -/
def briefText (s : Seconds) : String := s.toBinary64.briefText

end Seconds

/-- How the analysis script is invoked. -/
structure ToolSettings where
  executable : Text := "./run-yuga.sh"
  /-- The program the script is handed to, if any. -/
  interpreter : Option Value := some (.text "bash")
  workingDir : Text := "."
  /-- The longest run; zero disables the limit. -/
  timeout : Seconds := .whole 3600
  /-- The most bytes of one chunk of output. -/
  chunkSize : Int := 4096
deriving Repr

/-- Where the script writes its reports. -/
structure ReportSettings where
  outputRoot : Text := "/var/www/html/"
  directoryName : Text := "yuga_reports"
deriving DecidableEq, Repr

/-- How the endpoint is served. -/
structure ServerSettings where
  host : Text := "0.0.0.0"
  port : Int := 8080
  /-- How long a request waits for a running scan before it is rejected. -/
  busyWait : Seconds := .whole 0
deriving DecidableEq, Repr

/-- All settings, and where each layer of them came from. -/
structure Config where
  tool : ToolSettings := {}
  reports : ReportSettings := {}
  server : ServerSettings := {}
  sources : List Text := []
deriving Repr

namespace Config

/-- The directory the script writes its report directory into. -/
def outputRoot (config : Config) : Path := .ofText config.reports.outputRoot

/-- The directory that every run resets, fills and lists. -/
def reportDir (config : Config) : Path :=
  config.outputRoot / .ofText config.reports.directoryName

end Config

end ScanLauncher
