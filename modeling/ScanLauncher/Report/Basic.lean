import ScanLauncher.Request

/-!
Report files, and what a finished run produced.
-/
namespace ScanLauncher

/-- A regular file found in the report directory. -/
structure ReportFile where
  directoryName : Text
  /-- The file's name, which need not be UTF-8. -/
  relativePath : Text
deriving DecidableEq, Repr

namespace ReportFile

/-- The path as callers see it: the directory's name and the file's. -/
def displayPath (report : ReportFile) : Text :=
  report.directoryName ++ "/" ++ report.relativePath

end ReportFile

/-- What a run produced. There is no exit status while the child has not reported one. -/
structure Outcome where
  request : ScanRequest
  resetOk : Bool := true
  exitStatus : Option Int := none
  timedOut : Bool := false
  reports : Option (List ReportFile) := none
deriving DecidableEq, Repr

namespace Outcome

/-- The exit status in words. -/
def statusText (outcome : Outcome) : String :=
  (outcome.exitStatus.map Text.decimalInt).getD "None"

/-- Whether the script ended by itself and well. -/
def isSuccess (outcome : Outcome) : Bool := outcome.exitStatus == some 0 && !outcome.timedOut

end Outcome

end ScanLauncher
