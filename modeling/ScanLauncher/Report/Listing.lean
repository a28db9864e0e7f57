import ScanLauncher.Report.Basic
import ScanLauncher.World

/-!
The reports that a run left behind: the regular files directly inside the report directory, sorted
by name. Links and subdirectories are no reports.
-/
namespace ScanLauncher.Report

/-- The names of the regular files among some entries, sorted. -/
def regularNames (entries : List (Text × Entry)) : List Text :=
  ((entries.filter (·.2.isRegular)).map (·.1)).mergeSort Text.le

/-- What is in a directory, or the fault that was set for looking. -/
def scan (path : Path) : Act (List (Text × Entry)) := do
  let w ← get
  match w.faults.list with
  | none => Act.ofExcept (Failure.ofPathFault path.text) (w.files.list path.text)
  | some .silent => return []
  | some (.errno e) => throw (.os (.about e path.text))
  | some (.text s) => throw (.os (.described s))

/-- Whether a failure says that there is no such directory. -/
def isAbsence : Failure → Bool
  | .os error => error.errno? == some .notFound || error.errno? == some .notDirectory
  | _ => false

/-- The reports in a directory; none if it is missing. -/
def list (path : Path) : Act (List ReportFile) := do
  match ← (scan path).attempt with
  | .ok entries =>
    let names := regularNames entries
    Act.log .info .listing
      ("Found " ++ Text.decimal names.length ++ " report file(s) in " ++ path.text)
    return names.map fun name => ⟨path.name, name⟩
  | .error failure =>
    if isAbsence failure then
      Act.log .debug .listing ("Report directory " ++ path.text ++ " does not exist")
      return []
    throw failure

end ScanLauncher.Report
