import ScanLauncher.Cli.Terminal
import ScanLauncher.Config.Load
import ScanLauncher.Files.Search
import ScanLauncher.Report.Listing

/-!
The commands that only look: the settings in force with the script and its reports, and the check of
a configuration file.
-/
namespace ScanLauncher.Cli

/-- The version of the program. -/
def version : String := "0.1.0"

/-- The interpreter as a cell: only text can be shown. -/
def interpreterCell : Option Value → Except Failure Text
  | none => .ok "-"
  | some (.text s) => .ok (if s.isEmpty then "-" else s)
  | some value => if value.isGiven then .error .notShowable else .ok "-"

/-- A number as a cell, unless it has too many digits. -/
def numberCell (n : Int) : Except Failure Text :=
  match Numeral.ofInt? n with
  | some digits => .ok digits
  | none => .error .longNumber

/-- The time limit as a cell. -/
def timeoutCell (timeout : Seconds) : Text :=
  if timeout.isZero then "disabled" else timeout.briefText ++ "s"

/-- The settings in force as a table. -/
def settingsTable (config : Config) : Except Failure Table := do
  let interpreter ← interpreterCell config.tool.interpreter
  let chunkSize ← numberCell config.tool.chunkSize
  let server ← Address.text ⟨config.server.host, config.server.port⟩
  return {
    title := "Effective configuration"
    columns := ["Key", "Value"]
    rows := [
      ["tool.executable", config.tool.executable],
      ["tool.interpreter", interpreter],
      ["tool.working_dir", config.tool.workingDir],
      ["tool.timeout", timeoutCell config.tool.timeout],
      ["tool.chunk_size", chunkSize],
      ["reports.output_root", config.reports.outputRoot],
      ["reports.directory_name", config.reports.directoryName],
      ["server", server]] }

/-- Says whether the script is there. -/
def showScript (tool : ToolSettings) : ActOn Terminal Unit := do
  let w ← ActOn.lift get
  let found ← ActOn.lift (Act.ofExcept (fun e => .os (.about e tool.executable))
    (w.files.findScript? w.env tool.executable tool.workingDir))
  let state :=
    match found with
    | some path => Markup.styled "green" path.text
    | none => Markup.styled "red" (tool.executable ++ " not found")
  Terminal.say .stdout ("Analysis script: " ++ state)

/-- Lists the reports that are there. -/
def showReports (reportDir : Path) : ActOn Terminal Unit := do
  match ← ActOn.lift (Report.list reportDir) with
  | [] => Terminal.say .stdout "No reports present."
  | reports =>
    Terminal.say .stdout ("Reports from last run (" ++ Text.decimal reports.length ++ "):")
    reports.forM fun report =>
      Terminal.say .stdout ("  " ++ report.displayPath)

/-- Shows the settings in force, the script and its reports. -/
def status (config : Config) : ActOn Terminal ExitCode := do
  Terminal.say .stdout ("yugaweb version: " ++ version)
  let sources := Text.intercalate ", " config.sources
  let sources : Text := if sources.isEmpty then "defaults" else sources
  Terminal.say .stdout ("Config sources: " ++ sources)
  let table ← ActOn.lift (Act.ofExcept id (settingsTable config))
  Terminal.display .stdout (.table table)
  showScript config.tool
  showReports config.reportDir
  return .success

/-- The key of an issue as a cell; only text can be shown. -/
def keyCell : Option Value → Except Failure Text
  | none => .ok "-"
  | some (.text s) => .ok (if s.isEmpty then "-" else Markup.escape s)
  | some value => if value.isGiven then .error .wrongKind else .ok "-"

/-- The severity of an issue as a cell. -/
def severityCell (isError : Bool) : Text :=
  if isError then Markup.styled "bold red" "error" else Markup.styled "yellow" "warning"

/-- An issue as a row. -/
def issueRow (issue : Config.FileIssue) : Except Failure (List Text) := do
  let key ← keyCell issue.key?
  return [severityCell issue.isError, key, Markup.escape issue.message,
    Markup.escape (issue.suggestion?.getD "")]

/-- The issues of a file as a table, errors first. -/
def issueTable (path : Path) (issues : List Config.FileIssue) : Except Failure Table := do
  let ordered := issues.filter Config.FileIssue.isError ++ issues.filter (!·.isError)
  let rows ← ordered.mapM issueRow
  return {
    title := Markup.escape path.text
    columns := ["Severity", "Key", "Problem", "Did you mean"]
    rows }

/-- The verdict on a file with some issues. -/
def verdict (issues : List Config.FileIssue) : Text × ExitCode :=
  if !Config.isUsable issues then
    let errors := issues.filter Config.FileIssue.isError
    (Markup.styled "bold red" "Configuration is invalid" ++ " (" ++ Text.decimal errors.length ++
      " error(s))", .toolFailure)
  else if issues.isEmpty then (Markup.styled "green" "Configuration is valid.", .success)
  else
    (Markup.styled "green" "Configuration is valid" ++ " (" ++ Text.decimal issues.length ++
      " warning(s))", .success)

/-- Checks a file that is there. -/
def validateFile (path : Path) : ActOn Terminal ExitCode := do
  let issues ← ActOn.lift (Config.checkFile path)
  if !issues.isEmpty then
    let table ← ActOn.lift (Act.ofExcept id (issueTable path issues))
    Terminal.display .stdout (.table table)
  let (line, code) := verdict issues
  Terminal.say .stdout line
  return code

/-- Checks a chosen file, or the project's. -/
def validate (root : Path) (chosen : Option Path) : ActOn Terminal ExitCode := do
  let path ←
    match chosen with
    | some path => pure (some path)
    | none => ActOn.lift (Config.findProject root)
  match path with
  | none =>
    Terminal.say .stdout (Markup.styled "yellow" "No configuration file found.")
    Terminal.say .stdout ("Looked for: " ++ Text.intercalate ", " Config.projectNames)
    return .invalidUsage
  | some path =>
    if ← ActOn.lift (Config.pathExists path) then validateFile path
    else
      Terminal.say .stdout
        (Markup.styled "red" "Configuration file not found:" ++ " " ++ Markup.escape path.text)
      return .invalidUsage

end ScanLauncher.Cli
