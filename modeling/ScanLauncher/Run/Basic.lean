import ScanLauncher.Gate
import ScanLauncher.Process.Session
import ScanLauncher.Report.Listing
import ScanLauncher.Report.Reset

/-!
One request's run: it claims the report directory, empties it and starts the script; when it is
closed the child is stopped and the claim given back. Between the two the run's body is read.
-/
namespace ScanLauncher

/-- How far a run has come. -/
inductive RunState where
  | idle
  | normalizing
  | resetting
  | running
  | streaming
  | listing
  | done
  | failed
deriving DecidableEq, Repr

namespace RunState

/-- A state's word. -/
def word : RunState → String
  | idle => "idle"
  | normalizing => "normalizing"
  | resetting => "resetting"
  | running => "running"
  | streaming => "streaming"
  | listing => "listing"
  | done => "done"
  | failed => "failed"

end RunState

/-- A run. It has one session, unless it is started again: then the newest one counts, and the older
ones are kept for readers that are still at them. -/
structure Run where
  config : Config
  sessions : List Session := []
  /-- The claim on the report directory. -/
  lock : Option Path := none
  isClosed : Bool := false
  state : RunState := .idle
  outcome : Option Outcome := none
deriving Repr

namespace Run

/-- The newest session. -/
def session? (run : Run) : Option Session := run.sessions.getLast?

/-- Where the newest session is kept. -/
def current (run : Run) : Nat := run.sessions.length - 1

/-- Moves on to a state. -/
def enter (state : RunState) : ActOn Run Unit := modify fun run => { run with state }

/-- Writes a record into the log. -/
def log (level : LogLevel) (message : Text) : ActOn Run Unit :=
  ActOn.lift (Act.log level .run message)

/-- Changes what is known of the outcome. -/
def modifyOutcome (f : Outcome → Outcome) : ActOn Run Unit :=
  modify fun run => { run with outcome := run.outcome.map f }

/-- Acts on one of the sessions. -/
def onSession {α : Type} (index : Nat) (act : ActOn Session α) : ActOn Run α := do
  match (← get).sessions[index]? with
  | none => throw (.misuse .notStarted)
  | some session =>
    act.part (fun _ => session) fun run session =>
      { run with sessions := run.sessions.set index session }

/-- Gives the claim back, if there is one. -/
def release : ActOn Run Unit := do
  match (← get).lock with
  | none => return
  | some key =>
    ActOn.lift (Gate.release key)
    modify fun run => { run with lock := none }

/-- Claims the report directory. -/
def claim : ActOn Run Unit := do
  let config := (← get).config
  let key ← ActOn.lift (Gate.acquire config.reportDir config.server.busyWait)
  modify fun run => { run with lock := some key }

/-- Empties the report directory; if that fails the run goes on with what is there. -/
def resetReports : ActOn Run Unit := do
  let reportDir := (← get).config.reportDir
  let resetOk ← ActOn.lift (Report.reset reportDir)
  modifyOutcome fun outcome => { outcome with resetOk }
  if !resetOk then
    log .warning ("Continuing with stale report directory " ++ reportDir.text)

/-- The command of a request under a configuration. -/
def commandOf (config : Config) (request : ScanRequest) : List Value :=
  request.command config.tool.executable config.reports.outputRoot config.tool.interpreter

/-- Starts the script. -/
def launchTool (request : ScanRequest) : ActOn Run Unit := do
  let config := (← get).config
  let session ← ActOn.lift (Session.launch (commandOf config request) config.tool.workingDir
    config.tool.chunkSize (some config.tool.timeout))
  modify fun run => { run with sessions := run.sessions ++ [session] }

/-- Claims and empties the report directory and starts the script. -/
def prepare (request : ScanRequest) : ActOn Run Unit := do
  claim
  enter .resetting
  resetReports
  enter .running
  launchTool request

/-- Starts the run. Whatever goes wrong, the claim is given back. -/
def start (url revision subdir : Option Text) : ActOn Run Unit := do
  enter .normalizing
  let request := ScanRequest.normalize url revision subdir
  modify fun run => { run with outcome := some { request } }
  (prepare request).onFailure do
    enter .failed
    release
  log .info
    ("Scan started for " ++ Text.quoted request.sourceUrl ++ " at " ++ request.revision)

/-- Closes the run: the child is stopped and the claim given back. A run that is not done has
failed. Closing it again does nothing. -/
def close : ActOn Run Unit := do
  let run ← get
  if run.isClosed then return
  modify fun run => { run with isClosed := true }
  if run.state != .done then
    log .warning ("Scan abandoned while " ++ run.state.word ++ ", stopping tool")
    enter .failed
  if run.session?.isSome then onSession run.current Session.close
  release

/-- The time of the newest session is up. -/
def expire : ActOn Run Unit := do onSession (← get).current Session.expire

end Run

end ScanLauncher
