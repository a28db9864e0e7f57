import ScanLauncher.Run.Basic

/-!
The body of a run's response, item by item: an opening mark, the script's output, a status line, a
closing mark, a sentinel, and one line for every report. The run is closed when its body ends,
however it ends.
-/
namespace ScanLauncher

/-- The last item that a body has handed out. -/
inductive BodyStage where
  | fresh
  | opened
  /-- A chunk of the output of one of the run's sessions. -/
  | chunk (session : Nat)
  | status
  | closed
  | sentinel
  /-- A report, and those still to come. -/
  | report (rest : List ReportFile)
  | finished
deriving DecidableEq, Repr

/-- A body that is being read, with its run. -/
structure Body where
  run : Run
  stage : BodyStage := .fresh
deriving Repr

namespace Body

/-- The mark before the script's output. -/
def openMark : List UInt8 := Utf8.encode "<pre>".toList

/-- The mark after the status line. -/
def closeMark : List UInt8 := Utf8.encode "</pre>".toList

/-- The line that the report list follows. -/
def sentinelMark : List UInt8 := Utf8.encode "\n__reports__\n".toList

/-- The status line: the limit that was reached, or the exit status. -/
def statusLine (config : Config) (outcome : Outcome) : List UInt8 :=
  let text :=
    if outcome.timedOut then "\n[timed out after " ++ config.tool.timeout.briefText ++ " seconds]\n"
    else "\n[exit status: " ++ outcome.statusText ++ "]\n"
  Utf8.encode text.toList

/-- The line of a report. Its name must be text. -/
def reportLine? (report : ReportFile) : Option (List UInt8) :=
  report.displayPath.toUtf8?.map (· ++ [0x0A])

/-- Acts on the run. -/
def onRun {α : Type} (act : ActOn Run α) : ActOn Body α :=
  act.part Body.run fun body run => { body with run }

/-- Moves on to a stage. -/
def enter (stage : BodyStage) : ActOn Body Unit := modify fun body => { body with stage }

/-- Ends the body and closes the run. -/
def finish : ActOn Body Unit := do
  enter .finished
  onRun Run.close

/-- The first item, which a run that was not started does not have. -/
def openingItem : ActOn Body (List UInt8) := do
  let run := (← get).run
  if run.session?.isNone || run.outcome.isNone then
    enter .finished
    throw (.misuse .notStarted)
  onRun (Run.enter .streaming)
  enter .opened
  return openMark

/-- The status item, after the outcome has been noted. -/
def statusItem : ActOn Body (List UInt8) := do
  let session? := (← get).run.session?
  onRun (Run.modifyOutcome fun outcome =>
    { outcome with
      exitStatus := session?.bind Session.exitStatus
      timedOut := (session?.map Session.isTimedOut).getD false })
  enter .status
  let run := (← get).run
  return (run.outcome.map (statusLine run.config)).getD []

/-- The next chunk of a session's output, or the status item after the last. -/
def chunkItem (session : Nat) : ActOn Body (List UInt8) := do
  match ← onRun (Run.onSession session Session.next) with
  | some chunk =>
    enter (.chunk session)
    return chunk
  | none => statusItem

/-- The line of the first of some reports; after the last the run is done. -/
def reportItem : List ReportFile → ActOn Body (Option (List UInt8))
  | [] => do
    onRun (Run.enter .done)
    return none
  | report :: rest => do
    match reportLine? report with
    | some line =>
      enter (.report rest)
      return some line
    | none => throw .notEncodable

/-- The reports, listed now. -/
def listItem : ActOn Body (Option (List UInt8)) := do
  let reports ← ActOn.lift (Report.list (← get).run.config.reportDir)
  onRun (Run.modifyOutcome fun outcome => { outcome with reports := some reports })
  reportItem reports

/-- The item after the first. -/
def laterItem : ActOn Body (Option (List UInt8)) := do
  match (← get).stage with
  | .fresh | .finished => return none
  | .opened =>
    let session := (← get).run.current
    onRun (Run.onSession session Session.openReader)
    return some (← chunkItem session)
  | .chunk session => return some (← chunkItem session)
  | .status =>
    enter .closed
    return some closeMark
  | .closed =>
    onRun (Run.enter .listing)
    enter .sentinel
    return some sentinelMark
  | .sentinel => listItem
  | .report rest => reportItem rest

/-- The next item; none at the end. When the body ends, or fails after its first item, the run is
closed. -/
def next : ActOn Body (Option (List UInt8)) := do
  match (← get).stage with
  | .finished => return none
  | .fresh => return some (← openingItem)
  | _ =>
    match ← laterItem.onFailure finish with
    | some item => return some item
    | none =>
      finish
      return none

/-- Gives the body up. One that has not handed out anything leaves the run as it is. -/
def close : ActOn Body Unit := do
  match (← get).stage with
  | .fresh | .finished => enter .finished
  | .chunk session =>
    onRun (Run.onSession session Session.closeReader)
    finish
  | _ => finish

/-- The number of file changes among some output steps. -/
def changeCount (steps : List OutputStep) : Nat :=
  (steps.map fun
    | .change changes => changes.length
    | _ => 0).foldr (· + ·) 0

/-- More items than a body can still have: marks, chunks and reports. -/
def itemBound (body : Body) (w : World) : Nat :=
  (body.run.sessions.map fun session =>
    session.chunkBound + changeCount session.child.steps).foldr (· + ·)
      (w.files.tree.entries.length + 8)

/-- All items that are left, at most `fuel` of them. -/
def drainUpTo : (fuel : Nat) → ActOn Body (List (List UInt8))
  | 0 => return []
  | fuel + 1 => do
    match ← next with
    | some item => return item :: (← drainUpTo fuel)
    | none => return []

/-- More items than the body can still have. -/
def bound : ActOn Body Nat := do return (← get).itemBound (← ActOn.lift get)

/-- All items that are left. -/
def drain : ActOn Body (List (List UInt8)) := do drainUpTo (← bound)

end Body

end ScanLauncher
