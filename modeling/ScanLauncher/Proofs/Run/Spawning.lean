import ScanLauncher.Proofs.Report.Reset
import ScanLauncher.Proofs.Run.Lasting
import ScanLauncher.Proofs.Run.Starting

namespace ScanLauncher

/-- The starts of children that an observer has seen, each with its command. -/
def World.spawned (w : World) : List TraceEvent := w.trace.filter TraceEvent.isSpawn

theorem Report.spawned_reset (path : Path) (w : World) :
    (reset path w).2.spawned = w.spawned := by
  have hkeeps : (reset path).Keeps (·.spawned = w.spawned) :=
    keeps_reset_of_files (fun _ _ _ h => h) fun _ _ h => h
  exact hkeeps w rfl

private theorem Session.spawned_launch {command : List Value} {workingDir : Text} {chunkSize : Int}
    {timeout : Option Seconds} {w w' : World} {session : Session}
    (h : launch command workingDir chunkSize timeout w = (.ok session, w')) :
    w'.spawned = w.spawned ++ [.spawn command workingDir] := by
  obtain ⟨_, _, htrace⟩ := launch_eq_ok h
  have hnone : ((timeout.filter (!·.isZero)).toList.map TraceEvent.startTimer).filter
      TraceEvent.isSpawn = [] := by cases timeout.filter (!·.isZero) <;> rfl
  rw [World.spawned, htrace, List.filter_append, List.filter_cons_of_pos rfl, hnone]
  rfl

/-- A start that succeeds has started the script with the command of the request. -/
theorem Run.spawned_start {config : Config} {url revision subdir : Option Text} {w w' : World}
    {run : Run} (h : start url revision subdir { config } w = ((.ok (), run), w')) :
    w'.spawned = w.spawned ++
      [.spawn (commandOf config (.normalize url revision subdir)) config.tool.workingDir] := by
  obtain ⟨key, resetOk, session, w₁, w₂, _, hreset, hlaunch, message, rfl⟩ := start_eq_ok h
  have hemptied := Report.spawned_reset config.reportDir { w with gate := w.gate.taken key }
  rw [hreset] at hemptied
  have hlaunched := Session.spawned_launch hlaunch
  cases resetOk <;> exact hlaunched.trans (congrArg (· ++ _) hemptied)

end ScanLauncher
