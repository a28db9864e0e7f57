import ScanLauncher.Proofs.Process.Stalling
import ScanLauncher.Proofs.Run.BodyStep
import ScanLauncher.Proofs.Run.Grammar

namespace ScanLauncher

namespace Run

/-- A run whose limit was reached: its session has timed out and was read to the end, it is known with
which status the child ended, and the outcome says both. -/
structure HasTimedOut (run : Run) (status : Int) : Prop where
  session : ∃ session, run.sessions = [session] ∧ session.isTimedOut = true ∧
    session.isDrained = true ∧ session.exitStatus = some status
  outcome : ∃ outcome, run.outcome = some outcome ∧ outcome.timedOut = true ∧
    outcome.exitStatus = some status

namespace HasTimedOut

variable {run : Run} {status : Int} (h : run.HasTimedOut status)

include h

theorem closed : run.closed.HasTimedOut status := by
  obtain ⟨⟨session, hsession, htimed⟩, houtcome⟩ := h
  unfold Run.closed
  split
  · exact ⟨⟨session, hsession, htimed⟩, houtcome⟩
  · refine ⟨⟨session.shut, by simp [hsession], ?_⟩, houtcome⟩
    unfold Session.shut
    split <;> exact htimed

theorem listed (reports : List ReportFile) : (run.listed reports).HasTimedOut status := by
  obtain ⟨hsession, outcome, houtcome, htimed⟩ := h
  exact ⟨hsession, { outcome with reports := some reports }, by simp [Run.listed, houtcome], htimed⟩

theorem isStarted : run.IsStarted := by
  obtain ⟨⟨session, hsession, _⟩, outcome, houtcome, _⟩ := h
  exact ⟨by simp [hsession], by simp [houtcome]⟩

end HasTimedOut

end Run

namespace Body

variable {body : Body} {w : World} {status : Int}

end Body

namespace Transcript

variable {run : Run} {w : World} {t : Transcript run w}

end Transcript

namespace Run

end Run

end ScanLauncher
