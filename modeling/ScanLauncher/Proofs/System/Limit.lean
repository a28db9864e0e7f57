import ScanLauncher.Proofs.Config.Setting
import ScanLauncher.Proofs.Run.TimedOut
import ScanLauncher.Proofs.Run.Unlimited
import ScanLauncher.Proofs.System.Basic

namespace ScanLauncher

namespace Config

end Config

namespace System

/-- Runs without a limit have not timed out. -/
def KeepsTime (s : System) : Prop := ∀ run ∈ s.runs, run.KeepsTime

variable {s : System}

theorem keepsTime_onRun (h : s.KeepsTime) (i : Nat) {α : Type} {act : ActOn Run α}
    (hact : ∀ run w, s.runs[i]? = some run → run.KeepsTime → (act run w).1.2.KeepsTime) :
    (s.onRun i act).2.KeepsTime := by
  obtain hsame | ⟨run, hrun, hafter⟩ := s.onRun_cases i act
  · rwa [hsame]
  · rw [hafter]
    intro other hother
    rcases List.mem_or_eq_of_mem_set hother with hold | rfl
    · exact h other hold
    · exact hact run s.world hrun (h run (List.mem_of_getElem? hrun))

section StallingRun

variable (endsInOrder : Bool) (lastSteps : Nat)

end StallingRun

/-- The same child is started without a limit and read. -/
def patience : List Operation :=
  [.start { Run.plainConfig with tool := { timeout := .whole 0 } } none none none, .openBody 0,
    .advance 0, .advance 0, .advance 0]

end System

end ScanLauncher
