import Mathlib.Logic.ExistsUnique
import ScanLauncher.Proofs.Run.Lasting
import ScanLauncher.Proofs.System.Basic

namespace ScanLauncher

/-- The run that an operation works on; a start works on a new one. -/
def Operation.subject? (s : System) : Operation → Option Nat
  | start .. => some s.runs.length
  | openBody run | close run | expire run => some run
  | advance body | closeBody body => s.bodies[body]?.map Prod.fst
  | disturb .. => none

namespace System

/-- The operation is the end of a run: its start fails, it is closed, or a body of it that has handed
out an item comes to an end, fails or is given up. -/
inductive Ends (s : System) : Operation → Nat → Prop
  | failed {config : Config} {url revision subdir : Option Text} {failure : Failure}
      (hfailed : (s.perform (.start config url revision subdir)).1 = .error failure) :
      Ends s (.start config url revision subdir) s.runs.length
  | closed (i : Nat) : Ends s (.close i) i
  | ended {b i : Nat} {stage : BodyStage} (hbody : s.bodies[b]? = some (i, stage))
      (hstarted : stage.isStarted = true)
      (hlast : ∀ item, (s.perform (.advance b)).1 ≠ .ok (some item)) : Ends s (.advance b) i
  | givenUp {b i : Nat} {stage : BodyStage} (hbody : s.bodies[b]? = some (i, stage))
      (hstarted : stage.isStarted = true) : Ends s (.closeBody b) i

theorem runs_onRun_of_ne (s : System) {i j : Nat} (hne : j ≠ i) {α : Type} (act : ActOn Run α) :
    (s.onRun j act).2.runs[i]? = s.runs[i]? := by
  obtain hsame | ⟨run, _, hafter⟩ := s.onRun_cases j act
  · rw [hsame]
  · rw [hafter]
    exact List.getElem?_set_ne hne

theorem runs_onBody_of_ne (s : System) {i b : Nat} (hne : s.bodies[b]?.map Prod.fst ≠ some i)
    {α : Type} (act : ActOn Body α) : (s.onBody b act).2.runs[i]? = s.runs[i]? := by
  obtain hsame | ⟨j, stage, run, hbody, _, hafter⟩ := s.onBody_cases b act
  · rw [hsame]
  · rw [hafter]
    exact List.getElem?_set_ne (by simpa [hbody] using hne)

/-- An operation leaves the runs alone that it does not work on. -/
theorem runs_perform_of_ne {s : System} {operation : Operation} {i : Nat}
    (hne : operation.subject? s ≠ some i) : (s.perform operation).2.runs[i]? = s.runs[i]? := by
  cases operation with
  | start config url revision subdir =>
    have hi : i ≠ s.runs.length := fun h => hne (congrArg some h.symm)
    obtain ⟨_, _, run, w', hperform, _⟩ :=
      s.perform_start (show (Operation.start config url revision subdir).config? = some config from rfl)
    rw [hperform]
    rcases Nat.lt_or_gt_of_ne hi with hbefore | hbehind
    · exact List.getElem?_append_left hbefore
    · rw [List.getElem?_eq_none (by simp; omega), List.getElem?_eq_none (Nat.le_of_lt hbehind)]
  | openBody run =>
    simp only [perform]
    split <;> rfl
  | advance body => exact runs_onBody_of_ne s hne _
  | closeBody body => exact runs_onBody_of_ne s hne _
  | close run => exact runs_onRun_of_ne s (fun h => hne (congrArg some h)) _
  | expire run => exact runs_onRun_of_ne s (fun h => hne (congrArg some h)) _
  | disturb files faults => rfl

end System

end ScanLauncher
