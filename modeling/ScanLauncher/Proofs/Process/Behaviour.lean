import ScanLauncher.Process.Behaviour
import ScanLauncher.Proofs.Process.Launch
import ScanLauncher.Proofs.Process.Stopping

namespace ScanLauncher

namespace Behaviour

variable (files : FileSystem) (env : Environment) (command : List Text) (workingDir : Text)
  (limit : Option Seconds)

/-- A command comes to work that is done as a child, or it cannot be started for an error that has a
number. -/
private theorem ofCommand_cases :
    (∃ work first, ofCommand files env command workingDir limit =
        { specOf work first with checksCommand := true }) ∨
      ∃ e, ofCommand files env command workingDir limit =
        { launchError := some (.errno e), checksCommand := true } := by
  unfold ofCommand
  split
  · rename_i cwd _
    dsimp only
    cases workOf { files with cwd } env (command.map Shell.ofText) with
    | ok work => exact .inl ⟨work, _, rfl⟩
    | error e => exact .inr ⟨e, rfl⟩
  all_goals exact .inr ⟨_, rfl⟩

@[simp] theorem checksCommand_ofCommand :
    (ofCommand files env command workingDir limit).checksCommand = true := by
  obtain ⟨work, first, hspec⟩ | ⟨e, hspec⟩ := ofCommand_cases files env command workingDir limit
  all_goals rw [hspec]

@[simp] theorem lacksThread_ofCommand :
    (ofCommand files env command workingDir limit).lacksThread = false := by
  obtain ⟨work, first, hspec⟩ | ⟨e, hspec⟩ := ofCommand_cases files env command workingDir limit
  · rw [hspec]
    rfl
  · rw [hspec]

/-- The launcher may signal whatever a command starts. -/
theorem takesSignals_ofCommand :
    (ofCommand files env command workingDir limit).TakesSignals := by
  intro s e hgroup
  have hreached : (ofCommand files env command workingDir limit).groupError.of s = none := by
    obtain ⟨work, first, hspec⟩ | ⟨e, hspec⟩ := ofCommand_cases files env command workingDir limit
    all_goals rw [hspec]; cases s <;> rfl
  rw [hreached] at hgroup
  cases hgroup

end Behaviour

namespace Session

variable {command : List Text} {workingDir : Text} {chunkSize : Int} {timeout : Option Seconds}
  {w : World}

/-- The world in which the command is launched: its behaviour is that of the next child. -/
private def awaiting (command : List Text) (workingDir : Text) (timeout : Option Seconds) (w : World) :
    World :=
  { w with specs := Behaviour.ofCommand w.files w.env command workingDir timeout :: w.specs }

private theorem launchCommand_apply :
    launchCommand command workingDir chunkSize timeout w =
      launch (command.map Value.text) workingDir chunkSize timeout
        (awaiting command workingDir timeout w) := rfl

/-- A command is started exactly if it can be shown, the system can take all its parts, and there is
something that it starts. -/
theorem started_launchCommand_iff :
    (∃ session w', launchCommand command workingDir chunkSize timeout w = (.ok session, w')) ↔
      (Value.list (command.map Value.text)).nested?.isSome = true ∧
        commandFault? (command.map Value.text) workingDir = none ∧
        (Behaviour.ofCommand w.files w.env command workingDir timeout).launchError = none := by
  have hfault : fault? (Behaviour.ofCommand w.files w.env command workingDir timeout)
      (command.map Value.text) workingDir = commandFault? (command.map Value.text) workingDir := by
    simp [fault?]
  rw [launchCommand_apply, ← hfault]
  constructor
  · rintro ⟨session, w', h⟩
    cases launchCase_of_launch h with
    | started hshown hfit hchild => exact ⟨hshown, hfit, hchild⟩
  · rintro ⟨hshown, hfit, hchild⟩
    exact exists_launch chunkSize timeout hshown hfit hchild (by simp [isUntimed, awaiting])

/-- Where a command is started its child behaves as the command does, and in whatever state the
session comes to be as long as it has this child, closing it ends the child; where it is not started
no child is left behind. -/
theorem closes_launchCommand {result : Except Failure Session} {w' : World}
    (h : launchCommand command workingDir chunkSize timeout w = (result, w')) :
    match result with
    | .ok session =>
      session.child.spec = Behaviour.ofCommand w.files w.env command workingDir timeout ∧
        ∀ later : Session, later.child.spec = session.child.spec → ∀ w₁ : World,
          ∃ w₂, close later w₁ = ((.ok (), later.shut), w₂) ∧ later.shut.Stopped
    | .error _ => w'.strays = w.strays := by
  rw [launchCommand_apply] at h
  cases result with
  | ok session =>
    obtain ⟨rfl, _⟩ := launch_eq_ok h
    refine ⟨rfl, fun later hspec w₁ => ?_⟩
    have htakes : later.child.spec.TakesSignals := by
      rw [hspec]
      exact Behaviour.takesSignals_ofCommand w.files w.env command workingDir timeout
    have hstops := Child.stopRefusal?_of_takesSignals htakes
    obtain ⟨w₂, hclose, _⟩ := close_ends later w₁
    rw [hstops] at hclose
    exact ⟨w₂, hclose, stopped_shut hstops⟩
  | error failure =>
    obtain ⟨_, _, hstrays | ⟨_, huntimed⟩⟩ := launch_eq_error h
    · exact hstrays
    · simp [isUntimed, awaiting] at huntimed

end Session

end ScanLauncher
