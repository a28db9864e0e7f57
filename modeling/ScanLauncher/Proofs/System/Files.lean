import ScanLauncher.Proofs.Files.Stable
import ScanLauncher.Proofs.Report.Reset
import ScanLauncher.Proofs.Run.Lasting
import ScanLauncher.Proofs.System.Basic

namespace ScanLauncher

variable {P : FileSystem → Prop}

/-- Nothing but the changes of a child is done to the files while a run is read and closed. -/
theorem FileSystem.IsStable.lasts (hP : IsStable P) : World.Lasts fun w => P w.files where
  note _ _ _ _ h := h
  gate _ _ h := h
  effect heffect h := by
    cases heffect with
    | takeStep => exact IsStable.applyAll hP h _
    | _ => exact h

namespace Run

private theorem keepsFiles_claim : claim.KeepsWorld fun w => P w.files := by
  have hlock (path : Path) : (Gate.lockFor path).Keeps fun w => P w.files :=
    Act.keeps_get.bind fun _ => (Act.keeps_ofExcept _ _).bind fun _ =>
      Act.Keeps.bind (Act.keeps_modify fun _ h => h) fun _ => Act.keeps_pure _
  have htake (path key : Path) (wait : Seconds) :
      (Gate.take path key wait).Keeps fun w => P w.files := by
    refine .optional (Act.keeps_throw _) (Act.keeps_get.bind fun w => ?_)
    cases w.gate.isHeld key with
    | true =>
      simp only [if_true]
      exact Act.Keeps.bind (Act.keeps_modify fun _ h => h) fun _ => Act.keeps_throw _
    | false => exact Act.keeps_modify fun _ h => h
  exact ActOn.keeps_get.bind fun run => ActOn.Keeps.bind (ActOn.keepsWorld_lift
    ((hlock _).bind fun key => (htake _ key _).bind fun _ => Act.keeps_pure _)) fun _ =>
      ActOn.keepsWorld_modify _

private theorem keepsFiles_launchTool (request : ScanRequest) :
    (launchTool request).KeepsWorld fun w => P w.files := by
  refine ActOn.keeps_get.bind fun run => ActOn.Keeps.bind (ActOn.keepsWorld_lift fun w h => ?_)
    fun _ => ActOn.keepsWorld_modify _
  rw [Session.files_launch]
  exact h

variable (hP : FileSystem.IsStable P)

include hP

private theorem keepsFiles_resetReports : resetReports.KeepsWorld fun w => P w.files := by
  have hreset (path : Path) : (Report.reset path).Keeps fun w => P w.files :=
    Report.keepsFiles_reset (fun _ _ h => hP.unlink h) fun _ h => hP.removeTree h path.text
  refine ActOn.keeps_get.bind fun run => (ActOn.keepsWorld_lift (hreset _)).bind fun resetOk =>
    ActOn.Keeps.bind (ActOn.keepsWorld_modify _) fun _ => ?_
  split
  · exact keepsWorld_log hP.lasts _ _
  · exact ActOn.keeps_pure _

private theorem keepsFiles_start (url revision subdir : Option Text) :
    (start url revision subdir).KeepsWorld fun w => P w.files := by
  have hprepare (request : ScanRequest) : (prepare request).KeepsWorld fun w => P w.files :=
    keepsFiles_claim.bind fun _ => ActOn.Keeps.bind (ActOn.keepsWorld_modify _) fun _ =>
      (keepsFiles_resetReports hP).bind fun _ => ActOn.Keeps.bind (ActOn.keepsWorld_modify _) fun _ =>
        keepsFiles_launchTool request
  refine ActOn.Keeps.bind (ActOn.keepsWorld_modify _) fun _ =>
    ActOn.Keeps.bind (ActOn.keepsWorld_modify _) fun _ =>
      ((hprepare _).onFailure ?_).bind fun _ => keepsWorld_log hP.lasts _ _
  exact ActOn.Keeps.bind (ActOn.keepsWorld_modify _) fun _ => keepsWorld_release hP.lasts

end Run

/-- The files that an operation brings in from outside have the property too. -/
def Operation.Brings (operation : Operation) (P : FileSystem → Prop) : Prop :=
  ∀ files faults, operation = .disturb files faults → P files

namespace System

/-- Every operation keeps what single steps of work on the files keep, as long as others keep it. -/
theorem files_perform (hP : FileSystem.IsStable P) {s : System} (h : P s.world.files)
    {operation : Operation} (hbrings : operation.Brings P) :
    P (s.perform operation).2.world.files := by
  cases operation with
  | start config url revision subdir =>
    exact Run.keepsFiles_start hP url revision subdir { config } s.world h
  | openBody run =>
    simp only [perform]
    split <;> exact h
  | advance body => exact world_onBody (fun w => P w.files) h body (Body.keepsWorld_next hP.lasts)
  | closeBody body =>
    exact world_onBody (fun w => P w.files) h body (Body.keepsWorld_close hP.lasts)
  | close run => exact world_onRun (fun w => P w.files) h run (Run.keepsWorld_close hP.lasts)
  | expire run => exact world_onRun (fun w => P w.files) h run (Run.keepsWorld_expire hP.lasts)
  | disturb files faults => exact hbrings files faults rfl

theorem files_after (hP : FileSystem.IsStable P) {s : System} (h : P s.world.files)
    {operations : List Operation} (hbrings : ∀ operation ∈ operations, operation.Brings P) :
    P (s.after operations).world.files := by
  induction operations generalizing s with
  | nil => exact h
  | cons operation rest ih =>
    have hfirst := files_perform hP h (hbrings operation (.head rest))
    exact ih hfirst fun other hother => hbrings other (.tail operation hother)

end System

end ScanLauncher
