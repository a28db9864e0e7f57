import ScanLauncher.Proofs.Process.Producing
import ScanLauncher.Proofs.Run.BodyEnd
import ScanLauncher.Proofs.Run.Starting

namespace ScanLauncher

/-- An action keeps a property of its object, whether it fails or not. -/
def ActOn.KeepsObject {σ α : Type} (act : ActOn σ α) (P : σ → Prop) : Prop :=
  act.Keeps fun object _ => P object

theorem ActOn.keepsObject_lift {σ α : Type} {P : σ → Prop} (act : Act α) :
    (lift act : ActOn σ α).KeepsObject P := fun _ _ h => h

/-- It is enough to look at where an action that settles leaves its object. -/
theorem ActOn.keepsObject_of_settles {σ α : Type} {act : ActOn σ α} {value : σ → α} {after : σ → σ}
    {P : σ → Prop} (hact : ∀ object, act.Settles object (value object) (after object))
    (hafter : ∀ object, P object → P (after object)) : act.KeepsObject P := by
  intro object w h
  obtain ⟨w', heq, _⟩ := hact object w
  rw [heq]
  exact hafter object h

namespace Session

/-- A session without a limit has no timer, and has not timed out. -/
structure IsUnlimited (session : Session) : Prop where
  timer : session.timer = .absent
  isTimedOut : session.isTimedOut = false

private theorem unlimited_close : close.KeepsObject IsUnlimited := by
  intro session w ⟨htimer, htimed⟩
  obtain ⟨w', hclose, _⟩ := session.close_ends w
  rw [hclose]
  unfold shut
  split <;> exact ⟨by simp [terminated, streamClosed, htimer, Timer.cancel], htimed⟩

private theorem unlimited_closeReader : closeReader.KeepsObject IsUnlimited := by
  refine ActOn.keepsObject_of_settles closeReader_settles fun session ⟨htimer, htimed⟩ => ?_
  unfold readerClosed
  cases session.reader <;> exact ⟨htimer, htimed⟩

end Session

namespace Run

/-- If the configuration of a run sets no limit, then none of its sessions has a timer or has timed
out, and the outcome does not say that it has. -/
structure KeepsTime (run : Run) : Prop where
  sessions : run.config.tool.timeout.isZero = true → ∀ session ∈ run.sessions, session.IsUnlimited
  outcome : run.config.tool.timeout.isZero = true → ∀ outcome, run.outcome = some outcome →
    outcome.timedOut = false

theorem keepsTime_enter (state : RunState) : (enter state).KeepsObject KeepsTime :=
  fun _ _ ⟨hsessions, houtcome⟩ => ⟨hsessions, houtcome⟩

theorem keepsTime_onSession {α : Type} (index : Nat) {act : ActOn Session α}
    (hact : act.KeepsObject Session.IsUnlimited) : (onSession index act).KeepsObject KeepsTime := by
  intro run w h
  cases hsession : run.sessions[index]? with
  | none =>
    rw [onSession_none hsession]
    exact h
  | some session =>
    rw [onSession_apply session hsession]
    refine ⟨fun hzero other hother => ?_, h.outcome⟩
    rcases List.mem_or_eq_of_mem_set hother with hold | rfl
    · exact h.sessions hzero other hold
    · exact hact session w (h.sessions hzero session (List.mem_of_getElem? hsession))

theorem keepsTime_release : release.KeepsObject KeepsTime := by
  refine ActOn.keeps_get.bind fun run => ?_
  split
  · exact ActOn.keeps_pure _
  · refine ActOn.Keeps.bind (ActOn.keepsObject_lift _) fun _ => ?_
    exact fun _ _ ⟨hsessions, houtcome⟩ => ⟨hsessions, houtcome⟩

theorem keepsTime_close : close.KeepsObject KeepsTime := by
  have hstop (run : Run) : (if run.session?.isSome then do onSession run.current Session.close; release
      else release : ActOn Run Unit).KeepsObject KeepsTime :=
    .optional (keepsTime_onSession _ Session.unlimited_close) keepsTime_release
  intro run w h
  by_cases hclosed : run.isClosed = true
  · simpa [close, hclosed] using h
  · obtain ⟨w', _, hclose⟩ := close_eq (eq_false_of_ne_true hclosed) w
    rw [hclose]
    exact hstop run _ w' ⟨h.sessions, h.outcome⟩

end Run

namespace Body

variable {α : Type}

theorem keepsTime_onRun {act : ActOn Run α} (hact : act.KeepsObject Run.KeepsTime) :
    (onRun act).KeepsObject (·.run.KeepsTime) := fun body w h => hact body.run w h

theorem keepsTime_enter (stage : BodyStage) : (enter stage).KeepsObject (·.run.KeepsTime) :=
  fun _ _ h => h

theorem keepsTime_finish : finish.KeepsObject (·.run.KeepsTime) :=
  (keepsTime_enter _).bind fun _ => keepsTime_onRun Run.keepsTime_close

theorem keepsTime_close : close.KeepsObject (·.run.KeepsTime) := by
  refine ActOn.keeps_get.bind fun body => ?_
  cases body.stage with
  | fresh | finished => exact keepsTime_enter _
  | chunk session =>
    exact (keepsTime_onRun (Run.keepsTime_onSession session Session.unlimited_closeReader)).bind
      fun _ => keepsTime_finish
  | opened | status | closed | sentinel | report => exact keepsTime_finish

end Body

end ScanLauncher
