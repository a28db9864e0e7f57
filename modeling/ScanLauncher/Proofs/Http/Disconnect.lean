import ScanLauncher.Http.Endpoint
import ScanLauncher.Proofs.Run.BodyEnd
import ScanLauncher.Proofs.Run.Grammar

namespace ScanLauncher

/-- Giving a body up succeeds at every stage, if the launcher may signal the child of its run. Where it
does not succeed the run was closed. -/
theorem Body.exists_close {first : Run} {gate : Gate}
    (hheld : ∀ key, first.lock = some key → gate.isHeld key = true) {body : Body} {w : World}
    (h : Accounted first gate body w) :
    ∃ result body' w', close body w = ((result, body'), w') ∧ Accounted first gate body' w' ∧
      (first.TakesSignals → result = .ok ()) ∧
      ∀ failure, result = .error failure → body'.run.isClosed = true := by
  have hkept := keeps_close hheld body w h
  by_cases hstarted : body.stage.isStarted = true
  · obtain ⟨run, w', hclose, _⟩ := close_of_started hheld h hstarted
    rw [hclose] at hkept
    refine ⟨_, _, w', hclose, hkept, fun htakes => ?_, fun _ _ => run.isClosed_closed⟩
    exact Run.closing_of_takesSignals
      (Run.takesSignals_closed.mp (hkept.1.takesSignals.mpr htakes))
  · obtain ⟨run, stage⟩ := body
    cases stage with
    | fresh | finished => exact ⟨.ok (), ⟨run, .finished⟩, w, rfl, hkept, fun _ => rfl, nofun⟩
    | opened | chunk session | status | closed | sentinel | report rest => exact absurd rfl hstarted

namespace Http

namespace Response

/-- A run's body as a response, with no item made: the body was not begun. -/
def unread (run : Run) : Response :=
  { status := 200, contentType := htmlType, isStream := true, payload := .live { run } }

/-- The response to a scan that was started: before an item was made, or with the first item made
while the request is handled. -/
inductive Serves (run : Run) (w : World) : Response → World → Prop
  | unread : Serves run w (unread run) w
  | streamed {response : Response} {w' : World} (hstream : stream run w = (.ok response, w')) :
      Serves run w response w'

/-- At most `n` items are taken, and then the response is closed, also if an item could not be
made. -/
def leave (n : Nat) : ActOn Response Unit := do
  let _ ← (take n).attempt
  close

section Accounted

variable {first : Run} {gate : Gate}

/-- The response is a body whose run keeps its accounts. -/
def Accounted (first : Run) (gate : Gate) (response : Response) (w : World) : Prop :=
  ∃ body, response.payload = .live body ∧ Body.Accounted first gate body w

variable (hheld : ∀ key, first.lock = some key → gate.isHeld key = true)

include hheld

private theorem keeps_nextItem : nextItem.Keeps (Accounted first gate) := by
  rintro response w ⟨body, hpayload, hbody⟩
  have hkept := Body.keeps_next hheld body w hbody
  simp only [nextItem, ActOn.bind_apply, ActOn.get_apply, hpayload, ActOn.part_apply]
  exact ⟨_, rfl, hkept⟩

theorem keeps_next : next.Keeps (Accounted first gate) := by
  refine ActOn.keeps_get.bind fun response => ?_
  cases response.ready with
  | nil => exact keeps_nextItem hheld
  | cons item rest =>
    refine ActOn.Keeps.bind (ActOn.keeps_modify ?_) fun _ => ActOn.keeps_pure _
    exact fun _ _ h => h

/-- Closing a response closes the run behind it, whether its body was begun or not. -/
theorem close_apply {response : Response} {w : World} (h : Accounted first gate response w) :
    ∃ result body w', close response w = ((result, { response with payload := .live body }), w') ∧
      first.Accounted gate body.run w' ∧ body.run.isClosed = true ∧
      (first.TakesSignals → result = .ok ()) := by
  obtain ⟨body, hpayload, hbody⟩ := h
  obtain ⟨result, body₁, w₁, hgiven, hbody₁, hgives, hfailed⟩ := Body.exists_close hheld hbody
  cases result with
  | error failure =>
    refine ⟨.error failure, body₁, w₁, ?_, hbody₁.1, hfailed failure rfl, hgives⟩
    simp [close, hpayload, hgiven]
  | ok _ =>
    obtain ⟨w₂, hclose, _⟩ := Run.close_apply hbody₁.1.sound (hbody₁.1.isHeld hheld)
    have hkept := Run.keeps_close hheld body₁.run w₁ hbody₁.1
    rw [hclose] at hkept
    refine ⟨body₁.run.closing, { body₁ with run := body₁.run.closed }, w₂, ?_, hkept,
      body₁.run.isClosed_closed, fun htakes => ?_⟩
    · simp [close, hpayload, hgiven, Body.onRun, hclose]
    · exact Run.closing_of_takesSignals (hbody₁.1.takesSignals.mpr htakes)

end Accounted

/-- The response of a run that was started, with the opening mark made. -/
def streamed (run : Run) : Response :=
  { unread run with
    ready := [Body.openMark]
    payload := .live ⟨{ run with state := .streaming }, .opened⟩ }

/-- Whoever serves a run has the run's accounts to keep. -/
theorem Serves.accounted {run : Run} {w w' : World} {response : Response}
    (h : Serves run w response w') (hsound : run.Sound)
    (hheld : ∀ key, run.lock = some key → w.gate.isHeld key = true) :
    Accounted run w.gate response w' := by
  have hfresh : Body.Accounted run w.gate { run } w := ⟨.refl hsound w, trivial⟩
  cases h with
  | unread => exact ⟨{ run }, rfl, hfresh⟩
  | streamed hstream =>
    have hkept := Body.keeps_next hheld { run } w hfresh
    rcases hnext : Body.next { run } w with ⟨⟨failure | item, body⟩, w₁⟩ <;>
      simp only [stream, Act.bind_apply, ActOn.runOn, hnext, Act.ofExcept, id_eq, Act.pure_apply,
        Act.throw_apply] at hstream
    · cases hstream
    · rw [hnext] at hkept
      cases hstream
      exact ⟨body, rfl, hkept⟩

end Response

namespace Endpoint

end Endpoint

end Http

end ScanLauncher
