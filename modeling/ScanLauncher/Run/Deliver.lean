import ScanLauncher.Run.Body
import ScanLauncher.Stream

/-!
A run delivered to a sink as a whole.
-/
namespace ScanLauncher.Run

/-- Gives up a body that was left behind. Nobody is told if that fails. -/
def abandonBody : ActOn (Forwarding Body) Unit := do
  let _ ← (Forwarding.onProducer Body.close).attempt

/-- Forwards the body of a run to its end. If the sink fails, the body is given up at once. -/
def forwardBody : ActOn (Forwarding Body) Unit := do
  let bound ← Forwarding.onProducer Body.bound
  let _ ← (Forwarding.forward Body.next bound).onFailure abandonBody

/-- Forwards a started run's body to a sink and gives the outcome. -/
def streamTo : ActOn (Forwarding Run) Outcome := do
  forwardBody.part (fun f => ⟨{ run := f.producer }, f.sink⟩) fun _ f => ⟨f.producer.run, f.sink⟩
  match (← get).producer.outcome with
  | some outcome => return outcome
  | none => throw (.misuse .notStarted)

/-- Starts a run and forwards its body to a sink. -/
def deliver (url revision subdir : Option Text) : ActOn (Forwarding Run) Outcome := do
  Forwarding.onProducer (start url revision subdir)
  streamTo

end ScanLauncher.Run
