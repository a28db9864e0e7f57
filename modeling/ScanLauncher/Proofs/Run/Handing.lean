import ScanLauncher.Proofs.Run.Bound
import ScanLauncher.Proofs.Run.Grammar
import ScanLauncher.Proofs.Stream
import ScanLauncher.Run.Deliver

namespace ScanLauncher

/-- The items that were taken from a body that has not ended are those that it hands out. -/
theorem Body.hands_take {n : Nat} {body : Body} {w : World} (hended : (take n body w).ended = none) :
    Hands next body w (take n body w).items (take n body w).body (take n body w).world := by
  induction n generalizing body w with
  | zero => exact .nil body w
  | succ n ih =>
    rcases hnext : next body w with ⟨⟨failure | _ | item, body'⟩, w'⟩
    · simp [take, hnext] at hended
    · simp [take, hnext] at hended
    · simp only [take, hnext] at hended ⊢
      exact .cons hnext (ih hended)

/-- A body hands out some items and comes to its end, which leaves the run done. -/
structure Body.Completes (body : Body) (w : World) (items : List (List UInt8)) (outcome : Outcome)
    (last : Run) (w' : World) : Prop where
  hands : ∃ before v, Hands next body w items before v ∧
    next before v = ((.ok none, ⟨last, .finished⟩), w')
  isDone : last.state = .done
  isClosed : last.isClosed = true
  outcome_eq : last.outcome = some outcome

namespace Transcript

variable {run : Run} {w : World} {t : Transcript run w}

/-- A body that is asked to the end hands out the whole transcript, and is then at its end. -/
theorem exists_hands {first : Run} {gate : Gate}
    (hheld : ∀ key, first.lock = some key → gate.isHeld key = true)
    (haccounted : Body.Accounted first gate { run } w) :
    ∃ before v last w', Hands Body.next { run } w t.items before v ∧
      t.At t.items.length before v ∧ Body.Accounted first gate before v ∧
      Body.next before v = ((t.ending.map fun _ => none, ⟨last.closed, .finished⟩), w') ∧
      t.Ends last := by
  obtain ⟨_, hitems, hended, hat, haccounted'⟩ | ⟨hlt, _⟩ :=
    take_of_at hheld (t := t) .fresh haccounted t.items.length
  · have hhands := Body.hands_take hended
    rw [List.drop_zero, List.take_length] at hitems
    rw [hitems] at hhands
    rw [Nat.zero_add] at hat
    obtain ⟨_, _, _, _, hitem, _⟩ | ⟨_, last, w', hnext, hends⟩ := next_step hheld hat haccounted'
    · simp at hitem
    · exact ⟨_, _, last, w', hhands, hat, haccounted', hnext, hends⟩
  · omega

/-- If the body ended well then the run is done, and it is known how the script ended. -/
theorem Ends.completed {last : Run} (hends : t.Ends last) (hending : t.ending = .ok ()) :
    last.closed.state = .done ∧ ∃ outcome, last.closed.outcome = some outcome := by
  have hknown := hends.exitStatus
  rw [exitStatusAt_length (output_of_ending hending)] at hknown
  refine ⟨by rw [hends.state_closed, hending], ?_⟩
  obtain ⟨outcome, houtcome, _⟩ := Option.bind_eq_some_iff.mp hknown
  exact ⟨outcome, by simp [Run.closed, hends.isOpen, houtcome]⟩

end Transcript

namespace Run

/-- A run that completes within the bound is forwarded to its sink as a whole. -/
theorem streamTo_of_completes {run last : Run} {w w' : World} {items : List (List UInt8)}
    {outcome : Outcome} (h : Body.Completes { run } w items outcome last w')
    (hbound : items.length < Body.itemBound { run } w) :
    ∃ message, streamTo ⟨run, {}⟩ w =
      ((.ok outcome, ⟨last, (({} : Sink).received items).askedOnce⟩),
        w'.note .debug .stream message) := by
  obtain ⟨before, v, hhands, hend⟩ := h.hands
  obtain ⟨message, hforward⟩ := Forwarding.forward_of_hands
    (show ({} : Sink).NeverFails from ⟨rfl, rfl⟩) hhands hend hbound
  have hbody : forwardBody ⟨{ run }, {}⟩ w =
      ((.ok (), ⟨⟨last, .finished⟩, (({} : Sink).received items).askedOnce⟩),
        w'.note .debug .stream message) := by
    have hlimit : (Forwarding.onProducer Body.bound : ActOn (Forwarding Body) Nat) ⟨{ run }, {}⟩ w =
        ((.ok (Body.itemBound { run } w), ⟨{ run }, {}⟩), w) := rfl
    simp [forwardBody, hlimit, ActOn.onFailure_apply, hforward, Except.map]
  exact ⟨message, by simp [streamTo, hbody, h.outcome_eq]⟩

end Run

end ScanLauncher
