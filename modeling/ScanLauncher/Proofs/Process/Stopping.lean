import ScanLauncher.Process.Session
import ScanLauncher.Proofs.Action

namespace ScanLauncher

namespace Child

/-- The error that comes of a signal to the child with its group, if one does: the group cannot be
signalled, for another reason than that it is gone, and neither can the child that still runs. -/
def refusal? (child : Child) (s : Signal) : Option Errno :=
  match child.spec.groupError.of s with
  | none => none
  | some e => if e = .noProcess then none else (child.aloneError? s).filter (· != .noProcess)

/-- The child after a signal to its group. A group that is gone takes none; where the group cannot
be signalled for another reason the signal goes to the child alone. -/
def signalled (child : Child) (s : Signal) : Child :=
  match child.spec.groupError.of s with
  | none => child.deliver s child.reachGroup
  | some e =>
    if e = .noProcess || (child.aloneError? s).isSome then child
    else child.deliver s child.reachAlone

/-- What an observer sees of a signal to the child's group: the attempt and, if it fails for another
reason than that the group is gone, the signal to the child alone. -/
def attempts (child : Child) (s : Signal) : List TraceEvent :=
  .signalGroup child.pid s ::
    match child.spec.groupError.of s with
    | none => []
    | some e => if e = .noProcess then [] else [.signalChild s]

/-- The error that stopping the child ends with, if it does: of the request or of force. -/
def stopRefusal? (child : Child) : Option Errno :=
  child.refusal? .terminate <|> (child.signalled .terminate).refusal? .kill

/-- The child after it was forced to end and, unless that failed, waited for if it ran. -/
def forced (child : Child) (isAwaited : Bool) : Child :=
  if isAwaited && (child.refusal? .kill).isNone then (child.signalled .kill).reap
  else child.signalled .kill

/-- The child after it was asked to end and, unless that failed, forced to. -/
def stopped (child : Child) : Child :=
  if (child.refusal? .terminate).isSome then child.signalled .terminate
  else (child.signalled .terminate).forced child.isRunning

/-- What an observer sees of it. -/
def stopAttempts (child : Child) : List TraceEvent :=
  child.attempts .terminate ++ if (child.refusal? .terminate).isSome then [] else child.attempts .kill

theorem isRunning_finish (child : Child) : child.finish.isRunning = false := by
  unfold finish
  split
  · rename_i hrunning
    have hkilled : child.killedBy = none := by
      cases hby : child.killedBy with
      | none => rfl
      | some s => simp [isRunning, poll, hby] at hrunning
    simp [isRunning, poll, hkilled]
  · rename_i hended
    simpa using hended

/-- A signal wakes no child that has ended. -/
theorem isRunning_deliver {child : Child} (s : Signal) (reach : Reach)
    (hended : child.isRunning = false) : (child.deliver s reach).isRunning = false := by
  unfold deliver
  split
  · exact hended
  · split
    · cases hby : child.killedBy <;> simp [isRunning, poll]
    · rw [hended]
      exact hended

theorem isRunning_signalled {child : Child} (s : Signal) (hended : child.isRunning = false) :
    (child.signalled s).isRunning = false := by
  unfold signalled
  split
  · exact isRunning_deliver s _ hended
  · split
    · exact hended
    · exact isRunning_deliver s _ hended

/-- Force ends a child that it reaches. -/
theorem isRunning_deliver_kill (child : Child) {reach : Reach} (hreach : reach ≠ .nobody) :
    (child.deliver .kill reach).isRunning = false := by
  unfold deliver
  cases horder : child.hasEndedInOrder with
  | true => cases hby : child.killedBy <;> simp [isRunning, poll, horder, hby]
  | false =>
    have hnobody : (reach == .nobody) = false := beq_eq_false_iff_ne.mpr hreach
    cases hrunning : child.isRunning with
    | true => simp [hnobody, isRunning, poll]
    | false => simpa [hnobody, isRunning, poll, horder] using hrunning

private theorem reachAlone_ne_nobody {child : Child} (hrunning : child.isRunning = true) :
    child.reachAlone ≠ .nobody := by
  unfold reachAlone
  cases child.spec.holders <;> simp [hrunning]

private theorem reachGroup_ne_nobody (child : Child) : child.reachGroup ≠ .nobody := by
  unfold reachGroup
  split <;> simp

theorem refusal?_of_ended {child : Child} (s : Signal) (hended : child.isRunning = false) :
    child.refusal? s = none := by
  unfold refusal?
  split
  · rfl
  · simp [aloneError?, hended]

/-- Nobody keeps the launcher from stopping a child that has ended. -/
theorem stopRefusal?_of_ended {child : Child} (hended : child.isRunning = false) :
    child.stopRefusal? = none := by
  simp [stopRefusal?, refusal?_of_ended, isRunning_signalled, hended]

/-- The second child differs from the first in nothing but how it has ended. -/
def EndsOnly (child child' : Child) : Prop :=
  child' = { child with
    isAtEnd := child'.isAtEnd
    lost := child'.lost
    killedBy := child'.killedBy
    hasEndedInOrder := child'.hasEndedInOrder }

namespace EndsOnly

variable {child child' child'' : Child}

theorem refl (child : Child) : child.EndsOnly child := rfl

theorem trans (hfirst : child.EndsOnly child') (hsecond : child'.EndsOnly child'') :
    child.EndsOnly child'' := by
  rw [EndsOnly, hsecond, hfirst]

theorem spec_eq (h : child.EndsOnly child') : child'.spec = child.spec := by
  rw [h]

theorem steps_eq (h : child.EndsOnly child') : child'.steps = child.steps := by
  rw [h]

theorem pending_eq (h : child.EndsOnly child') : child'.pending = child.pending := by
  rw [h]

theorem isClosed_eq (h : child.EndsOnly child') : child'.isClosed = child.isClosed := by
  rw [h]

private theorem attempts_eq (h : child.EndsOnly child') (s : Signal) :
    child'.attempts s = child.attempts s := by
  rw [h]
  rfl

end EndsOnly

/-! Signals and waiting change nothing else about a child. -/

theorem endsOnly_deliver (child : Child) (s : Signal) (reach : Reach) :
    child.EndsOnly (child.deliver s reach) := by
  unfold deliver
  split
  · exact .refl child
  · split <;> rfl

theorem endsOnly_signalled (child : Child) (s : Signal) : child.EndsOnly (child.signalled s) := by
  unfold signalled
  split
  · exact child.endsOnly_deliver s _
  · split
    · exact .refl child
    · exact child.endsOnly_deliver s _

theorem endsOnly_finish (child : Child) : child.EndsOnly child.finish := by
  unfold finish
  split <;> rfl

theorem endsOnly_reap (child : Child) : child.EndsOnly child.reap := by
  unfold reap
  split
  · exact child.endsOnly_finish
  · exact .refl child

@[simp] theorem spec_deliver (child : Child) (s : Signal) (reach : Reach) :
    (child.deliver s reach).spec = child.spec :=
  (child.endsOnly_deliver s reach).spec_eq

@[simp] theorem spec_finish (child : Child) : child.finish.spec = child.spec :=
  child.endsOnly_finish.spec_eq

@[simp] theorem steps_deliver (child : Child) (s : Signal) (reach : Reach) :
    (child.deliver s reach).steps = child.steps :=
  (child.endsOnly_deliver s reach).steps_eq

@[simp] theorem steps_finish (child : Child) : child.finish.steps = child.steps :=
  child.endsOnly_finish.steps_eq

@[simp] theorem isClosed_deliver (child : Child) (s : Signal) (reach : Reach) :
    (child.deliver s reach).isClosed = child.isClosed :=
  (child.endsOnly_deliver s reach).isClosed_eq

@[simp] theorem isClosed_finish (child : Child) : child.finish.isClosed = child.isClosed :=
  child.endsOnly_finish.isClosed_eq

private theorem endsOnly_forced (child : Child) (isAwaited : Bool) :
    child.EndsOnly (child.forced isAwaited) := by
  unfold forced
  split
  · exact (child.endsOnly_signalled .kill).trans (endsOnly_reap _)
  · exact child.endsOnly_signalled .kill

theorem endsOnly_stopped (child : Child) : child.EndsOnly child.stopped := by
  unfold stopped
  split
  · exact child.endsOnly_signalled .terminate
  · exact (child.endsOnly_signalled .terminate).trans (endsOnly_forced _ _)

theorem reap_of_ended {child : Child} (hended : child.isRunning = false) :
    child.reap.isRunning = false := by
  unfold reap
  split
  · exact child.isRunning_finish
  · exact hended

/-- A child that is forced to end has ended when it was waited for: force has reached it, or there was
nobody left to be forced. -/
theorem isRunning_reap {child : Child} (hrefusal : child.refusal? .kill = none) :
    (child.signalled .kill).reap.isRunning = false := by
  cases hrunning : child.isRunning with
  | false => exact reap_of_ended (isRunning_signalled _ hrunning)
  | true =>
    have hspec := (child.endsOnly_signalled .kill).spec_eq
    cases hgroup : child.spec.groupError.of .kill with
    | none =>
      refine reap_of_ended ?_
      simpa [signalled, hgroup] using child.isRunning_deliver_kill child.reachGroup_ne_nobody
    | some e =>
      by_cases hgone : e = .noProcess
      · simpa [reap, isGoneFor, hspec, hgroup, hgone] using isRunning_finish _
      · cases halone : child.aloneError? .kill with
        | none =>
          refine reap_of_ended ?_
          simpa [signalled, hgroup, hgone, halone] using
            child.isRunning_deliver_kill (reachAlone_ne_nobody hrunning)
        | some e' =>
          have hmissed : e' = .noProcess := by simpa [refusal?, hgroup, hgone, halone] using hrefusal
          have herror : child.spec.childError.of .kill = some .noProcess := by
            simpa [aloneError?, hrunning, hmissed] using halone
          simpa [reap, isGoneFor, hspec, hgroup, hgone, herror] using isRunning_finish _

/-- A child has ended when it was stopped, unless an error kept the launcher from it: either it had
ended before, and signals wake nothing, or it was forced and waited for. -/
theorem isRunning_stopped {child : Child} (hstops : child.stopRefusal? = none) :
    child.stopped.isRunning = false := by
  obtain ⟨hasked, hforced⟩ : child.refusal? .terminate = none ∧
      (child.signalled .terminate).refusal? .kill = none := by
    simpa [stopRefusal?] using hstops
  simp only [stopped, hasked, Option.isSome_none, Bool.false_eq_true, if_false, forced, hforced,
    Option.isNone_none, Bool.and_true]
  split
  · exact isRunning_reap hforced
  · rename_i hended
    exact isRunning_signalled _ (isRunning_signalled _ (by simpa using hended))

/-- A signal that fails after all leaves a running child as it was. -/
theorem signalled_of_refused {child : Child} {s : Signal} {e : Errno}
    (hrefusal : child.refusal? s = some e) :
    child.signalled s = child ∧ child.isRunning = true := by
  constructor
  · unfold refusal? at hrefusal
    unfold signalled
    cases hgroup : child.spec.groupError.of s with
    | none => simp [hgroup] at hrefusal
    | some _ =>
      cases halone : child.aloneError? s with
      | none => simp [hgroup, halone] at hrefusal
      | some _ => simp
  · cases hrunning : child.isRunning with
    | false => simp [refusal?_of_ended s hrunning] at hrefusal
    | true => rfl

private theorem runs_of_stopRefusal? {child : Child} {e : Errno} (hrefusal : child.stopRefusal? = some e) :
    child.stopped.isRunning = true := by
  unfold stopped
  cases hasked : child.refusal? .terminate with
  | some e' =>
    obtain ⟨hsame, hrunning⟩ := signalled_of_refused hasked
    simpa [hsame] using hrunning
  | none =>
    have hforced : (child.signalled .terminate).refusal? .kill = some e := by
      simpa [stopRefusal?, hasked] using hrefusal
    obtain ⟨hsame, hrunning⟩ := signalled_of_refused hforced
    simpa [forced, hforced, hsame] using hrunning

end Child

/-- The launcher may signal the child: where a signal does not get to its group, a signal to the child
alone fails at most because that is gone. -/
def ProcessSpec.TakesSignals (spec : ProcessSpec) : Prop :=
  ∀ s e, spec.groupError.of s = some e → e ≠ .noProcess →
    ∀ e', spec.childError.of s = some e' → e' = .noProcess

namespace Child

variable {child : Child}

theorem refusal?_of_takesSignals (htakes : child.spec.TakesSignals) (s : Signal) :
    child.refusal? s = none := by
  unfold refusal? aloneError?
  cases hgroup : child.spec.groupError.of s with
  | none => rfl
  | some e =>
    by_cases hgone : e = .noProcess
    · simp [hgone]
    · cases halone : child.spec.childError.of s with
      | none => simp
      | some e' =>
        simp only [htakes s e hgroup hgone e' halone]
        split <;> simp

theorem stopRefusal?_of_takesSignals (htakes : child.spec.TakesSignals) :
    child.stopRefusal? = none := by
  have hasked : (child.signalled .terminate).spec.TakesSignals := by
    rwa [(child.endsOnly_signalled .terminate).spec_eq]
  simp [stopRefusal?, refusal?_of_takesSignals htakes, refusal?_of_takesSignals hasked]

end Child

/-- The timer after it was cancelled. -/
def Timer.cancel : Timer → Timer
  | .live => .cancelled
  | timer => timer

/-- What an observer sees of it. -/
def Timer.cancelEvents : Timer → List TraceEvent
  | .live => [.cancelTimer]
  | _ => []

theorem Timer.cancel_ne_live (timer : Timer) : timer.cancel ≠ .live := by
  cases timer <;> simp [cancel]

namespace Session

/-- The session after its child was stopped. -/
def terminated (session : Session) : Session :=
  { session with timer := session.timer.cancel, child := session.child.stopped }

/-- The session after its pipe was closed. -/
def streamClosed (session : Session) : Session :=
  { session with child := { session.child with isClosed := true } }

/-- Nothing is left of the session: the child has ended, the pipe is closed and the timer cannot
fire. -/
structure Stopped (session : Session) : Prop where
  ended : session.child.isRunning = false
  closed : session.child.isClosed = true
  timer : session.timer ≠ .live

theorem log_emits (level : LogLevel) (message : Session → Text) (session : Session) :
    (log level message).Emits session () session [] :=
  (ActOn.emits_get session).bind (ActOn.emits_log level .process (message session) session)

theorem log_settles (level : LogLevel) (message : Session → Text) (session : Session) :
    (log level message).Settles session () session :=
  (log_emits level message session).settles

theorem cancelTimer_emits (session : Session) :
    cancelTimer.Emits session () { session with timer := session.timer.cancel }
      session.timer.cancelEvents := by
  refine (ActOn.emits_get session).bind ?_
  by_cases hlive : session.timer = .live
  · simp only [hlive, beq_self_eq_true, if_true]
    exact (ActOn.emits_trace _ _).bind (ActOn.emits_modify _ _)
  · have hkept : session.timer.cancel = session.timer ∧ session.timer.cancelEvents = [] := by
      cases htimer : session.timer <;> simp_all [Timer.cancel, Timer.cancelEvents]
    simp only [hkept, beq_iff_eq, hlive, if_false]
    exact ActOn.emits_pure _ _

theorem cancelTimer_settles (session : Session) :
    cancelTimer.Settles session () { session with timer := session.timer.cancel } :=
  (cancelTimer_emits session).settles

/-- What comes of signals that may have failed. -/
def answer : Option Errno → Except Failure Unit
  | none => .ok ()
  | some e => .error (.os (.numbered e none))

private theorem signalChild_ends (s : Signal) {session : Session} {e : Errno} (hgone : e ≠ .noProcess)
    (hgroup : session.child.spec.groupError.of s = some e) :
    (signalChild s).Ends session (answer (session.child.refusal? s))
      { session with child := session.child.signalled s } [.signalChild s] := by
  refine (ActOn.emits_trace _ _).bind_unseen ((ActOn.emits_get session).bind_unseen ?_)
  cases halone : session.child.aloneError? s with
  | none =>
    simp only [Child.refusal?, Child.signalled, hgroup, hgone, halone]
    exact ActOn.emits_modify _ _
  | some e' =>
    by_cases hmissed : e' = .noProcess
    · simp only [Child.refusal?, Child.signalled, hgroup, hgone, halone, hmissed]
      exact ActOn.emits_pure _ _
    · simp only [Child.refusal?, Child.signalled, hgroup, hgone, halone, bne_iff_ne, ne_eq, hmissed,
        not_false_eq_true, if_true, if_false, Option.filter]
      exact ActOn.ends_throw _ _

theorem signal_ends (s : Signal) (session : Session) :
    (signal s).Ends session (answer (session.child.refusal? s))
      { session with child := session.child.signalled s } (session.child.attempts s) := by
  refine (ActOn.emits_get session).bind ((ActOn.emits_trace _ _).bind ?_)
  cases hgroup : session.child.spec.groupError.of s with
  | none =>
    simp only [Child.refusal?, Child.signalled, hgroup]
    exact ActOn.emits_modify _ _
  | some e =>
    by_cases hgone : e = .noProcess
    · simp only [Child.refusal?, Child.signalled, hgroup, hgone]
      exact ActOn.emits_pure _ _
    · simp only [hgone, bne_iff_ne, ne_eq, not_false_eq_true, if_true, if_false]
      exact (log_emits _ _ session).bind (signalChild_ends s hgone hgroup)

private theorem force_ends (session : Session) (isAwaited : Bool) :
    (if isAwaited then do signal .kill; modifyChild Child.reap else signal .kill :
        ActOn Session Unit).Ends session (answer (session.child.refusal? .kill))
      { session with child := session.child.forced isAwaited } (session.child.attempts .kill) := by
  have hkill := signal_ends .kill session
  unfold Child.forced
  cases isAwaited with
  | false => exact hkill
  | true =>
    cases hrefusal : session.child.refusal? .kill with
    | none =>
      rw [hrefusal] at hkill
      exact ActOn.Emits.bind_unseen hkill (ActOn.emits_modify _ _)
    | some e =>
      rw [hrefusal] at hkill
      exact ActOn.Ends.bind_of_error hkill

/-- Stopping a child comes to the error that keeps the launcher from it, if there is one. -/
theorem terminate_ends (session : Session) :
    terminate.Ends session (answer session.child.stopRefusal?) session.terminated
      (session.timer.cancelEvents ++ session.child.stopAttempts) := by
  let asking : Session := { session with timer := session.timer.cancel }
  let asked : Session := { asking with child := session.child.signalled .terminate }
  have hask := signal_ends .terminate asking
  refine (cancelTimer_emits session).bind ((ActOn.emits_get asking).bind_seen
    (ActOn.Emits.optional (log_emits _ _ asking) ?_))
  cases hrefusal : session.child.refusal? .terminate with
  | some e =>
    have hall : session.child.stopRefusal? = some e ∧
        session.child.stopped = session.child.signalled .terminate ∧
        session.child.stopAttempts = session.child.attempts .terminate := by
      simp [Child.stopRefusal?, Child.stopped, Child.stopAttempts, hrefusal]
    rw [terminated, hall.1, hall.2.1, hall.2.2]
    have hasking : (signal .terminate).Ends asking (answer (some e)) asked _ := hrefusal ▸ hask
    exact ActOn.Ends.bind_of_error hasking
  | none =>
    have hall : session.child.stopRefusal? = asked.child.refusal? .kill ∧
        session.child.stopped = asked.child.forced session.child.isRunning ∧
        session.child.stopAttempts =
          session.child.attempts .terminate ++ session.child.attempts .kill := by
      simp [Child.stopRefusal?, Child.stopped, Child.stopAttempts, hrefusal, asked]
    have hforce := force_ends asked session.child.isRunning
    rw [(session.child.endsOnly_signalled .terminate).attempts_eq] at hforce
    rw [terminated, hall.1, hall.2.1, hall.2.2]
    have hasking : (signal .terminate).Emits asking () asked _ := hrefusal ▸ hask
    refine hasking.bind ?_
    by_cases hrunning : session.child.isRunning = true
    · have hruns : asking.child.isRunning = true := hrunning
      simp only [hrunning, if_true] at hforce
      simp only [hruns, hrunning, if_true]
      exact (ActOn.emits_get asked).bind_seen (ActOn.Emits.optional (log_emits _ _ asked) hforce)
    · have hended : asking.child.isRunning = false := by simpa using hrunning
      simp only [hrunning] at hforce
      simp only [hended, hrunning]
      exact hforce

/-- What an observer sees of a pipe that is closed, if it was open. -/
def closeEvents (session : Session) : List TraceEvent :=
  if session.child.isClosed then [] else [.closeOutput]

theorem closeStream_emits (session : Session) :
    closeStream.Emits session () session.streamClosed session.closeEvents := by
  by_cases hclosed : session.child.isClosed = true
  · have hsame : session.streamClosed = session := by
      simp only [streamClosed, ← hclosed]
    have hunseen : session.closeEvents = [] := if_pos hclosed
    rw [hsame, hunseen]
    refine (ActOn.emits_get session).bind_unseen ?_
    simp only [hclosed, Bool.not_true, Bool.false_eq_true, if_false]
    exact ActOn.emits_pure _ _
  · have hseen : session.closeEvents = [.closeOutput] := if_neg hclosed
    rw [hseen]
    refine (ActOn.emits_get session).bind ?_
    simp only [hclosed, Bool.not_false, if_true]
    exact (ActOn.emits_trace _ _).bind_unseen (ActOn.emits_modify _ _)

theorem closeStream_settles (session : Session) :
    closeStream.Settles session () session.streamClosed :=
  (closeStream_emits session).settles

/-- The session after it was closed. Its pipe is, unless an error kept the launcher from stopping the
child. -/
def shut (session : Session) : Session :=
  if session.child.stopRefusal?.isSome then session.terminated else session.terminated.streamClosed

theorem spec_shut (session : Session) : session.shut.child.spec = session.child.spec := by
  unfold shut
  split <;> exact session.child.endsOnly_stopped.spec_eq

theorem close_ends (session : Session) :
    close.Ends session (answer session.child.stopRefusal?) session.shut
      (session.timer.cancelEvents ++ session.child.stopAttempts ++
        if session.child.stopRefusal?.isSome then [] else session.closeEvents) := by
  have hstop := terminate_ends session
  unfold shut
  cases hrefusal : session.child.stopRefusal? with
  | some e =>
    rw [hrefusal] at hstop
    have hfailed : close.Ends session (answer (some e)) session.terminated _ :=
      ActOn.Ends.bind_of_error hstop
    simpa using hfailed
  | none =>
    have hopen : session.terminated.closeEvents = session.closeEvents := by
      simp [closeEvents, terminated, session.child.endsOnly_stopped.isClosed_eq]
    rw [hrefusal] at hstop
    have hclosing := closeStream_emits session.terminated
    rw [hopen] at hclosing
    have hstopped : terminate.Emits session () session.terminated _ := hstop
    exact hstopped.bind hclosing

/-- Whatever state a session is in, closing it leaves nothing of it, unless an error kept the launcher
from that. -/
theorem stopped_shut {session : Session} (hstops : session.child.stopRefusal? = none) :
    session.shut.Stopped := by
  simp only [shut, hstops, Option.isSome_none, Bool.false_eq_true, if_false]
  exact ⟨Child.isRunning_stopped hstops, rfl, session.timer.cancel_ne_live⟩

/-- The second session is the first after it was stopped: its child has ended, its timer cannot fire,
and what was known of its exit is known as before. -/
structure Halted (session after : Session) : Prop where
  ended : after.child.isRunning = false
  timer : after.timer ≠ .live
  exitStatus : after.exitStatus = session.exitStatus

theorem Halted.shut {session : Session} (hstops : session.child.stopRefusal? = none) :
    session.Halted session.shut := by
  have hstopped := stopped_shut hstops
  refine ⟨hstopped.ended, hstopped.timer, ?_⟩
  unfold Session.shut
  split <;> rfl

/-- The second session is the first after the launcher failed to stop its child: that runs on, with
its pipe as it was, and the timer cannot fire. -/
structure LeftRunning (session after : Session) : Prop where
  runs : after.child.isRunning = true
  isClosed : after.child.isClosed = session.child.isClosed
  timer : after.timer ≠ .live
  exitStatus : after.exitStatus = session.exitStatus

theorem LeftRunning.terminated {session : Session} {e : Errno}
    (hrefusal : session.child.stopRefusal? = some e) : session.LeftRunning session.terminated :=
  ⟨Child.runs_of_stopRefusal? hrefusal, session.child.endsOnly_stopped.isClosed_eq,
    session.timer.cancel_ne_live, rfl⟩

end Session

end ScanLauncher
