import ScanLauncher.Proofs.Cli.Delivering
import ScanLauncher.Proofs.Run.BodyStep
import ScanLauncher.Proofs.Run.Framing
import ScanLauncher.Proofs.Run.Launching
import ScanLauncher.Proofs.Run.SinkFailure

namespace ScanLauncher

namespace Transcript

variable {run : Run} {w : World} (t : Transcript run w)

/-- Whether the script ended by itself and well. -/
def isSuccess : Bool := t.exitStatus == 0 && !t.last.isTimedOut

/-- The item with the status line. -/
def statusItem : List UInt8 := Utf8.encode t.statusText.toList

variable {t}

private theorem isSuccess_of_end {first : Run} {gate : Gate}
    (hheld : ∀ key, first.lock = some key → gate.isHeld key = true) {n : Nat} {body : Body}
    {v v' : World} {last : Run} (hat : t.At n body v) (haccounted : Body.Accounted first gate body v)
    (hnext : Body.next body v = ((.ok none, ⟨last, .finished⟩), v')) :
    ∃ outcome, last.outcome = some outcome ∧ outcome.isSuccess = t.isSuccess := by
  -- The outcome of the run was set along with the status line, before any stage that can be the last.
  have hstarted : body.run.IsStarted := by
    cases hat with
    | fresh => exact ⟨by simp [t.sessions_eq], by simp [t.outcome_eq]⟩
    | opened => exact ⟨by simp [t.sessions_eq], by simp [t.outcome_eq]⟩
    | chunk => exact ⟨rfl, by simp [Run.streaming, t.outcome_eq]⟩
    | status | closed | sentinel | report => exact ⟨rfl, rfl⟩
  have hstep := Body.step_next hheld haccounted hstarted
  rw [hnext] at hstep
  obtain ⟨ended, rfl, _⟩ | ⟨listed, hlists, hlast⟩ := hstep.of_end
  · cases hat
  · obtain rfl := (Body.mk.inj hlast).1
    cases hlists with
    | now hlist =>
      cases hat with
      | sentinel => exact ⟨_, Run.outcome_closed _, rfl⟩
    | before =>
      cases hat with
      | report => exact ⟨_, Run.outcome_closed _, rfl⟩

/-- Streaming a run writes the whole transcript. It gives the outcome or fails as the body ends, and
leaves the run closed; its lock is given back if closing it succeeded. -/
theorem streamTo_ended (t : Transcript run w) {first : Run} {gate : Gate}
    (hheld : ∀ key, first.lock = some key → gate.isHeld key = true)
    (haccounted : Body.Accounted first gate { run } w) (hunread : t.session.exitStatus = none) :
    ∃ result last sink v, Run.streamTo ⟨run, {}⟩ w = ((result, ⟨last, sink⟩), v) ∧
      sink.written = t.items.flatten ∧ last.isClosed = true ∧ first.Accounted gate last v ∧
      ((run.streaming t.last).closing = .ok () → last.lock = none) ∧
      (t.ending = .ok () → ∃ outcome, result = .ok outcome ∧ outcome.isSuccess = t.isSuccess) ∧
      ∀ failure, t.ending = .error failure → result = .error failure := by
  obtain ⟨before, v, last, w', hhands, hat, hbefore, hnext, hends⟩ := t.exists_hands hheld haccounted
  have hafter := (Body.keeps_next hheld before v hbefore)
  have hbound := t.length_items_lt hunread
  have hreleased (hclosing : (run.streaming t.last).closing = .ok ()) : last.closed.lock = none :=
    Run.lock_closed_of_closing hends.isOpen (hends.closing.trans hclosing)
  rw [hnext] at hafter
  cases hending : t.ending with
  | ok _ =>
    rw [hending] at hnext
    obtain ⟨hstate, outcome, houtcome⟩ := hends.completed hending
    obtain ⟨noted, hnoted, hsuccess⟩ := isSuccess_of_end hheld hat hbefore hnext
    obtain rfl : outcome = noted := Option.some.inj (houtcome.symm.trans hnoted)
    obtain ⟨message, hstream⟩ := Run.streamTo_of_completes
      ⟨⟨before, v, hhands, hnext⟩, hstate, last.isClosed_closed, houtcome⟩ hbound
    exact ⟨_, _, _, _, hstream, Sink.written_received_askedOnce _, last.isClosed_closed,
      hafter.1.of_sameGate rfl, hreleased, fun _ => ⟨outcome, rfl, hsuccess⟩, nofun⟩
  | error failure =>
    rw [hending] at hnext
    have hforward := Forwarding.forward_of_failure
      (show ({} : Sink).NeverFails from ⟨rfl, rfl⟩) hhands hnext hbound
    have hstream := Run.streamTo_of_failure hforward rfl
    exact ⟨_, _, _, _, hstream, Sink.written_received_askedOnce _, last.isClosed_closed, hafter.1,
      hreleased, nofun, fun other hother => congrArg _ (Except.error.inj hother)⟩

end Transcript

namespace Cli

section Scan

variable {config : Config} {url revision subdir : Option Text} {terminal terminal' : Terminal}
  {w w' w₁ : World} {code : ExitCode} {run : Run}

/-- The run of a start that succeeded, with a transcript that tells what its body hands out. -/
structure Streams (config : Config) (url revision subdir : Option Text) (w : World) {run : Run}
    {w₁ : World} (t : Transcript run w₁) : Prop where
  start_eq : Run.start url revision subdir { config } w = ((.ok (), run), w₁)
  agrees : ∀ n, t.Agrees n (Body.take n { run } w₁)

/-- The codes for the ways in which a body ends. -/
inductive Answers {run : Run} {w₁ : World} (t : Transcript run w₁) : ExitCode → Prop where
  | finished (hending : t.ending = .ok ()) (hsuccess : t.isSuccess = true) : Answers t .success
  | unsuccessful (hending : t.ending = .ok ()) (hsuccess : t.isSuccess = false) :
      Answers t .toolFailure
  | cut (hending : t.ending = .error .interrupted) : Answers t .toolFailure

/-- A run that has given its claim back has left every lock as it was before the start. -/
theorem isHeld_of_released (hstart : Run.start url revision subdir { config } w = ((.ok (), run), w₁))
    {last : Run} {v : World} (hafter : run.Accounted w₁.gate last v) (hnone : last.lock = none)
    (key : Path) : v.gate.isHeld key = w.gate.isHeld key := by
  cases Run.startCase_of_start hstart with
  | @succeeded own _ _ _ _ _ hfree _ hgate =>
    rcases hafter.ledger with ⟨hkept, _⟩ | ⟨_, hreleased⟩
    · rw [hnone] at hkept
      cases hkept
    · rw [hreleased, hgate]
      exact Gate.isHeld_mark_taken hfree key

theorem Streams.accounted {t : Transcript run w₁}
    (hstreams : Streams config url revision subdir w t) :
    t.session.exitStatus = none ∧ (∀ key, run.lock = some key → w₁.gate.isHeld key = true) ∧
      Body.Accounted run w₁.gate { run } w₁ := by
  obtain ⟨t₀, _, hunread, _, hown, haccounted⟩ := Run.exists_transcript_of_start hstreams.start_eq
  have hsame : t.session = t₀.session :=
    List.singleton_inj.mp (t.sessions_eq.symm.trans t₀.sessions_eq)
  exact ⟨hsame ▸ hunread, hown, haccounted⟩

/-- What a scan does with a run that it streams: it writes the whole transcript, answers as the body
ends, and leaves every lock as it was if the run could be closed. -/
theorem Streams.scan_eq {t : Transcript run w₁} (hstreams : Streams config url revision subdir w t)
    (terminal : Terminal) :
    ∃ result terminal' v,
      scan config url revision subdir terminal w = ((answer result, terminal'), v) ∧
      terminal'.output = terminal.output ++ t.items.flatten ∧
      ((run.streaming t.last).closing = .ok () → ∀ key, v.gate.isHeld key = w.gate.isHeld key) ∧
      (t.ending = .ok () → ∃ outcome, result = .ok outcome ∧ outcome.isSuccess = t.isSuccess) ∧
      ∀ failure, t.ending = .error failure → result = .error failure := by
  obtain ⟨hunread, hown, haccounted⟩ := hstreams.accounted
  obtain ⟨result, last, sink, v, hstream, hwritten, hclosed, hafter, hreleased, hended⟩ :=
    t.streamTo_ended hown haccounted hunread
  obtain ⟨terminal', hdeliver, houtput⟩ := deliver_of_streamTo hstream hclosed terminal
  rw [← scan_started hstreams.start_eq] at hdeliver
  exact ⟨result, terminal', v, hdeliver, by rw [houtput, hwritten],
    fun hclosing => isHeld_of_released hstreams.start_eq hafter (hreleased hclosing), hended⟩

/-- The run of a body that ends in one of these ways could be closed. -/
theorem Answers.closing {t : Transcript run w₁} (hanswers : Answers t code) :
    (run.streaming t.last).closing = .ok () := by
  cases hanswers with
  | finished hending | unsuccessful hending => exact (Run.eq_ok_of_concluding hending).1
  | cut hending => exact Run.closing_of_concluding hending nofun

/-- A scan that answers is one of a body that ends in one of these ways. -/
theorem Streams.answered {t : Transcript run w₁} (hstreams : Streams config url revision subdir w t)
    (h : scan config url revision subdir terminal w = ((.ok code, terminal'), w')) :
    Answers t code ∧ terminal'.output = terminal.output ++ t.items.flatten ∧
      ∀ key, w'.gate.isHeld key = w.gate.isHeld key := by
  obtain ⟨result, final, v, hscan, houtput, hgate, hok, herror⟩ := hstreams.scan_eq terminal
  rw [h] at hscan
  obtain ⟨hanswer, rfl⟩ := Prod.mk.inj (congrArg Prod.fst hscan)
  obtain rfl : w' = v := congrArg Prod.snd hscan
  suffices hanswers : Answers t code from ⟨hanswers, houtput, hgate hanswers.closing⟩
  cases hending : t.ending with
  | ok _ =>
    obtain ⟨outcome, rfl, hsame⟩ := hok hending
    obtain rfl := Except.ok.inj hanswer
    rw [hsame]
    cases hsuccess : t.isSuccess with
    | true => exact .finished hending hsuccess
    | false => exact .unsuccessful hending hsuccess
  | error failure =>
    obtain rfl := herror failure hending
    cases failure with
    | interrupted =>
      obtain rfl := Except.ok.inj hanswer
      exact .cut hending
    | _ => cases hanswer

/-- An interruption while an item is written cuts the body as well: the scan answers as if the output
had been interrupted there, and the run can be closed if the launcher may signal its child. -/
theorem Streams.deliver_interrupted {t : Transcript run w₁}
    (hstreams : Streams config url revision subdir w t) {sink : Sink} {k : Nat} {item : List UInt8}
    (hfails : sink.FailsAt k) (hfailure : sink.failure = .interrupted)
    (hitem : t.items[k]? = some item) (htakes : run.TakesSignals) (terminal : Terminal) :
    ∃ terminal' v, deliver run sink terminal w₁ = ((.ok .toolFailure, terminal'), v) ∧
      terminal'.output =
        terminal.output ++ ((sink.passed (t.items.take k)).stuckAt item).written ∧
      ∀ key, v.gate.isHeld key = w.gate.isHeld key := by
  obtain ⟨hunread, hown, haccounted⟩ := hstreams.accounted
  obtain ⟨hforward, hat, hafter⟩ :=
    t.forward_of_failsAt hown haccounted hunread hfails hitem
  obtain ⟨last, v, hclose, _⟩ :=
    Body.close_of_started hown hafter (hat.isStarted (Nat.succ_pos k))
  have hgone := Body.keeps_close hown _ _ hafter
  rw [hclose] at hgone
  have hstream := Run.streamTo_of_failure hforward hclose
  rw [hfailure] at hstream
  obtain ⟨terminal', hdeliver, houtput⟩ :=
    deliver_of_streamTo hstream last.isClosed_closed terminal
  have hreleased := hgone.1.sound.released last.isClosed_closed (hgone.1.takesSignals.mpr htakes)
  exact ⟨terminal', v, hdeliver, houtput, isHeld_of_released hstreams.start_eq hgone.1 hreleased⟩

end Scan

end Cli

end ScanLauncher
