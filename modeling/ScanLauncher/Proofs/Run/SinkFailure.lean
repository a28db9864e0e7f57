import ScanLauncher.Cli.Launch
import ScanLauncher.Proofs.Run.Handing

namespace ScanLauncher

namespace Run

/-- A body that was left behind: its run is open and holds its lock, so that no run with the same
report directory can be started. -/
structure LeftOpen (key : Path) (body : Body) (w : World) : Prop where
  isStarted : body.stage.isStarted = true
  isOpen : body.run.isClosed = false
  lock_eq : body.run.lock = some key
  isHeld : w.gate.isHeld key = true
  refuses : ∀ (config : Config) (url revision subdir : Option Text),
    w.files.resolve config.reportDir.text = .ok key →
    Gate.isTooLong config.server.busyWait = false →
    (start url revision subdir { config } w).1.1 = .error .busy

/-- A run of which nothing is left: its child has ended, its timer cannot fire, its pipe is closed
and its lock is free. -/
structure CleanedUp (key : Path) (run : Run) (w : World) : Prop where
  isClosed : run.isClosed = true
  lock_eq : run.lock = none
  isFree : w.gate.isHeld key = false
  stopped : ∀ session ∈ run.sessions, session.Stopped

section Accounted

variable {first run : Run} {gate : Gate} {w : World} {key : Path}

private theorem Accounted.ledger_of_open (h : first.Accounted gate run w) (hopen : run.isClosed = false)
    (hcount : 0 < first.sessions.length) : run.lock = first.lock ∧ w.gate = gate := by
  rcases h.ledger with hsame | ⟨hnone, _⟩
  · exact hsame
  · have hsessions : run.sessions ≠ [] := by
      intro hempty
      have hlength := h.count
      rw [hempty, List.length_nil] at hlength
      omega
    have howner := h.sound.owner
    simp [hnone, isOpen, hopen, hsessions] at howner

private theorem Accounted.cleanedUp (h : first.Accounted gate run w)
    (hheld : ∀ key, first.lock = some key → gate.isHeld key = true) (hlock : first.lock = some key)
    (hclosed : run.isClosed = true) (htakes : first.TakesSignals) : CleanedUp key run w := by
  have hnone := h.sound.released hclosed (h.takesSignals.mpr htakes)
  refine ⟨hclosed, hnone, ?_, h.sound.stopped_of_lock hnone⟩
  rcases h.ledger with ⟨hsame, _⟩ | ⟨_, hgate⟩
  · rw [hnone, hlock] at hsame
    cases hsame
  · rw [hgate]
    refine eq_false_of_ne_true fun hstill => ?_
    exact ((Gate.isHeld_released hheld key).mp hstill).2 hlock

end Accounted

private theorem start_of_isHeld {config : Config} {w : World} {key : Path}
    (hresolve : w.files.resolve config.reportDir.text = .ok key)
    (hwait : Gate.isTooLong config.server.busyWait = false) (hheld : w.gate.isHeld key = true)
    (url revision subdir : Option Text) :
    (start url revision subdir { config } w).1.1 = .error .busy := by
  obtain ⟨w', hacquire, _⟩ := Gate.acquire_held hresolve hwait hheld
  rw [start_unclaimed url revision subdir hacquire]

end Run

namespace Transcript

variable {run : Run} {w : World} {t : Transcript run w} {gate : Gate} {key : Path}

private theorem leftOpen_of_at {first : Run} (hheld : ∀ key, first.lock = some key → gate.isHeld key = true)
    (hlock : first.lock = some key) (hcount : 0 < first.sessions.length) {n : Nat} {body : Body}
    {w' : World} (hat : t.At n body w') (hn : 0 < n) (h : Body.Accounted first gate body w') :
    Run.LeftOpen key body w' := by
  obtain ⟨hsame, hgate⟩ := h.1.ledger_of_open hat.isOpen hcount
  have hkey : w'.gate.isHeld key = true := by
    rw [hgate]
    exact hheld key hlock
  refine ⟨hat.isStarted hn, hat.isOpen, hsame.trans hlock, hkey, ?_⟩
  intro config url revision subdir hresolve hwait
  exact Run.start_of_isHeld hresolve hwait hkey url revision subdir

/-- The forwarding stops at the item at which its sink fails, and leaves the body as it was when it
had handed out that item. -/
theorem forward_of_failsAt {first : Run} (t : Transcript run w)
    (hheld : ∀ key, first.lock = some key → gate.isHeld key = true)
    (haccounted : Body.Accounted first gate { run } w) (hunread : t.session.exitStatus = none)
    {sink : Sink} {k : Nat} {item : List UInt8} (hfails : sink.FailsAt k)
    (hitem : t.items[k]? = some item) :
    let reading := Body.take (k + 1) { run } w
    Forwarding.forward Body.next (Body.itemBound { run } w) ⟨{ run }, sink⟩ w =
        ((.error sink.failure, ⟨reading.body, (sink.passed (t.items.take k)).stuckAt item⟩),
          reading.world) ∧
      t.At (k + 1) reading.body reading.world ∧
      Body.Accounted first gate reading.body reading.world := by
  intro reading
  obtain ⟨hk, hvalue⟩ := List.getElem?_eq_some_iff.mp hitem
  obtain ⟨_, hitems, hended, hat, haccounted'⟩ | ⟨hlt, _⟩ :=
    take_of_at hheld (t := t) .fresh haccounted (k + 1)
  · have hhands := Body.hands_take hended
    rw [hitems, List.drop_zero, List.take_succ_eq_append_getElem hk, hvalue] at hhands
    obtain ⟨body, v, hbefore, hnext⟩ := hhands.split_last
    have hlength : (t.items.take k).length = k := List.length_take_of_le (Nat.le_of_lt hk)
    have hbound : (t.items.take k).length < Body.itemBound { run } w := by
      have hall := t.length_items_lt hunread
      omega
    rw [← hlength] at hfails
    rw [Nat.zero_add] at hat
    exact ⟨Forwarding.forward_stuck hbefore hnext hfails hbound, hat, haccounted'⟩
  · omega

end Transcript

namespace Run

variable {config : Config} {url revision subdir : Option Text} {w w' v v' : World} {run last : Run}
  {body : Body} {sink failed : Sink} {failure : Failure}

/-- A forwarding that fails is done with as soon as the body that it leaves behind is given up. -/
theorem streamTo_of_failure
    (hforward : Forwarding.forward Body.next (Body.itemBound { run } w') ⟨{ run }, sink⟩ w' =
      ((.error failure, ⟨body, failed⟩), v))
    {closing : Except Failure Unit}
    (hclose : Body.close body v = ((closing, ⟨last, .finished⟩), v')) :
    streamTo ⟨run, sink⟩ w' = ((.error failure, ⟨last, failed⟩), v') := by
  have hlimit :
      (Forwarding.onProducer Body.bound : ActOn (Forwarding Body) Nat) ⟨{ run }, sink⟩ w' =
        ((.ok (Body.itemBound { run } w'), ⟨{ run }, sink⟩), w') := rfl
  have hgiven : abandonBody ⟨body, failed⟩ v = ((.ok (), ⟨⟨last, .finished⟩, failed⟩), v') := by
    simp [abandonBody, Forwarding.onProducer, hclose]
  have hbody : forwardBody ⟨{ run }, sink⟩ w' =
      ((.error failure, ⟨⟨last, .finished⟩, failed⟩), v') := by
    simp [forwardBody, hlimit, ActOn.onFailure_apply, hforward, hgiven, Except.map]
  simp [streamTo, hbody]

private theorem deliver_of_failure {forwarding : Forwarding Run}
    (hstream : streamTo ⟨run, sink⟩ w' = ((.error failure, forwarding), v))
    (hother : failure ≠ .interrupted) (terminal : Cli.Terminal) :
    ∃ terminal', Cli.deliver run sink terminal w' = ((.error failure, terminal'), v) := by
  refine ⟨{ terminal with output := terminal.output ++ forwarding.sink.written }, ?_⟩
  simp only [Cli.deliver, ActOn.runOn, ActOn.bind_apply, ActOn.lift_apply, hstream,
    Cli.Terminal.write, ActOn.modify_apply]
  cases failure with
  | interrupted => exact absurd rfl hother
  | _ => rfl

/-- For every item at which the sink may fail, in its write or its flush: the items before it were
written and flushed, and the failure leaves the forwarding while the run is open. Nobody closes it
on the way out, neither where a scan is delivered to a sink nor where it is delivered to a terminal:
the child, the timer and the lock stay until the body is given up that was left behind. That stops the
child, if the launcher may signal it, and frees the lock. -/
theorem sink_failure_leaves_run_open
    (hstart : start url revision subdir { config } w = ((.ok (), run), w')) :
    ∃ (t : Transcript run w') (key : Path), (∀ n, t.Agrees n (Body.take n { run } w')) ∧
      ∀ (sink : Sink) (k : Nat) (item : List UInt8), sink.FailsAt k → t.items[k]? = some item →
        let reading := Body.take (k + 1) { run } w'
        let failed := (sink.passed (t.items.take k)).stuckAt item
        Forwarding.forward Body.next (Body.itemBound { run } w') ⟨{ run }, sink⟩ w' =
            ((.error sink.failure, ⟨reading.body, failed⟩), reading.world) ∧
          LeftOpen key reading.body reading.world ∧
          ∃ closing last v,
            Body.close reading.body reading.world = ((closing, ⟨last, .finished⟩), v) ∧
            (run.TakesSignals → closing = .ok () ∧ CleanedUp key last v) ∧
            deliver url revision subdir ⟨{ config }, sink⟩ w =
              ((.error sink.failure, ⟨last, failed⟩), v) ∧
            (sink.failure ≠ .interrupted → ∀ terminal, ∃ terminal',
              Cli.deliver run sink terminal w' = ((.error sink.failure, terminal'), v)) := by
  obtain ⟨t, _, hunread, ⟨key, hlock⟩, hown, haccounted⟩ := exists_transcript_of_start hstart
  have hagrees := Transcript.agrees_take (t := t) hown haccounted
  have hcount : 0 < run.sessions.length := by simp [t.sessions_eq]
  refine ⟨t, key, hagrees, fun sink k item hfails hitem => ?_⟩
  obtain ⟨hforward, hat, hafter⟩ := t.forward_of_failsAt hown haccounted hunread hfails hitem
  have hleft := Transcript.leftOpen_of_at hown hlock hcount hat (Nat.succ_pos k) hafter
  refine ⟨hforward, hleft, ?_⟩
  obtain ⟨left, v, hclose, _⟩ := Body.close_of_started hown hafter hleft.isStarted
  have hgone := Body.keeps_close hown _ _ hafter
  rw [hclose] at hgone
  have hstream := streamTo_of_failure hforward hclose
  refine ⟨left.closing, left.closed, v, hclose, fun htakes => ⟨?_, ?_⟩, ?_,
    deliver_of_failure hstream⟩
  · exact closing_of_takesSignals (takesSignals_closed.mp (hgone.1.takesSignals.mpr htakes))
  · exact hgone.1.cleanedUp hown hlock left.isClosed_closed htakes
  simp [deliver, Forwarding.onProducer, hstart, hstream]

/-- A sink that takes one item, and fails when the next one is written. -/
def brokenSink : Sink := { writesLeft := some 1 }

/-- The run of `plainScript`. -/
def plainRun : (Except Failure Unit × Run) × World :=
  start none none none { config := plainConfig } plainScript

/-- What leaves when `plainRun` is forwarded to `brokenSink`. -/
def plainLeft : (Except Failure Nat × Forwarding Body) × World :=
  Forwarding.forward Body.next (Body.itemBound { run := plainRun.1.2 } plainRun.2)
    ⟨{ run := plainRun.1.2 }, brokenSink⟩ plainRun.2

/-- What an observer makes of `plainLeft`: what came out, what the sink was told, whether the run is
closed, how its child and its timer are, and what comes of another start. -/
def plainSeen :=
  (plainLeft.1.1, plainLeft.1.2.sink.events, plainLeft.1.2.producer.run.isClosed,
    plainLeft.1.2.producer.run.sessions.map fun session => (session.child.isRunning, session.timer),
    (start none none none { config := plainConfig } plainLeft.2).1.1)

/-- The items of `plainRun` at which `brokenSink` fails and before, and what is seen then. -/
theorem take_plainRun :
    ((Body.take 2 { run := plainRun.1.2 } plainRun.2).items, plainSeen) =
    ([Body.openMark, [0x68, 0x69]],
      .error (.os (.numbered .brokenPipe none)),
      [.asked, .wrote Body.openMark, .flushed, .asked], false, [(true, .live)], .error .busy) := by
  cbv

theorem sink_failure_leaves_plainRun_open :
    brokenSink.FailsAt 1 ∧ ∃ key body v, plainLeft =
      ((.error brokenSink.failure,
        ⟨body, (brokenSink.passed [Body.openMark]).stuckAt [0x68, 0x69]⟩), v) ∧
      LeftOpen key body v := by
  obtain ⟨htake, _⟩ := Prod.mk.inj take_plainRun
  obtain ⟨run, w', hstart, _⟩ := exists_start_plainConfig none none none (w := plainScript)
    rfl rfl rfl rfl rfl
  have hrun : plainRun = ((.ok (), run), w') := hstart
  rw [plainLeft]
  rw [hrun] at htake ⊢
  have hfails : brokenSink.FailsAt 1 := by
    refine ⟨⟨fun m hm => Nat.le_of_eq (Option.some.inj hm), nofun⟩, .inl rfl⟩
  obtain ⟨t, key, hagrees, hleft⟩ := sink_failure_leaves_run_open hstart
  have hitems : t.items.take 2 = [Body.openMark, [0x68, 0x69]] := (hagrees 2).items.symm.trans htake
  have hsecond : t.items[1]? = some [0x68, 0x69] := by
    rw [← List.getElem?_take_of_lt (by decide : 1 < 2), hitems]
    rfl
  have hfirst : t.items.take 1 = [Body.openMark] := by
    have htwice : (t.items.take 2).take 1 = t.items.take 1 := by simp [List.take_take]
    rw [← htwice, hitems]
    rfl
  obtain ⟨hforward, hopen, _⟩ := hleft brokenSink 1 _ hfails hsecond
  rw [hfirst] at hforward
  exact ⟨hfails, key, _, _, hforward, hopen⟩

/-- The second item was not written, and the failure is out; but the child runs, its timer is live,
and another start is refused. -/
theorem run_left_behind :
    (plainLeft.1.1, plainLeft.1.2.sink.events, plainLeft.1.2.producer.run.isClosed,
      plainLeft.1.2.producer.run.sessions.map fun session =>
        (session.child.isRunning, session.timer),
      (start none none none { config := plainConfig } plainLeft.2).1.1) =
    (.error (.os (.numbered .brokenPipe none)),
      [.asked, .wrote Body.openMark, .flushed, .asked], false, [(true, .live)], .error .busy) :=
  (Prod.mk.inj take_plainRun).2

end Run

end ScanLauncher
