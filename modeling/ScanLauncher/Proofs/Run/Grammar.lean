import ScanLauncher.Proofs.Run.Launching
import ScanLauncher.Proofs.Run.Transcript

namespace ScanLauncher

namespace Body

/-- What whoever takes items from a body has of it: the items, how the body ended if it did, and what
is left. -/
structure Reading where
  items : List (List UInt8) := []
  ended : Option (Except Failure Unit) := none
  body : Body
  world : World

/-- Asks a body for an item `n` times, or until it ends. -/
def take : (n : Nat) → Body → World → Reading
  | 0, body, w => { body, world := w }
  | n + 1, body, w =>
    match next body w with
    | ((.ok (some item), body), w) =>
      let rest := take n body w
      { rest with items := item :: rest.items }
    | ((.ok none, body), w) => { ended := some (.ok ()), body, world := w }
    | ((.error failure, body), w) => { ended := some (.error failure), body, world := w }

private theorem take_finished (n : Nat) (run : Run) (w : World) :
    (take n ⟨run, .finished⟩ w).items = [] ∧ (take n ⟨run, .finished⟩ w).body.run = run := by
  cases n <;> exact ⟨rfl, rfl⟩

end Body

namespace Transcript

variable {run : Run} {w : World} {t : Transcript run w}

namespace At

variable {n : Nat} {body : Body} {w' : World}

theorem state_eq (hat : t.At n body w') : body.run.state = t.stateAt n := by
  unfold stateAt
  cases hat with
  | fresh => exact t.state_eq
  | opened => simp
  | chunk hchunks =>
    have hlength := congrArg List.length hchunks
    rw [List.length_append] at hlength
    rw [if_neg (by omega), if_pos (by omega)]
    rfl
  | status | closed =>
    rw [if_neg (by omega), if_pos (by omega)]
    rfl
  | sentinel | report =>
    rw [if_neg (by omega), if_neg (by omega)]
    rfl

private theorem exitStatus_eq (hat : t.At n body w') :
    body.run.outcome.bind Outcome.exitStatus = t.exitStatusAt n := by
  unfold exitStatusAt
  have hunset : run.outcome.bind Outcome.exitStatus = none := by
    rw [t.outcome_eq]
    exact t.outcome_exitStatus
  cases hat with
  | fresh | opened =>
    rw [if_pos (by omega)]
    exact hunset
  | chunk hchunks =>
    have hlength := congrArg List.length hchunks
    rw [List.length_append] at hlength
    rw [if_pos (by omega)]
    exact hunset
  | status | closed | sentinel | report =>
    rw [if_neg (by omega)]
    rfl

private theorem eq_fresh (hat : t.At 0 body w') : body = ⟨run, .fresh⟩ := by
  generalize hn : 0 = n at hat
  cases hat with
  | fresh => rfl
  | opened | chunk | status | closed | sentinel | report => omega

theorem isOpen (hat : t.At n body w') : body.run.isClosed = false := by
  cases hat <;> exact t.isOpen

theorem isStarted (hat : t.At n body w') (hn : 0 < n) : body.stage.isStarted = true := by
  cases hat with
  | fresh => cases hn
  | opened | chunk | status | closed | sentinel | report => rfl

end At

/-- What was read by asking a body `n` times is what the transcript says: its first items, the end if
it was reached, the state of the run and the exit status as far as it is known. A run is done exactly
if its body ended well, and has failed if its body failed. A body that is given up hands out nothing
more; if that was between its first item and its end, the run has failed, else it is as it was. -/
structure Agrees (t : Transcript run w) (n : Nat) (reading : Body.Reading) : Prop where
  items : reading.items = t.items.take n
  ended : reading.ended = if n ≤ t.items.length then none else some t.ending
  state : n ≤ t.items.length → reading.body.run.state = t.stateAt n
  exitStatus : reading.body.run.outcome.bind Outcome.exitStatus =
    t.exitStatusAt (min n t.items.length)
  isDone : reading.body.run.state = .done ↔ reading.ended = some (.ok ())
  isFailed : ∀ failure, reading.ended = some (.error failure) → reading.body.run.state = .failed
  givenUp : ∀ k,
    let given := Body.close reading.body reading.world
    let later := Body.take k given.1.2 given.2
    later.items = [] ∧ later.body.run.outcome = reading.body.run.outcome ∧
      later.body.run.state =
        if 0 < n ∧ n ≤ t.items.length then .failed else reading.body.run.state

/-- What a body leaves that has been given up is all that comes of it. -/
theorem givenUp_of_close {body : Body} {w' : World} {last : Run} {outcome : Option Outcome}
    {state : RunState} (hclose : (Body.close body w').1.2 = ⟨last, .finished⟩)
    (houtcome : last.outcome = outcome) (hstate : last.state = state) (k : Nat) :
    let given := Body.close body w'
    let later := Body.take k given.1.2 given.2
    later.items = [] ∧ later.body.run.outcome = outcome ∧ later.body.run.state = state := by
  obtain ⟨hnone, hrun⟩ := Body.take_finished k last (Body.close body w').2
  simp only [hclose]
  exact ⟨hnone, by rw [hrun, houtcome], by rw [hrun, hstate]⟩

theorem stateAt_ne_done (t : Transcript run w) (n : Nat) : t.stateAt n ≠ .done := by
  unfold stateAt
  split
  · exact nofun
  · split <;> exact nofun

/-- Where the output has ended well the child has ended, so nothing keeps the run from being closed. -/
theorem ending_of_output (houtput : t.output = .ok ()) : t.ending = t.work := by
  have hended : t.last.child.isRunning = false := by
    simp [Child.isRunning, (t.isOver houtput).poll]
  have hclosing : (run.streaming t.last).closing = .ok () := by
    simp [Run.closing, Run.stopRefusal?, Run.session?, Run.streaming, t.isOpen,
      Child.stopRefusal?_of_ended hended, Session.answer]
  rw [ending, Run.concluding, hclosing]
  rfl

theorem output_of_work (hwork : t.work = .ok ()) : t.output = .ok () :=
  (Except.exists_of_bind hwork).choose_spec.1

theorem ending_eq_ok_iff (t : Transcript run w) : t.ending = .ok () ↔ t.work = .ok () := by
  refine ⟨fun h => (Run.eq_ok_of_concluding h).2, fun hwork => ?_⟩
  rw [ending_of_output (output_of_work hwork), hwork]

theorem output_of_ending (hending : t.ending = .ok ()) : t.output = .ok () :=
  output_of_work (t.ending_eq_ok_iff.mp hending)

/-- Closing a run whose body has ended leaves it done or failed. -/
theorem Ends.state_closed {last : Run} (hends : t.Ends last) :
    last.closed.state = match t.ending with
      | .ok () => .done
      | .error _ => .failed := by
  have hdone : last.state = .done ↔ t.ending = .ok () := hends.isDone.trans t.ending_eq_ok_iff.symm
  cases hending : t.ending with
  | ok _ => simp [Run.closed, hends.isOpen, hdone.mpr hending]
  | error failure =>
    have hactive : last.state ≠ .done := by
      intro h
      rw [hdone.mp h] at hending
      cases hending
    simp [Run.closed, hends.isOpen, hactive]

/-- Closing the run comes to the same wherever its body has ended. -/
theorem Ends.closing {last : Run} (hends : t.Ends last) :
    last.closing = (run.streaming t.last).closing := by
  simp [Run.closing, Run.stopRefusal?, Run.session?, Run.streaming, hends.isOpen, hends.sessions,
    t.isOpen]

theorem Ends.concluding {last : Run} (hends : t.Ends last) :
    last.concluding (t.work.map fun _ => none) =
      (t.ending.map fun _ => none : Except Failure (Option (List UInt8))) := by
  rw [ending, Run.concluding, Run.concluding, hends.closing]
  cases (run.streaming t.last).closing <;> rfl

variable {first : Run} {gate : Gate}
  (hheld : ∀ key, first.lock = some key → gate.isHeld key = true)

include hheld

/-- What the next item after some others comes to, or the end. -/
theorem next_step {n : Nat} {body : Body} {w' : World} (hat : t.At n body w')
    (haccounted : Body.Accounted first gate body w') :
    (∃ item body' w'', Body.next body w' = ((.ok (some item), body'), w'') ∧
        t.items[n]? = some item ∧ t.At (n + 1) body' w'') ∨
      (n = t.items.length ∧ ∃ (last : Run) (w'' : World),
        Body.next body w' = ((t.ending.map fun _ => none, ⟨last.closed, .finished⟩), w'') ∧
        t.Ends last) := by
  by_cases hstarted : body.stage.isStarted = true
  · rcases hlater : Body.laterItem body w' with ⟨⟨result, body'⟩, w''⟩
    have hstep := laterItem_step hat hstarted
    rw [hlater] at hstep
    obtain ⟨item, rfl, hitem, hat'⟩ | ⟨hlength, rfl, hends⟩ := hstep
    · refine .inl ⟨item, body', w'', ?_, hitem, hat'⟩
      rw [Body.next_apply hstarted, hlater]
    · have hend (item : List UInt8) : (t.work.map fun _ => none) ≠ Except.ok (some item) := by
        cases t.work <;> exact nofun
      obtain ⟨w₃, hnext⟩ := Body.next_of_end hheld haccounted hstarted hlater hend
      rw [hends.concluding] at hnext
      exact .inr ⟨hlength, body'.run, w₃, hnext, hends⟩
  · cases hat with
    | fresh =>
      refine .inl ⟨Body.openMark, ⟨{ run with state := .streaming }, .opened⟩, w, ?_, rfl, .opened⟩
      exact Body.next_fresh (by simp [Run.session?, t.sessions_eq]) (by simp [t.outcome_eq]) w
    | opened | chunk | status | closed | sentinel | report => exact absurd rfl hstarted

/-- Whoever goes on taking items gets the rest of the transcript. -/
theorem take_of_at {k : Nat} {body : Body} {w' : World} (hat : t.At k body w')
    (haccounted : Body.Accounted first gate body w') (n : Nat) :
    (k + n ≤ t.items.length ∧ (Body.take n body w').items = (t.items.drop k).take n ∧
        (Body.take n body w').ended = none ∧
        t.At (k + n) (Body.take n body w').body (Body.take n body w').world ∧
        Body.Accounted first gate (Body.take n body w').body (Body.take n body w').world) ∨
      (t.items.length < k + n ∧ (Body.take n body w').items = t.items.drop k ∧
        (Body.take n body w').ended = some t.ending ∧
        ∃ last : Run, (Body.take n body w').body = ⟨last.closed, .finished⟩ ∧ t.Ends last) := by
  -- The place in the transcript moves on with every item, until there is none left.
  induction n generalizing k body w' with
  | zero =>
    refine .inl ⟨?_, rfl, rfl, hat, haccounted⟩
    obtain ⟨item, _, _, _, hitem, _⟩ | ⟨hlength, _⟩ := next_step hheld hat haccounted
    · exact Nat.le_of_lt (List.getElem?_eq_some_iff.mp hitem).1
    · exact Nat.le_of_eq hlength
  | succ n ih =>
    obtain ⟨item, body', w'', hnext, hitem, hat'⟩ | ⟨hlength, last, w'', hnext, hends⟩ :=
      next_step hheld hat haccounted
    · have haccounted' := Body.keeps_next hheld body w' haccounted
      rw [hnext] at haccounted'
      obtain ⟨hindex, hvalue⟩ := List.getElem?_eq_some_iff.mp hitem
      have hdrop : t.items.drop k = item :: t.items.drop (k + 1) := by
        rw [List.drop_eq_getElem_cons hindex, hvalue]
      have hcount : k + 1 + n = k + (n + 1) := by omega
      have hrest := ih hat' haccounted'
      rw [hcount] at hrest
      simpa [Body.take, hnext, hdrop] using hrest
    · refine .inr ⟨by omega, ?_, ?_, last, ?_, hends⟩
      all_goals cases hending : t.ending <;> simp [Body.take, hnext, hending, Except.map, hlength]

private theorem close_of_at {n : Nat} {body : Body} {w' : World} (hat : t.At n body w') (hn : 0 < n)
    (haccounted : Body.Accounted first gate body w') :
    ∃ last : Run, (Body.close body w').1.2 = ⟨last, .finished⟩ ∧ last.state = .failed ∧
      last.outcome = body.run.outcome := by
  obtain ⟨last, w'', hclose, hstate, houtcome, hopen⟩ :=
    Body.close_of_started hheld haccounted (hat.isStarted hn)
  have hactive : last.state ≠ .done := by
    rw [hstate, hat.state_eq]
    exact t.stateAt_ne_done n
  refine ⟨last.closed, by rw [hclose], ?_, ?_⟩
  · simp [Run.closed, hopen.trans hat.isOpen, hactive]
  · simp [Run.closed, hopen.trans hat.isOpen, houtcome]

theorem agrees_take (haccounted : Body.Accounted first gate ⟨run, .fresh⟩ w) (n : Nat) :
    t.Agrees n (Body.take n ⟨run, .fresh⟩ w) := by
  have htake := take_of_at hheld (t := t) .fresh haccounted n
  rw [Nat.zero_add, List.drop_zero] at htake
  generalize Body.take n ⟨run, .fresh⟩ w = reading at htake
  obtain ⟨hle, hitems, hended, hat, haccounted'⟩ | ⟨hlt, hitems, hended, last, hbody, hends⟩ := htake
  · refine ⟨hitems, by rw [hended, if_pos hle], fun _ => hat.state_eq, ?_, ?_, ?_, ?_⟩
    · rw [hat.exitStatus_eq, Nat.min_eq_left hle]
    · rw [hat.state_eq, hended]
      exact ⟨fun h => absurd h (t.stateAt_ne_done n), nofun⟩
    · rw [hended]
      exact nofun
    · by_cases hn : 0 < n
      · obtain ⟨last, hclose, hstate, houtcome⟩ := close_of_at hheld hat hn haccounted'
        refine givenUp_of_close hclose houtcome ?_
        rw [if_pos ⟨hn, hle⟩, hstate]
      · obtain rfl : n = 0 := Nat.eq_zero_of_not_pos hn
        rw [hat.eq_fresh]
        exact givenUp_of_close rfl rfl (by simp)
  · have hstate := hends.state_closed
    have hmore : ¬ n ≤ t.items.length := Nat.not_le_of_lt hlt
    refine ⟨?_, by rw [hended, if_neg hmore], fun h => absurd h hmore, ?_, ?_, ?_, ?_⟩
    · rw [hitems, List.take_of_length_le (Nat.le_of_lt hlt)]
    · rw [hbody, Nat.min_eq_right (Nat.le_of_lt hlt), ← hends.exitStatus]
      simp [Run.closed, hends.isOpen]
    · rw [hbody, hstate, hended]
      cases t.ending <;> simp
    · intro failure hfailure
      rw [hended] at hfailure
      rw [hbody, hstate, Option.some.inj hfailure]
    · rw [hbody]
      exact givenUp_of_close rfl rfl (by simp [hmore])

end Transcript

namespace Run

/-- A start that succeeded leaves a run whose response is settled, as far as nothing but one body
acts on it. -/
theorem exists_transcript {config : Config} {request : ScanRequest} {w w' : World} {run : Run}
    (hcase : StartCase config request w (.ok ()) run w') : Nonempty (Transcript run w') := by
  cases hcase with
  | @succeeded key resetOk session _ _ _ _ hnew =>
    have hreading : Session.IsReading { session with reader := .fresh } :=
      ⟨.inl rfl, hnew.exitStatus⟩
    obtain ⟨chunks, output, last, world, hproduces, hover⟩ := Session.exists_produces hreading w'
    obtain ⟨exitStatus, hover⟩ : ∃ status, output = .ok () → last.IsOver status := by
      cases output with
      | ok _ =>
        obtain ⟨status, hover⟩ := hover rfl
        exact ⟨status, fun _ => hover⟩
      | error failure => exact ⟨0, nofun⟩
    exact ⟨{
      session, outcome := { request, resetOk }, chunks, output, last, world, exitStatus
      state_eq := rfl
      isOpen := rfl
      sessions_eq := rfl
      reader_eq := hnew.reader
      outcome_eq := rfl
      outcome_exitStatus := rfl
      produces := hproduces
      isOver := hover }⟩

/-- A run that was started has a transcript, its lock is held, and its accounts are in order. -/
theorem exists_transcript_of_start {config : Config} {url revision subdir : Option Text} {w w' : World}
    {run : Run} (hstart : start url revision subdir { config } w = ((.ok (), run), w')) :
    ∃ t : Transcript run w', run.config = config ∧ t.session.exitStatus = none ∧
      (∃ key, run.lock = some key) ∧ (∀ key, run.lock = some key → w'.gate.isHeld key = true) ∧
      Body.Accounted run w'.gate { run } w' := by
  have hcase := startCase_of_start hstart
  obtain ⟨t⟩ := exists_transcript hcase
  obtain ⟨hsound, _, hheld⟩ := hcase.accounts
  have hown (key : Path) (hkey : run.lock = some key) : w'.gate.isHeld key = true :=
    (hheld key).mpr (.inr hkey)
  cases hcase with
  | @succeeded key resetOk session _ _ _ _ hnew _ =>
    refine ⟨t, rfl, ?_, ⟨key, rfl⟩, hown, .refl hsound w', trivial⟩
    rw [← List.singleton_inj.mp t.sessions_eq]
    exact hnew.exitStatus

/-- A configuration whose reports are at a fixed place. -/
def plainConfig : Config := { reports := { outputRoot := "/o", directoryName := "r" } }

/-- A script that says something and leaves a report. -/
def plainScript : World where
  files := { tree := ⟨[(["o"], .directory)]⟩, cwd := [] }
  specs := [{ output := [.data [0x68, 0x69], .change [.file "/o/r/a" [] false]] }]

private theorem text_reportDir_plainConfig : plainConfig.reportDir.text = "/o/r" := by decide +kernel

private theorem found_plainScript :
    (plainScript.files.resolve "/o/r", plainScript.files.hasEntry? "/o/r") =
      (.ok ⟨.root, ["o", "r"]⟩, .ok false) := by
  cbv

/-- In the files of `plainScript` every script is started that can be started at all, for every request
whose command can be shown and is taken. -/
theorem exists_start_plainConfig (url revision subdir : Option Text) {w : World} {spec : ProcessSpec}
    (hw : w = { plainScript with specs := [spec] }) (hchild : spec.launchError = none)
    (hshown : (Value.list
      (commandOf plainConfig (.normalize url revision subdir))).nested?.isSome = true)
    (hfit : Session.fault? spec (commandOf plainConfig (.normalize url revision subdir))
      plainConfig.tool.workingDir = none)
    (hthread : Session.isUntimed spec (some plainConfig.tool.timeout) = false) :
    ∃ run w', start url revision subdir { config := plainConfig } w = ((.ok (), run), w') ∧
      ∃ session, run.sessions = [session] ∧ session.child.spec = spec := by
  subst hw
  obtain ⟨hresolve, habsent⟩ := Prod.mk.inj found_plainScript
  rw [← text_reportDir_plainConfig] at hresolve habsent
  exact exists_start (w := { plainScript with specs := [spec] }) hresolve (by decide) rfl habsent
    hshown hfit hchild hthread

end Run

end ScanLauncher
