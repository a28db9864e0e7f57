import ScanLauncher.Proofs.Process.Stopping

namespace ScanLauncher

/-- The bytes that an output step brings. -/
def OutputStep.bytes : OutputStep → List UInt8
  | .data bytes => bytes
  | _ => []

/-- The changes of files that an output step makes. -/
def OutputStep.changes : OutputStep → List Change
  | .change changes => changes
  | _ => []

/-- The bytes that have not been read yet, in the order in which they come. -/
def Child.unread (child : Child) : List UInt8 :=
  child.pending ++ child.steps.flatMap OutputStep.bytes

/-- Signals and waiting take no byte away. -/
theorem Child.EndsOnly.unread_eq {child child' : Child} (h : child.EndsOnly child') :
    child'.unread = child.unread := by
  rw [unread, h.pending_eq, h.steps_eq, unread]

namespace Session

/-- What a read of the output leaves alone: how far the reader has come, what is known of the exit,
and the size of chunks. -/
structure SamePosition (session session' : Session) : Prop where
  reader : session'.reader = session.reader
  isDrained : session'.isDrained = session.isDrained
  exitStatus : session'.exitStatus = session.exitStatus
  chunkSize : session'.chunkSize = session.chunkSize

theorem SamePosition.refl (session : Session) : session.SamePosition session := ⟨rfl, rfl, rfl, rfl⟩

theorem SamePosition.trans {a b c : Session} (hfirst : a.SamePosition b)
    (hsecond : b.SamePosition c) : a.SamePosition c :=
  ⟨hsecond.reader.trans hfirst.reader, hsecond.isDrained.trans hfirst.isDrained,
    hsecond.exitStatus.trans hfirst.exitStatus, hsecond.chunkSize.trans hfirst.chunkSize⟩

/-- The time being up stops a child whose run has not ended. -/
theorem expire_ends {session : Session} {limit : Text}
    (hgoing : (session.isDrained && !session.child.isRunning) = false)
    (hlimit : session.timeoutText? = some limit) :
    expire.Ends session (answer session.child.stopRefusal?)
      { session with isTimedOut := true }.terminated
      (session.timer.cancelEvents ++ session.child.stopAttempts) := by
  refine (ActOn.emits_get session).bind_seen ?_
  simp only [hgoing, hlimit]
  exact (log_emits _ _ session).bind_seen ((ActOn.emits_modify _ session).bind_seen
    (terminate_ends { session with isTimedOut := true }))

/-- The time being up stops the child, unless the run has ended or the limit cannot be shown. -/
theorem expire_cases (session : Session) (w : World) :
    ∃ result session' w', expire session w = ((result, session'), w') ∧ w.RecordsOnly w' ∧
      (session' = session ∨ session' = { session with isTimedOut := true }.terminated) := by
  by_cases hover : (session.isDrained && !session.child.isRunning) = true
  · exact ⟨.ok (), session, w, by simp only [expire, ActOn.bind_apply, ActOn.get_apply, hover,
      if_true, ActOn.pure_apply], .refl w, .inl rfl⟩
  · cases hlimit : session.timeoutText? with
    | none =>
      refine ⟨.error .longNumber, session, w, ?_, .refl w, .inl rfl⟩
      simp only [expire, ActOn.bind_apply, ActOn.get_apply, hover, hlimit]
      rfl
    | some limit =>
      obtain ⟨w', hexpire, hrecords, _⟩ := expire_ends (eq_false_of_ne_true hover) hlimit w
      exact ⟨_, _, w', hexpire, hrecords, .inr rfl⟩

/-- The timer does the same as the time being up, but for errors of signals. -/
theorem fire_apply (session : Session) (w : World) :
    fire session w = (((match (expire session w).1.1 with
      | .ok _ | .error (.os _) => .ok ()
      | .error failure => .error failure), (expire session w).1.2), (expire session w).2) := by
  simp only [fire, ActOn.bind_apply, ActOn.attempt_apply]
  split <;> simp_all

/-- The timer stops a child whose run has not ended. -/
theorem fire_settles {session : Session} {limit : Text}
    (hgoing : (session.isDrained && !session.child.isRunning) = false)
    (hlimit : session.timeoutText? = some limit) :
    fire.Settles session () { session with isTimedOut := true }.terminated := by
  intro w
  obtain ⟨w', hexpire, hrecords, _⟩ := expire_ends hgoing hlimit w
  refine ⟨w', ?_, hrecords⟩
  rw [fire_apply, hexpire]
  cases session.child.stopRefusal? <;> rfl

private theorem fire_cases (session : Session) (w : World) :
    ∃ result session' w', fire session w = ((result, session'), w') ∧ w.RecordsOnly w' ∧
      (session' = session ∨ session' = { session with isTimedOut := true }.terminated) := by
  obtain ⟨result, session', w', hexpire, hrest⟩ := expire_cases session w
  exact ⟨_, session', w', by rw [fire_apply, hexpire], hrest⟩

private theorem change_filesOnly (changes : List Change) (w : World) :
    w.FilesOnly (change changes w).2 := by
  simp only [change, Act.bind_apply, Act.get_apply, Act.modify_apply]
  cases (w.files.applyAll changes).2 with
  | none => rfl
  | some fault => cases fault <;> rfl

/-- Taking a step uses it up. Bytes of the step become pending, where none were, so that what has
not been read stays the same. -/
theorem takeStep_spec {session : Session} {step : OutputStep} {rest : List OutputStep}
    (hpending : session.child.pending = []) (hsteps : session.child.steps = step :: rest)
    (w : World) :
    ∃ result session' w', takeStep step session w = ((result, session'), w') ∧
      session.SamePosition session' ∧ w.FilesOnly w' ∧ session'.child.steps = rest ∧
      session'.child.unread = session.child.unread := by
  have htail : session.child.steps.tail = rest := by rw [hsteps]; rfl
  cases step with
  | data bytes =>
    refine ⟨_, _, _, rfl, ⟨rfl, rfl, rfl, rfl⟩, rfl, htail, ?_⟩
    simp [Child.unread, hpending, hsteps, OutputStep.bytes]
  | change changes =>
    refine ⟨_, _, _, rfl, ⟨rfl, rfl, rfl, rfl⟩, change_filesOnly changes w, htail, ?_⟩
    simp [Child.unread, hpending, hsteps, OutputStep.bytes]
  | hang =>
    let taken : Session := { session with child := { session.child with steps := rest } }
    have htaken : takeStep .hang session w =
        (if taken.timer == .live then fire else pure () : ActOn Session Unit) taken w := by
      simp [takeStep, modifyChild, htail, taken]
    have hunread : taken.child.unread = session.child.unread := by
      simp [taken, Child.unread, hpending, hsteps, OutputStep.bytes]
    rw [htaken, ActOn.ite_apply]
    split
    · obtain ⟨result, session', w', hfire, hrecords, hsame⟩ := fire_cases taken w
      refine ⟨result, session', w', hfire, ?_, hrecords.filesOnly, ?_⟩
      · rcases hsame with rfl | rfl <;> exact ⟨rfl, rfl, rfl, rfl⟩
      · rcases hsame with rfl | rfl
        · exact ⟨rfl, hunread⟩
        · have hends := taken.child.endsOnly_stopped
          exact ⟨hends.steps_eq, hends.unread_eq.trans hunread⟩
    · exact ⟨_, taken, w, rfl, ⟨rfl, rfl, rfl, rfl⟩, .refl w, rfl, hunread⟩
  | readError error =>
    refine ⟨_, _, _, rfl, ⟨rfl, rfl, rfl, rfl⟩, rfl, htail, ?_⟩
    simp [Child.unread, hpending, hsteps, OutputStep.bytes]
  | interrupt =>
    refine ⟨_, _, _, rfl, ⟨rfl, rfl, rfl, rfl⟩, rfl, htail, ?_⟩
    simp [Child.unread, hpending, hsteps, OutputStep.bytes]

/-- A read hands out the front of what has not been read, no more than was asked for; and nothing
only if the pipe has lost its writers or all has been read. -/
structure IsCut (size : Int) (session : Session) (result : Except Failure (List UInt8))
    (session' : Session) : Prop where
  position : session.SamePosition session'
  unread : result.toOption.getD [] ++ session'.child.unread = session.child.unread
  bounded : ∀ bytes, result = .ok bytes → bytes.length ≤ size.toNat
  complete : result = .ok [] → 1 ≤ size →
    session'.child.lost ≠ none ∨ session'.child.unread = []

theorem isCut_cutOff {session : Session} (size : Int) (hcut : session.child.isCutOff = true) :
    IsCut size session (.ok []) session where
  position := .refl session
  unread := rfl
  bounded bytes hbytes := by cases hbytes; exact Nat.zero_le _
  complete _ _ := by
    refine .inl fun hnone => ?_
    simp [Child.isCutOff, hnone] at hcut

theorem isCut_failed {session session' : Session} (size : Int) (failure : Failure)
    (hsame : session.SamePosition session') (hunread : session'.child.unread = session.child.unread) :
    IsCut size session (.error failure) session' where
  position := hsame
  unread := hunread
  bounded := nofun
  complete := nofun

private theorem takePending_spec (size : Int) {session : Session} (hpending : session.child.pending ≠ [])
    (w : World) :
    ∃ result session', takePending size session w = ((result, session'), w) ∧
      session.IsCut size result session' := by
  refine ⟨_, _, rfl, ⟨rfl, rfl, rfl, rfl⟩, ?_, ?_, ?_⟩
  · simp [Child.unread, Except.toOption, ← List.append_assoc]
  · intro bytes hbytes
    cases hbytes
    exact List.length_take_le _ _
  · intro hempty hsize
    have htake : session.child.pending.take size.toNat = [] := Except.ok.inj hempty
    rcases List.take_eq_nil_iff.mp htake with hzero | hnone
    · omega
    · exact absurd hnone hpending

private theorem readSteps_spec (size : Int) (steps : List OutputStep) :
    ∀ (session : Session) (w : World), session.child.steps = steps →
      ∃ result session' w', readSteps size steps session w = ((result, session'), w') ∧
        w.FilesOnly w' ∧ session.IsCut size result session' := by
  -- What both cases of the recursion do where no step has to be taken.
  have hready {session : Session} (hpending : session.child.pending ≠ []) (w : World) :
      ∃ result session' w', takePending size session w = ((result, session'), w') ∧
        w.FilesOnly w' ∧ session.IsCut size result session' := by
    obtain ⟨result, session', htake, hcut⟩ := takePending_spec size hpending w
    exact ⟨result, session', w, htake, .refl w, hcut⟩
  induction steps with
  | nil =>
    intro session w hsteps
    by_cases hoff : session.child.isCutOff = true
    · refine ⟨.ok [], session, w, ?_, .refl w, isCut_cutOff size hoff⟩
      simp [readSteps, hoff]
    · by_cases hpending : session.child.pending = []
      · have hnone : session.child.unread = [] := by simp [Child.unread, hpending, hsteps]
        refine ⟨.ok [], { session with child := { session.child with isAtEnd := true } }, w, ?_,
          .refl w, ⟨rfl, rfl, rfl, rfl⟩, rfl, ?_, fun _ _ => .inr hnone⟩
        · simp [readSteps, hoff, hpending, modifyChild, Except.map]
        · intro bytes hbytes
          cases hbytes
          exact Nat.zero_le _
      · simpa [readSteps, hoff, hpending] using hready hpending w
  | cons step rest ih =>
    intro session w hsteps
    by_cases hoff : session.child.isCutOff = true
    · refine ⟨.ok [], session, w, ?_, .refl w, isCut_cutOff size hoff⟩
      simp [readSteps, hoff]
    · by_cases hpending : session.child.pending = []
      · obtain ⟨result, taken, w₁, htake, hsame, hfiles, hrest, hunread⟩ :=
          takeStep_spec hpending hsteps w
        cases result with
        | error failure =>
          refine ⟨.error failure, taken, w₁, ?_, hfiles, isCut_failed size failure hsame hunread⟩
          simp [readSteps, hoff, hpending, htake]
        | ok _ =>
          obtain ⟨result, session', w', hread, hfiles', hcut⟩ := ih taken w₁ hrest
          refine ⟨result, session', w', ?_, hfiles.trans hfiles',
            hsame.trans hcut.position, hcut.unread.trans hunread, hcut.bounded, hcut.complete⟩
          simp [readSteps, hoff, hpending, htake, hread]
      · simpa [readSteps, hoff, hpending] using hready hpending w

theorem read_spec (size : Int) (session : Session) (w : World) :
    ∃ result session' w', read size session w = ((result, session'), w') ∧ w.FilesOnly w' ∧
      session.IsCut size result session' := by
  by_cases hclosed : session.child.isClosed = true
  · refine ⟨.error .closedStream, session, w, ?_, .refl w, isCut_failed size _ (.refl session) rfl⟩
    simp [read, hclosed]
  · simpa [read, hclosed] using readSteps_spec size session.child.steps session w rfl

theorem finishReader_settles (session : Session) :
    finishReader.Settles session () { session.streamClosed with reader := .finished } :=
  (closeStream_settles session).bind (ActOn.settles_modify _ _)

/-- The session after its reader was given up. One that waits after a chunk closes the pipe. -/
def readerClosed (session : Session) : Session :=
  match session.reader with
  | .absent => session
  | .suspended => { session.streamClosed with reader := .finished }
  | .fresh | .finished => { session with reader := .finished }

/-- Giving a reader up succeeds at every point. -/
theorem closeReader_settles (session : Session) :
    closeReader.Settles session () session.readerClosed := by
  refine (ActOn.settles_get session).bind ?_
  unfold readerClosed
  cases session.reader with
  | absent => exact ActOn.settles_pure _ _
  | suspended => exact finishReader_settles session
  | fresh | finished => exact ActOn.settles_modify _ _

theorem reader_readerClosed (session : Session) :
    session.readerClosed.reader = match session.reader with
      | .absent => .absent
      | _ => .finished := by
  cases hreader : session.reader <;> simp [readerClosed, hreader]

/-- What asking for a chunk comes to while the reader can still hand something out. -/
def handOut : ActOn Session (Option (List UInt8)) := do
  match ← readChunk.onFailure finishReader with
  | some chunk =>
    modify fun session => { session with reader := .suspended }
    return some chunk
  | none =>
    finishReader
    return none

/-- A reader that can still hand something out. -/
def IsActive (session : Session) : Prop := session.reader = .fresh ∨ session.reader = .suspended

theorem next_of_active {session : Session} (hactive : session.IsActive) (w : World) :
    next session w = handOut session w := by
  obtain ⟨child, command, chunkSize, timeout, timer, reader⟩ := session
  rcases hactive with rfl | rfl <;> rfl

/-- A reader waits after a chunk, and has ended if it gave none. -/
theorem reader_next {session : Session} (hactive : session.IsActive) (w : World) :
    (next session w).1.2.reader = match (next session w).1.1 with
      | .ok (some _) => .suspended
      | _ => .finished := by
  rw [next_of_active hactive, handOut, ActOn.bind_apply, ActOn.onFailure_apply]
  rcases readChunk session w with ⟨⟨failure | chunk, read⟩, w₁⟩
  · obtain ⟨w₂, hfinish, _⟩ := finishReader_settles read w₁
    simp [hfinish]
  cases chunk with
  | some chunk => rfl
  | none =>
    obtain ⟨w₂, hfinish, _⟩ := finishReader_settles read w₁
    simp [hfinish]

/-- Nothing comes out of a pipe that has been closed. -/
theorem next_of_closed {session : Session} (hactive : session.IsActive)
    (hclosed : session.child.isClosed = true) (w : World) :
    ∃ after w', next session w = ((.error .closedStream, after), w') := by
  have hchunk : readChunk session w = ((.error .closedStream, session), w) := by
    simp [readChunk, read, hclosed]
  obtain ⟨w₂, hfinish, _⟩ := finishReader_settles session w
  refine ⟨{ session.streamClosed with reader := .finished }, w₂, ?_⟩
  rw [next_of_active hactive, handOut, ActOn.bind_apply, ActOn.onFailure_apply]
  simp [hchunk, hfinish]

end Session

end ScanLauncher
