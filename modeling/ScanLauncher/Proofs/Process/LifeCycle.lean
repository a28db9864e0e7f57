import ScanLauncher.Proofs.Process.Effects
import ScanLauncher.Proofs.Process.Launch
import ScanLauncher.Proofs.Process.Producing

namespace ScanLauncher

namespace Session

/-- What can be asked of a session. -/
inductive Call where
  | openReader
  | next
  | closeReader
  | wait
  | terminate
  | close
  | expire
deriving DecidableEq, Repr

/-- What a call gives back if it succeeds. -/
inductive Answer where
  | done
  | chunk (bytes : List UInt8)
  /-- The reader has no more chunks, or there is no reader. -/
  | exhausted
  | status (status : Int)
deriving DecidableEq, Repr

def Answer.ofChunk : Option (List UInt8) → Answer
  | some bytes => .chunk bytes
  | none => .exhausted

/-- Makes a call. -/
def Call.perform : Call → ActOn Session Answer
  | .openReader => (fun _ => .done) <$> Session.openReader
  | .next => .ofChunk <$> Session.next
  | .closeReader => (fun _ => .done) <$> Session.closeReader
  | .wait => .status <$> Session.wait
  | .terminate => (fun _ => .done) <$> Session.terminate
  | .close => (fun _ => .done) <$> Session.close
  | .expire => (fun _ => .done) <$> Session.expire

/-- One call: the session on which it was made, what was answered, and what an observer saw of it. -/
structure Moment where
  session : Session
  call : Call
  answer : Except Failure Answer
  events : List TraceEvent

/-- The reader came to the end of the output. -/
def Moment.Drains (moment : Moment) : Prop :=
  moment.call = .next ∧ moment.session.IsActive ∧ moment.answer = .ok .exhausted

/-- A session with the calls that were made on it. -/
structure History where
  session : Session
  world : World
  moments : List Moment := []

namespace History

def make (history : History) (call : Call) : History :=
  match call.perform history.session history.world with
  | ((answer, session), world) =>
    { session
      world
      moments := history.moments ++
        [{ session := history.session
           call
           answer
           events := world.trace.drop history.world.trace.length }] }

/-- Makes one call after the other, whether they succeed or not. -/
def makeAll (history : History) (calls : List Call) : History := calls.foldl make history

def IsDrained (history : History) : Prop := ∃ moment ∈ history.moments, moment.Drains

/-- Made now, the call gives this answer and changes nothing. -/
def Answers (history : History) (call : Call) (answer : Except Failure Answer) : Prop :=
  call.perform history.session history.world = ((answer, history.session), history.world)

end History

/-- A session on which no call was made yet. -/
def unused (session : Session) (w : World) : History := { session, world := w }

/-! What a single call can do. -/

/-- Where a call other than one for a chunk leaves the reader. -/
def Call.moves : Call → Reader → Reader
  | .openReader, .absent => .fresh
  | .closeReader, .fresh | .closeReader, .suspended => .finished
  | _, reader => reader

/-- Nothing was read, and no more is known of the exit. -/
structure LeavesOutput (session after : Session) : Prop where
  isDrained : after.isDrained = session.isDrained
  exitStatus : after.exitStatus = session.exitStatus
  unread : after.child.unread = session.child.unread

theorem LeavesOutput.refl (session : Session) : session.LeavesOutput session := ⟨rfl, rfl, rfl⟩

theorem leavesOutput_terminated (session : Session) : session.LeavesOutput session.terminated :=
  ⟨rfl, rfl, session.child.endsOnly_stopped.unread_eq⟩

private theorem leavesOutput_shut (session : Session) : session.LeavesOutput session.shut := by
  have hsame := session.leavesOutput_terminated
  unfold shut
  split
  · exact hsame
  · exact ⟨hsame.isDrained, hsame.exitStatus, hsame.unread⟩

/-- The reader has come to its end, and it is known how the child ended. -/
structure IsSettled (session : Session) (status : Int) : Prop extends session.IsOver status where
  reader : session.reader = .finished

/-- The output was drained and the exit is known, or neither. -/
def IsOrderly (session : Session) : Prop :=
  (session.isDrained = false ∧ session.exitStatus = none) ∨ ∃ status, session.IsSettled status

private theorem IsOrderly.isReading {session : Session} (horderly : session.IsOrderly)
    (hactive : session.IsActive) : session.IsReading := by
  rcases horderly with ⟨_, hstatus⟩ | ⟨status, hsettled⟩
  · exact ⟨hactive, hstatus⟩
  · rcases hactive with hfresh | hsuspended
    · exact absurd (hfresh.symm.trans hsettled.reader) nofun
    · exact absurd (hsuspended.symm.trans hsettled.reader) nofun

/-- What a call can come to: a reader is asked for a chunk, or nothing is read. -/
inductive CallCase (session : Session) : Call → Except Failure Answer → Session → Prop
  | asked {result : Except Failure (Option (List UInt8))} {after : Session}
      (hreading : session.IsReading)
      (hreader : after.reader = match result with
        | .ok (some _) => .suspended
        | _ => .finished)
      (hcase : session.NextCase result after) :
      CallCase session .next (result.map .ofChunk) after
  | aside {call : Call} {answer : Except Failure Answer} {after : Session}
      (hcall : call = .next → ¬ session.IsActive) (hanswer : ∀ bytes, answer ≠ .ok (.chunk bytes))
      (hreader : after.reader = call.moves session.reader) (hsame : session.LeavesOutput after) :
      CallCase session call answer after

theorem perform_openReader (session : Session) (w : World) :
    Call.openReader.perform session w = match session.reader with
      | .absent => ((.ok .done, { session with reader := .fresh }), w)
      | _ => ((.error (.misuse .alreadyConsumed), session), w) := by
  cases hreader : session.reader <;> simp [Call.perform, openReader, hreader] <;> rfl

theorem perform_wait_undrained {session : Session} (hdrained : session.isDrained = false) (w : World) :
    Call.wait.perform session w = ((.error (.misuse .notDrained), session), w) := by
  simp [Call.perform, wait, hdrained]
  rfl

theorem perform_wait_known {session : Session} {status : Int} (hover : session.IsOver status)
    (w : World) : Call.wait.perform session w = ((.ok (.status status), session), w) := by
  simp [Call.perform, wait, hover.isDrained, hover.exitStatus]
  rfl

private theorem perform_expire_over {session : Session} {status : Int} (hover : session.IsOver status)
    (w : World) : Call.expire.perform session w = ((.ok .done, session), w) := by
  simp [Call.perform, expire, hover.isDrained, Child.isRunning, hover.poll]
  rfl

theorem answer_ne_chunk (refusal : Option Errno) (bytes : List UInt8) :
    (answer refusal).map (fun _ => Answer.done) ≠ .ok (.chunk bytes) := by
  cases refusal <;> nofun

private theorem leavesOutput_readerClosed (session : Session) :
    session.LeavesOutput session.readerClosed := by
  unfold readerClosed
  cases session.reader with
  | absent => exact .refl session
  | fresh | suspended | finished => exact ⟨rfl, rfl, rfl⟩

theorem Call.perform_cases (call : Call) {session : Session} (horderly : session.IsOrderly)
    (w : World) :
    ∃ answer after w', call.perform session w = ((answer, after), w') ∧
      session.CallCase call answer after := by
  cases call with
  | openReader =>
    rw [perform_openReader]
    cases hreader : session.reader with
    | absent =>
      exact ⟨_, _, _, rfl, .aside nofun nofun (by simp [moves, hreader]) ⟨rfl, rfl, rfl⟩⟩
    | fresh | suspended | finished =>
      exact ⟨_, _, _, rfl, .aside nofun nofun (by simp [moves, hreader]) (.refl session)⟩
  | next =>
    by_cases hactive : session.IsActive
    · have hreading := horderly.isReading hactive
      obtain ⟨result, after, w', hnext, hcase⟩ := next_cases hreading w
      have hreader := reader_next hactive w
      rw [hnext] at hreader
      exact ⟨_, after, w', by simp [perform, hnext], .asked hreading hreader hcase⟩
    · refine ⟨.ok .exhausted, session, w, ?_, .aside (fun _ => hactive) nofun rfl (.refl session)⟩
      cases hreader : session.reader with
      | absent | finished =>
        simp [perform, Session.next, hreader]
        rfl
      | fresh => exact absurd (.inl hreader) hactive
      | suspended => exact absurd (.inr hreader) hactive
  | closeReader =>
    obtain ⟨w', hclose, _⟩ := closeReader_settles session w
    refine ⟨.ok .done, session.readerClosed, w', by simp [perform, hclose, Except.map],
      .aside nofun nofun ?_ session.leavesOutput_readerClosed⟩
    rw [session.reader_readerClosed]
    cases session.reader <;> rfl
  | wait =>
    rcases horderly with ⟨hdrained, _⟩ | ⟨status, hsettled⟩
    · exact ⟨_, _, _, perform_wait_undrained hdrained w, .aside nofun nofun rfl (.refl session)⟩
    · exact ⟨_, _, _, perform_wait_known hsettled.toIsOver w,
        .aside nofun nofun rfl (.refl session)⟩
  | terminate =>
    obtain ⟨w', hterminate, _⟩ := terminate_ends session w
    exact ⟨(answer session.child.stopRefusal?).map fun _ => .done, session.terminated, w',
      by simp [perform, hterminate],
      .aside nofun (answer_ne_chunk _) rfl session.leavesOutput_terminated⟩
  | close =>
    obtain ⟨w', hclose, _⟩ := close_ends session w
    exact ⟨(answer session.child.stopRefusal?).map fun _ => .done, session.shut, w',
      by simp [perform, hclose],
      .aside nofun (answer_ne_chunk _) (by unfold shut; split <;> rfl) session.leavesOutput_shut⟩
  | expire =>
    obtain ⟨answer, after, w', hexpire, _, hafter⟩ := expire_cases session w
    refine ⟨answer.map fun _ => .done, after, w', by simp [perform, hexpire],
      .aside nofun (by cases answer <;> nofun) ?_ ?_⟩
    · rcases hafter with rfl | rfl <;> rfl
    · rcases hafter with rfl | rfl
      · exact .refl after
      · have hsame := { session with isTimedOut := true }.leavesOutput_terminated
        exact ⟨hsame.isDrained, hsame.exitStatus, hsame.unread⟩

theorem Call.effects_perform (call : Call) {first : Session} {w₀ : World} :
    call.perform.Keeps (Effects first w₀) := by
  cases call with
  | openReader => exact effects_openReader.map
  | next => exact effects_next.map
  | closeReader => exact effects_closeReader.map
  | wait => exact effects_wait.map
  | terminate => exact effects_terminate.map
  | close => exact effects_close.map
  | expire => exact effects_expire.map

/-! What calls in any order come to. -/

/-- Once it is known how the child ended no call changes it, whatever signals are sent. -/
theorem IsSettled.perform {session : Session} {status : Int} (hsettled : session.IsSettled status)
    (call : Call) (w : World) : (call.perform session w).1.2.IsSettled status := by
  obtain ⟨answer, after, w', hperform, hcase⟩ := call.perform_cases (.inr ⟨status, hsettled⟩) w
  have heffects := call.effects_perform session w .refl
  rw [hperform] at heffects
  have hpoll : after.child.poll = some status := heffects.poll_eq hsettled.poll
  rw [hperform]
  cases hcase with
  | asked hreading =>
    rcases hreading.reader with hactive | hactive <;>
      exact absurd (hactive.symm.trans hsettled.reader) nofun
  | aside _ _ hreader hsame =>
    refine ⟨⟨hsame.isDrained.trans hsettled.isDrained, hsame.exitStatus.trans hsettled.exitStatus,
      hpoll⟩, ?_⟩
    rw [hreader, hsettled.reader]
    cases call <;> rfl

theorem IsOrderly.perform {session : Session} (horderly : session.IsOrderly) (call : Call)
    (w : World) : (call.perform session w).1.2.IsOrderly := by
  rcases horderly with ⟨hopen, hunknown⟩ | ⟨status, hsettled⟩
  · obtain ⟨answer, after, w', hperform, hcase⟩ := call.perform_cases (.inl ⟨hopen, hunknown⟩) w
    rw [hperform]
    cases hcase with
    | asked _ hreader hcase =>
      cases hcase with
      | chunk _ _ hreading hdrained => exact .inl ⟨hdrained.trans hopen, hreading.exitStatus⟩
      | drained hover => exact .inr ⟨_, hover, hreader⟩
      | failed _ hdrained hstatus => exact .inl ⟨hdrained.trans hopen, hstatus⟩
    | aside _ _ _ hsame =>
      exact .inl ⟨hsame.isDrained.trans hopen, hsame.exitStatus.trans hunknown⟩
  · exact .inr ⟨status, hsettled.perform call w⟩

private theorem Call.moves_eq_absent_iff (call : Call) (reader : Reader) :
    call.moves reader = .absent ↔ reader = .absent ∧ call ≠ .openReader := by
  cases call <;> cases reader <;> simp [moves]

namespace History

theorem make_eq {history : History} {call : Call} {answer : Except Failure Answer} {after : Session}
    {w' : World} (hperform : call.perform history.session history.world = ((answer, after), w')) :
    history.make call = ⟨after, w', history.moments ++ [⟨history.session, call, answer,
      w'.trace.drop history.world.trace.length⟩]⟩ := by
  simp only [make, hperform]

theorem makeAll_append (history : History) (calls more : List Call) :
    history.makeAll (calls ++ more) = (history.makeAll calls).makeAll more := List.foldl_append

theorem makeAll_concat (history : History) (calls : List Call) (call : Call) :
    history.makeAll (calls ++ [call]) = (history.makeAll calls).make call :=
  history.makeAll_append calls [call]

/-- What holds before any call and is kept by each call holds after calls in any order. -/
theorem makeAll_induction {motive : List Call → History → Prop} {first : History}
    (hfirst : motive [] first)
    (hmake : ∀ calls history call, motive calls history → motive (calls ++ [call]) (history.make call))
    (calls : List Call) : motive calls (first.makeAll calls) := by
  have hmore (made : List Call) (history : History) (hmade : motive made history) :
      motive (made ++ calls) (history.makeAll calls) := by
    induction calls generalizing made history with
    | nil => simpa [makeAll] using hmade
    | cons call rest ih =>
      have hnext := ih (made ++ [call]) (history.make call) (hmake made history call hmade)
      simpa [makeAll, List.append_assoc] using hnext
  exact hmore [] first hfirst

theorem effects_makeAll (first : History) (calls : List Call) :
    Effects first.session first.world (first.makeAll calls).session (first.makeAll calls).world :=
  makeAll_induction (motive := fun _ history =>
      Effects first.session first.world history.session history.world)
    .refl (fun _ history call h => call.effects_perform history.session history.world h) calls

theorem isSettled_makeAll {history : History} {status : Int}
    (hsettled : history.session.IsSettled status) (calls : List Call) :
    (history.makeAll calls).session.IsSettled status :=
  makeAll_induction (motive := fun _ history => history.session.IsSettled status) hsettled
    (fun _ history call h => h.perform call history.world) calls

/-- What a session shows of the calls that were made on it. -/
structure IsSound (calls : List Call) (history : History) : Prop where
  orderly : history.session.IsOrderly
  reader : history.session.reader = .absent ↔ .openReader ∉ calls
  drained : history.session.isDrained = true ↔ history.IsDrained

private theorem isDrained_concat {history after : History} {moment : Moment}
    (hmoments : after.moments = history.moments ++ [moment]) :
    after.IsDrained ↔ history.IsDrained ∨ moment.Drains := by
  simp only [IsDrained, hmoments, List.mem_append, List.mem_singleton]
  constructor
  · rintro ⟨m, hold | rfl, hdrains⟩
    · exact .inl ⟨m, hold, hdrains⟩
    · exact .inr hdrains
  · rintro (⟨m, hold, hdrains⟩ | hdrains)
    · exact ⟨m, .inl hold, hdrains⟩
    · exact ⟨moment, .inr rfl, hdrains⟩

theorem IsSound.make {calls : List Call} {history : History} (hsound : history.IsSound calls)
    (call : Call) : (history.make call).IsSound (calls ++ [call]) := by
  obtain ⟨answer, after, w', hperform, hcase⟩ := call.perform_cases hsound.orderly history.world
  have horderly := hsound.orderly.perform call history.world
  rw [hperform] at horderly
  rw [make_eq hperform]
  refine ⟨horderly, ?_, ?_⟩
  · have hcalls : .openReader ∉ calls ++ [call] ↔
        history.session.reader = .absent ∧ call ≠ .openReader := by
      rw [hsound.reader]
      simp [eq_comm]
    rw [hcalls]
    cases hcase with
    | asked hreading hreader =>
      constructor
      · intro habsent
        rw [hreader] at habsent
        split at habsent <;> cases habsent
      · rintro ⟨habsent, _⟩
        rcases hreading.reader with hactive | hactive <;>
          exact absurd (habsent.symm.trans hactive) nofun
    | aside _ _ hreader =>
      rw [hreader]
      exact call.moves_eq_absent_iff _
  · rw [isDrained_concat rfl, ← hsound.drained]
    cases hcase with
    | asked hreading _ hcase =>
      cases hcase with
      | chunk _ _ _ hdrained => simp [hdrained, Moment.Drains, Except.map, Answer.ofChunk]
      | drained hover =>
        simp [hover.isDrained, Moment.Drains, hreading.reader, Except.map, Answer.ofChunk]
      | failed _ hdrained => simp [hdrained, Moment.Drains, Except.map]
    | aside hcall _ _ hsame =>
      rw [hsame.isDrained]
      refine ⟨.inl, fun h => h.resolve_right ?_⟩
      rintro ⟨hnext, hactive, _⟩
      exact hcall hnext hactive

private theorem isSound_makeAll {session : Session} {chunkSize : Int} (hnew : session.IsNew chunkSize)
    (w : World) (calls : List Call) : ((session.unused w).makeAll calls).IsSound calls := by
  refine makeAll_induction (motive := fun calls history => history.IsSound calls) ?_
    (fun _ _ call hsound => hsound.make call) calls
  refine ⟨.inl ⟨hnew.isDrained, hnew.exitStatus⟩, ?_, ?_⟩
  · simpa [unused] using hnew.reader
  · simpa [unused, IsDrained] using hnew.isDrained

end History

/-- A session that was just started, after any calls in any order. The reader can be had if nobody has
asked for it before; asked for again, it is refused and nothing happens. Until the output has been
drained the exit status is not known and waiting for it is refused; from then on it is the one of the
child, which no call changes any more. The mark of a timeout stays once it is set, and is not set after
the exit status is known. -/
theorem life_cycle {command : List Value} {workingDir : Text} {chunkSize : Int}
    {timeout : Option Seconds} {session : Session} {w w₀ : World}
    (hlaunch : launch command workingDir chunkSize timeout w = (.ok session, w₀))
    (calls : List Call) :
    let history := (session.unused w₀).makeAll calls
    (.openReader ∈ calls → history.Answers .openReader (.error (.misuse .alreadyConsumed))) ∧
    (.openReader ∉ calls →
      (Call.openReader.perform history.session history.world).1.1 = .ok .done) ∧
    (¬ history.IsDrained →
      history.session.exitStatus = none ∧ history.Answers .wait (.error (.misuse .notDrained))) ∧
    (history.IsDrained → ∃ status,
      history.session.exitStatus = some status ∧ history.session.child.poll = some status ∧
      history.Answers .wait (.ok (.status status)) ∧
      ∀ more, (history.makeAll more).session.exitStatus = some status) ∧
    (history.session.exitStatus ≠ none → history.Answers .expire (.ok .done)) ∧
    ∀ more, history.session.isTimedOut = true → (history.makeAll more).session.isTimedOut = true := by
  intro history
  have hnew := isNew_of_launch hlaunch
  have hsound : history.IsSound calls := History.isSound_makeAll hnew w₀ calls
  refine ⟨fun hasked => ?_, fun hunasked => ?_, fun hopen => ?_, fun hdrained => ?_, fun hknown => ?_,
    fun more htimed => (history.effects_makeAll more).isTimedOut htimed⟩
  · have hreader : history.session.reader ≠ .absent := fun h => hsound.reader.mp h hasked
    rw [History.Answers, perform_openReader]
    cases hcase : history.session.reader with
    | absent => exact absurd hcase hreader
    | fresh | suspended | finished => rfl
  · rw [perform_openReader, hsound.reader.mpr hunasked]
  · have hflag : history.session.isDrained = false := by
      simpa using fun h => hopen (hsound.drained.mp h)
    rcases hsound.orderly with ⟨_, hunknown⟩ | ⟨status, hsettled⟩
    · exact ⟨hunknown, perform_wait_undrained hflag _⟩
    · exact absurd (hsettled.isDrained.symm.trans hflag) nofun
  · have hflag := hsound.drained.mpr hdrained
    rcases hsound.orderly with ⟨hflag', _⟩ | ⟨status, hsettled⟩
    · exact absurd (hflag.symm.trans hflag') nofun
    · exact ⟨status, hsettled.exitStatus, hsettled.poll, perform_wait_known hsettled.toIsOver _,
        fun more => (History.isSettled_makeAll hsettled more).exitStatus⟩
  · rcases hsound.orderly with ⟨_, hunknown⟩ | ⟨status, hsettled⟩
    · exact absurd hunknown hknown
    · exact perform_expire_over hsettled.toIsOver _

/-- A script that says something and then hangs. -/
def hangingWorld : World where
  files := { tree := ⟨[]⟩, cwd := [] }
  specs := [{ output := [.data [0x68, 0x69], .hang] }]

/-- The limit strikes while more output is waited for, and the script ends at the request; no call
after that changes its status. -/
theorem life_cycle_hangingWorld :
    ∃ session w₀, launch [.text "scan"] "/" 4096 (some (.whole 1)) hangingWorld = (.ok session, w₀) ∧
      ∀ more, (((session.unused w₀).makeAll [.openReader, .next, .next]).makeAll
        more).session.exitStatus = some (-15) := by
  obtain ⟨session, w₀, hlaunch, hexit⟩ : ∃ session w₀,
      launch [.text "scan"] "/" 4096 (some (.whole 1)) hangingWorld = (.ok session, w₀) ∧
        ((session.unused w₀).makeAll [.openReader, .next, .next]).session.exitStatus = some (-15) :=
    ⟨_, _, rfl, by decide +kernel⟩
  obtain ⟨_, _, hopen, hdrained, _⟩ := life_cycle hlaunch [.openReader, .next, .next]
  refine ⟨session, w₀, hlaunch, fun more => ?_⟩
  have hend : ((session.unused w₀).makeAll [.openReader, .next, .next]).IsDrained :=
    Classical.byContradiction fun h => absurd ((hopen h).1.symm.trans hexit) nofun
  obtain ⟨status, hstatus, _, _, hstays⟩ := hdrained hend
  rw [hstays more, ← hstatus, hexit]

end Session

end ScanLauncher
