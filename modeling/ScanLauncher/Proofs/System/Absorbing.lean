import ScanLauncher.Proofs.Process.Independence
import ScanLauncher.Proofs.System.Exclusion
import ScanLauncher.Proofs.System.Reader

namespace ScanLauncher

namespace RunState

/-- Whether a run in this state has ended. -/
def isEnd : RunState → Bool
  | done | failed => true
  | _ => false

/-- How far a run has come in this state. -/
def rank : RunState → Nat
  | idle => 0
  | normalizing => 1
  | resetting => 2
  | running => 3
  | streaming => 4
  | listing => 5
  | done => 6
  | failed => 7

/-- A run may go from the first state to the second: it stays, or it moves forward and has not
ended. -/
def Leads (before after : RunState) : Prop :=
  before = after ∨ before.isEnd = false ∧ before.rank < after.rank

/-- A run that has not ended can go to every state from streaming on, but not back from listing. -/
theorem leads_of_active {before after : RunState} (hactive : before.isEnd = false)
    (hafter : streaming.rank ≤ after.rank) (hback : before = .listing → after ≠ .streaming) :
    before.Leads after := by
  cases before with
  | done | failed => cases hactive
  | idle | normalizing | resetting | running => exact .inr ⟨rfl, Nat.lt_of_lt_of_le (by decide) hafter⟩
  | streaming | listing =>
    cases after with
    | idle | normalizing | resetting | running => exact absurd hafter (by decide)
    | streaming | listing | done | failed => simp_all [Leads, isEnd, rank]

end RunState

/-- The stages from which a body goes on although its run has ended. -/
def BodyStage.goesOn : BodyStage → Bool
  | fresh | status | closed | sentinel | report [] => true
  | report (file :: _) => (Body.reportLine? file).isSome
  | opened | chunk _ | finished => false

namespace Run

theorem closed_of_isClosed {run : Run} (hclosed : run.isClosed = true) : run.closed = run := by
  simp [closed, hclosed]

/-- The run is closed exactly if it has ended. -/
def IsTidy (run : Run) : Prop := run.isClosed = run.state.isEnd

private theorem IsTidy.closed_eq {run : Run} (htidy : run.IsTidy) (hend : run.state.isEnd = true) :
    run.closed = run :=
  closed_of_isClosed (htidy.trans hend)

theorem IsTidy.state_closed {run : Run} (htidy : run.IsTidy) (hactive : run.state.isEnd = false) :
    run.closed.state = .failed := by
  have hopen : run.isClosed = false := htidy.trans hactive
  have hstate : run.state ≠ .done := by
    rintro hdone
    rw [hdone] at hactive
    cases hactive
  simp [closed, hopen, hstate]

/-- Closing a run moves it forward and leaves it closed and ended. -/
theorem IsTidy.closed {run : Run} (htidy : run.IsTidy) :
    run.state.Leads run.closed.state ∧ run.closed.IsTidy := by
  cases hend : run.state.isEnd with
  | true =>
    rw [htidy.closed_eq hend]
    exact ⟨.inl rfl, htidy⟩
  | false =>
    have hstate := htidy.state_closed hend
    refine ⟨?_, ?_⟩
    · rw [hstate]
      exact RunState.leads_of_active hend (by decide) nofun
    · rw [IsTidy, hstate, isClosed_closed]
      rfl

end Run

namespace Body

/-- A body of a run that has not ended moves the run forward, unless the run is listing its reports and
the body is a new one. -/
theorem Step.leads {w : World} {run : Run} {stage : BodyStage}
    {result : Except Failure (Option (List UInt8))} {body : Body}
    (hstep : Step w ⟨run, stage⟩ result body) (htidy : run.IsTidy)
    (hactive : run.state.isEnd = false) (hfirst : run.state = .listing → stage ≠ .fresh) :
    run.state.Leads body.run.state ∧ body.run.IsTidy := by
  have hopen : run.isClosed = false := htidy.trans hactive
  cases hstep with
  | spent | closing | chunk | status => exact ⟨.inl rfl, htidy⟩
  | refused | unlisted => exact htidy.closed
  | broken =>
    rename_i asked after failure w' hreads hnext
    have hkept : (run.atOutput after).IsTidy := htidy
    exact hkept.closed
  | opening =>
    exact ⟨RunState.leads_of_active hactive (Nat.le_refl _) fun hlisting =>
      absurd rfl (hfirst hlisting), hopen⟩
  | announcing =>
    have hlisting : run.state.Leads .listing := RunState.leads_of_active hactive (by decide) nofun
    exact ⟨hlisting, hopen⟩
  | report hlists => cases hlists <;> exact ⟨.inl rfl, htidy⟩
  | unnamed hlists =>
    cases hlists with
    | before => exact htidy.closed
    | now =>
      have hkept (reports : List ReportFile) : (run.listed reports).IsTidy := htidy
      exact (hkept _).closed
  | ended hlists =>
    have hdone : run.state.Leads .done := RunState.leads_of_active hactive (by decide) nofun
    cases hlists with
    | before | now => exact ⟨by simpa [Run.closed, Run.listed, hopen] using hdone, by
        simp [Run.IsTidy, Run.closed, Run.listed, hopen, RunState.isEnd]⟩

/-- Asked for output now, the body gets an error. -/
def IsMute (body : Body) (w : World) : Prop :=
  ∀ asked, body.Reads asked → ∀ chunk, (asked.next w).1.1 ≠ .ok chunk

theorem Reads.unique {body : Body} {asked asked' : Session} (hreads : Reads body asked)
    (hreads' : Reads body asked') : asked' = asked := by
  cases hreads with
  | first hsession =>
    cases hreads' with
    | first hsession' => rw [List.singleton_inj.mp (hsession.symm.trans hsession')]
  | later hsession =>
    cases hreads' with
    | later hsession' => exact List.singleton_inj.mp (hsession'.symm.trans hsession)

/-- Whoever asks for output when the pipe is closed is told so. -/
theorem Reads.closedStream {run : Run} {stage : BodyStage} {session asked after : Session}
    {w w' : World} {result : Except Failure (Option (List UInt8))}
    (hreads : Reads ⟨run, stage⟩ asked) (hsession : run.sessions = [session])
    (hpipe : session.child.isClosed = true)
    (hreader : ∀ index, stage = .chunk index → session.IsActive)
    (hnext : asked.next w = ((result, after), w')) : result = .error .closedStream := by
  obtain ⟨hactive, hclosed⟩ : asked.IsActive ∧ asked.child.isClosed = true := by
    cases hreads with
    | first hsession' =>
      obtain rfl := List.singleton_inj.mp (hsession.symm.trans hsession')
      exact ⟨.inl rfl, hpipe⟩
    | later hsession' =>
      obtain rfl := List.singleton_inj.mp (hsession.symm.trans hsession')
      exact ⟨hreader 0 rfl, hpipe⟩
  obtain ⟨_, _, hbroken⟩ := asked.next_of_closed hactive hclosed w
  rw [hnext] at hbroken
  cases hbroken
  rfl

private theorem isMute_of_closed {run : Run} {stage : BodyStage} {session : Session}
    (hsession : run.sessions = [session]) (hpipe : session.child.isClosed = true)
    (hreader : ∀ index, stage = .chunk index → session.IsActive) (w : World) :
    IsMute ⟨run, stage⟩ w := by
  intro asked hreads chunk hok
  rcases hnext : asked.next w with ⟨⟨result, after⟩, w'⟩
  obtain rfl := hreads.closedStream hsession hpipe hreader hnext
  simp [hnext] at hok

/-- Whatever else there is in the world with these files, a step of the body comes to the same, and it
changes nothing of the run but the session. -/
def HaltsWith (files : FileSystem) (run : Run) (stage : BodyStage)
    (halt : Except Failure (Option (List UInt8))) : Prop :=
  ∀ w result body, w.files = files → Step w ⟨run, stage⟩ result body →
    result = halt ∧ ∃ sessions, body.run = { run with sessions }

section Halting

variable {files : FileSystem} {run : Run} {session : Session}

private theorem haltsWith_finished : HaltsWith files run .finished (.ok none) := by
  intro w result body _ hstep
  cases hstep with
  | spent => exact ⟨rfl, run.sessions, rfl⟩
  | chunk hreads | status hreads | broken hreads => cases hreads
  | report hlists | unnamed hlists | ended hlists => cases hlists

private theorem haltsWith_opened_taken (hclosed : run.isClosed = true) (hsession : run.sessions = [session])
    (htaken : session.reader ≠ .absent) :
    HaltsWith files run .opened (.error (.misuse .alreadyConsumed)) := by
  intro w result body _ hstep
  have hfirst {asked : Session} (hreads : Reads ⟨run, .opened⟩ asked) : False := by
    cases hreads with
    | first hsession' hreader' =>
      obtain rfl := List.singleton_inj.mp (hsession.symm.trans hsession')
      exact htaken hreader'
  cases hstep with
  | refused =>
    exact ⟨Run.concluding_of_isClosed hclosed _, run.sessions, Run.closed_of_isClosed hclosed⟩
  | chunk hreads | status hreads | broken hreads => exact (hfirst hreads).elim
  | report hlists | unnamed hlists | ended hlists => cases hlists

private theorem haltsWith_mute {stage : BodyStage} {asked after : Session} {failure : Failure} {w₀ w₁ : World}
    (hclosed : run.isClosed = true) (hreads : Reads ⟨run, stage⟩ asked)
    (hnext : asked.next w₀ = ((.error failure, after), w₁)) :
    HaltsWith w₀.files run stage (.error failure) := by
  intro w result body hfiles hstep
  have hsame {asked' after' : Session} {w' : World} {result' : Except Failure (Option (List UInt8))}
      (hreads' : Reads ⟨run, stage⟩ asked') (hnext' : asked'.next w = ((result', after'), w')) :
      result' = .error failure := by
    obtain rfl := hreads.unique hreads'
    have hcongr := asked'.next_congr hfiles
    rw [hnext, hnext'] at hcongr
    exact congrArg Prod.fst hcongr
  have hended (after' : Session) (failure' : Failure) :
      (run.atOutput after').concluding (.error failure') =
          (.error failure' : Except Failure (Option (List UInt8))) ∧
        (run.atOutput after').closed = { run with sessions := [after'] } := by
    have hkept : (run.atOutput after').isClosed = true := hclosed
    exact ⟨Run.concluding_of_isClosed hkept _, Run.closed_of_isClosed hkept⟩
  cases hreads with
  | first hsession habsent =>
    cases hstep with
    | refused hsession' htaken =>
      obtain rfl := List.singleton_inj.mp (hsession.symm.trans hsession')
      exact absurd habsent htaken
    | chunk hreads' hnext' | status hreads' hnext' => cases hsame hreads' hnext'
    | broken hreads' hnext' =>
      obtain ⟨hresult, hrun⟩ := hended _ _
      exact ⟨hresult.trans (hsame hreads' hnext'), _, hrun⟩
    | report hlists | unnamed hlists | ended hlists => cases hlists
  | later hsession =>
    cases hstep with
    | chunk hreads' hnext' | status hreads' hnext' => cases hsame hreads' hnext'
    | broken hreads' hnext' =>
      obtain ⟨hresult, hrun⟩ := hended _ _
      exact ⟨hresult.trans (hsame hreads' hnext'), _, hrun⟩
    | report hlists | unnamed hlists | ended hlists => cases hlists

private theorem haltsWith_unnamed {file : ReportFile} {rest : List ReportFile}
    (hclosed : run.isClosed = true) (hline : reportLine? file = none) :
    HaltsWith files run (.report (file :: rest)) (.error .notEncodable) := by
  intro w result body _ hstep
  cases hstep with
  | chunk hreads | status hreads | broken hreads => cases hreads
  | report hlists hline' =>
    cases hlists with
    | before =>
      rw [hline] at hline'
      cases hline'
  | unnamed hlists =>
    cases hlists with
    | before =>
      exact ⟨Run.concluding_of_isClosed hclosed _, run.sessions, Run.closed_of_isClosed hclosed⟩
  | ended hlists => cases hlists

/-- The body of a run that has ended says nothing from the other stages, if it gets no output. What comes
of it does not depend on anything but the files, and it changes nothing of the run but the session. -/
theorem exists_halt {stage : BodyStage} {w : World} (hclosed : run.isClosed = true)
    (hsession : run.sessions = [session]) (hhalts : stage.goesOn = false)
    (hmute : IsMute ⟨run, stage⟩ w) :
    ∃ halt : Except Failure (Option (List UInt8)), (∀ item, halt ≠ .ok (some item)) ∧
      HaltsWith w.files run stage halt := by
  by_cases hreads : ∃ asked, Reads ⟨run, stage⟩ asked
  · obtain ⟨asked, hreads⟩ := hreads
    rcases hnext : asked.next w with ⟨⟨failure | chunk, after⟩, w'⟩
    · exact ⟨.error failure, by simp, haltsWith_mute hclosed hreads hnext⟩
    · exact absurd (by rw [hnext]) (hmute asked hreads chunk)
  cases stage with
  | fresh | status | closed | sentinel => cases hhalts
  | finished => exact ⟨.ok none, by simp, haltsWith_finished⟩
  | opened =>
    refine ⟨_, by simp, haltsWith_opened_taken hclosed hsession fun habsent => hreads ?_⟩
    exact ⟨_, .first hsession habsent⟩
  | chunk index =>
    refine ⟨.ok none, by simp, fun w result body _ hstep => ?_⟩
    cases hstep with
    | chunk hreads' | status hreads' | broken hreads' => exact absurd ⟨_, hreads'⟩ hreads
    | report hlists | unnamed hlists | ended hlists => cases hlists
  | report reports =>
    cases reports with
    | nil => cases hhalts
    | cons file rest =>
      have hline : reportLine? file = none := by simpa [BodyStage.goesOn] using hhalts
      exact ⟨_, by simp, haltsWith_unnamed hclosed hline⟩

end Halting

/-- What a body does from the stages from which it goes on: it hands out an item, it lists the
reports, or the run is done. -/
theorem Step.of_goesOn {w : World} {run : Run} {stage : BodyStage}
    {result : Except Failure (Option (List UInt8))} {body : Body}
    (hstep : Step w ⟨run, stage⟩ result body) (hgoes : stage.goesOn = true) :
    (∃ item, result = .ok (some item)) ∨ stage = .sentinel ∨
      stage.isLate = true ∧ body.run = { run with state := .done }.closed := by
  cases hstep with
  | opening | closing | announcing | chunk | status | report => exact .inl ⟨_, rfl⟩
  | spent | refused => cases hgoes
  | broken hreads => cases hreads <;> cases hgoes
  | unlisted => exact .inr (.inl rfl)
  | unnamed hlists hline =>
    cases hlists with
    | now => exact .inr (.inl rfl)
    | before => simp [BodyStage.goesOn, hline] at hgoes
  | ended hlists =>
    cases hlists with
    | now => exact .inr (.inl rfl)
    | before => exact .inr (.inr ⟨rfl, rfl⟩)

private theorem Step.of_output {w : World} {body body' : Body} {result : Except Failure (Option (List UInt8))}
    (hstep : Step w body result body') {asked : Session} (hreads : Reads body asked)
    {chunk : Option (List UInt8)} (hok : (asked.next w).1.1 = .ok chunk) :
    ∃ item, result = .ok (some item) := by
  cases hstep with
  | opening | closing | announcing | chunk | status | report => exact ⟨_, rfl⟩
  | spent | unlisted => cases hreads
  | refused hsession htaken =>
    cases hreads with
    | first hsession' habsent =>
      obtain rfl := List.singleton_inj.mp (hsession.symm.trans hsession')
      exact absurd habsent htaken
  | broken hreads' hnext =>
    obtain rfl := hreads.unique hreads'
    simp [hnext] at hok
  | unnamed hlists | ended hlists => cases hlists <;> cases hreads

private theorem Step.state_of_fresh {w : World} {run : Run} {result : Except Failure (Option (List UInt8))}
    {body : Body} (hstep : Step w ⟨run, .fresh⟩ result body) : body.run.state = .streaming := by
  cases hstep with
  | opening => rfl
  | chunk hreads | status hreads | broken hreads => cases hreads
  | report hlists | unnamed hlists | ended hlists => cases hlists

/-- At the sentinel of a run that is closed the answer is what looking into the report directory
shows. -/
theorem Step.of_listFault {w : World} {run : Run} {result : Except Failure (Option (List UInt8))}
    {body : Body} (hstep : Step w ⟨run, .sentinel⟩ result body) (hclosed : run.isClosed = true) :
    (w.faults.list = some .silent → result = .ok none) ∧
      ∀ words, w.faults.list = some (.text words) → result = .error (.os (.described words)) := by
  have hlisted {reports : List ReportFile} {run' : Run}
      (hlists : Lists w ⟨run, .sentinel⟩ run' reports) :
      (Report.list run.config.reportDir w).1 = .ok reports := by
    cases hlists with
    | now hlist => exact hlist
  refine ⟨fun hfault => ?_, fun words hfault => ?_⟩
  · have hlist : (Report.list run.config.reportDir w).1 = .ok [] := by
      simp [Report.list, Report.scan, hfault, Report.regularNames, Except.map]
    cases hstep with
    | chunk hreads | status hreads | broken hreads => cases hreads
    | ended hlists =>
      cases hlists with
      | now => exact Run.concluding_of_isClosed hclosed _
    | report hlists | unnamed hlists => cases hlist.symm.trans (hlisted hlists)
    | unlisted hlist' => cases hlist.symm.trans hlist'
  · have hlist : (Report.list run.config.reportDir w).1 = .error (.os (.described words)) := by
      simp [Report.list, Report.scan, hfault, Report.isAbsence, OsError.errno?]
    cases hstep with
    | chunk hreads | status hreads | broken hreads => cases hreads
    | report hlists | unnamed hlists | ended hlists => cases hlist.symm.trans (hlisted hlists)
    | unlisted hlist' =>
      cases hlist.symm.trans hlist'
      exact Run.concluding_of_isClosed hclosed _

end Body

/-- Nothing is left to be done when a body of a closed run is given up. -/
theorem Body.GivenUp.eq_ok {run : Run} {stage : BodyStage} {result : Except Failure Unit} {body : Body}
    (hgiven : GivenUp ⟨run, stage⟩ result body) (hclosed : run.isClosed = true) : result = .ok () := by
  cases hgiven with
  | unread => rfl
  | between | reading => exact Run.closing_of_isClosed hclosed

/-- What the time being up comes to depends on the session alone. -/
theorem Session.expire_result (session : Session) (w : World) :
    (expire session w).1.1 =
      if session.isDrained && !session.child.isRunning then .ok ()
      else if session.timeoutText?.isSome then answer session.child.stopRefusal?
      else .error .longNumber := by
  by_cases hover : (session.isDrained && !session.child.isRunning) = true
  · simp only [expire, ActOn.bind_apply, ActOn.get_apply, hover, if_true, ActOn.pure_apply]
  · cases hlimit : session.timeoutText? with
    | none =>
      simp only [expire, ActOn.bind_apply, ActOn.get_apply, hover, hlimit]
      rfl
    | some limit =>
      obtain ⟨w', hexpire, _⟩ := expire_ends (eq_false_of_ne_true hover) hlimit w
      simp [hexpire, hover]

namespace System

/-- The system where looking into the report directory shows another fault, or none. -/
def showing (s : System) (effect : Option FaultEffect) : System :=
  (s.perform (.disturb s.world.files { s.world.faults with list := effect })).2

/-- The operation leaves a run in its order: the run's state moves forward; and if the run has ended,
its outcome stays, and a call on it hands out no item and does not look into the report directory,
so that what looking would show makes no difference. -/
structure Respects (s : System) (i : Nat) (operation : Operation) (run run' : Run) : Prop where
  forward : run.state.Leads run'.state
  outcome : run.state.isEnd = true → run'.outcome = run.outcome
  silent : run.state.isEnd = true → operation.subject? s = some i →
    ∀ item, (s.perform operation).1 ≠ .ok (some item)
  unlisted : run.state.isEnd = true → operation.subject? s = some i →
    ∀ effect, ((s.showing effect).perform operation).1 = (s.perform operation).1

/-- At a moment of the system, the operation that comes next leaves a run in its order. -/
def IsAbsorbing (i : Nat) (s : System) (next : Option Operation) : Prop :=
  ∀ operation run run', next = some operation → s.runs[i]? = some run →
    (s.perform operation).2.runs[i]? = some run' → s.Respects i operation run run'

/-- At a moment of the system, the operation that comes next asks no body for an item from which the
body would go on although its run has ended, and no new body while the run is listing its reports. A
run that has kept its lock, because its child could not be stopped, may have output left; that is not
asked for either. -/
def IsOrderly (i : Nat) (s : System) (next : Option Operation) : Prop :=
  ∀ b stage run, next = some (.advance b) → s.bodies[b]? = some (i, stage) → s.runs[i]? = some run →
    (run.state.isEnd = true → stage.goesOn = false ∧
      (run.lock.isSome = true → Body.IsMute ⟨run, stage⟩ s.world)) ∧
    (run.state = .listing → stage ≠ .fresh)

/-- A run that was started, in a system whose accounts are in order, and that is closed exactly if it
has ended. -/
structure Holds (s : System) (i : Nat) (run : Run) (session : Session) : Prop where
  sound : s.Sound
  run_eq : s.runs[i]? = some run
  isRead : run.IsRead (s.stage? i) session
  isTidy : run.IsTidy

variable {s s' : System} {i : Nat} {run run' : Run} {session : Session} {operation : Operation}
  {result : Except Failure (Option (List UInt8))} {stages : Nat → Option BodyStage}

theorem Holds.showing (h : s.Holds i run session) (effect : Option FaultEffect) :
    (s.showing effect).Holds i run session :=
  ⟨sound_perform h.sound _, h.run_eq, h.isRead, h.isTidy⟩

/-- A body of a run that has ended comes to nothing, if it is asked in order. -/
theorem Holds.exists_halt (h : s.Holds i run session) (hend : run.state.isEnd = true) {b : Nat}
    {stage : BodyStage} (hstage : s.stage? i b = some stage) (hhalts : stage.goesOn = false)
    (hmute : run.lock.isSome = true → Body.IsMute ⟨run, stage⟩ s.world) :
    ∃ halt : Except Failure (Option (List UInt8)), (∀ item, halt ≠ .ok (some item)) ∧
      Body.HaltsWith s.world.files run stage halt := by
  refine Body.exists_halt (h.isTidy.trans hend) h.isRead.session_eq hhalts ?_
  cases hlock : run.lock with
  | some key => exact hmute (by rw [hlock]; rfl)
  | none =>
    have hstopped := (h.sound.runs run (List.mem_of_getElem? h.run_eq)).stopped_of_lock hlock session
      (by simp [h.isRead.session_eq])
    refine Body.isMute_of_closed h.isRead.session_eq hstopped.closed ?_ s.world
    rintro index rfl
    exact .inr (h.isRead.readers.waiting b index hstage)

theorem RunStep.leads (hstep : s.RunStep i run operation result run' stages)
    (h : s.Holds i run session) (horderly : IsOrderly i s (some operation)) :
    run.state.Leads run'.state ∧ run'.IsTidy ∧
      (run.state.isEnd = true → run'.outcome = run.outcome) := by
  have htidy := h.isTidy
  cases hstep with
  | elsewhere | opened | expired => exact ⟨.inl rfl, htidy, fun _ => rfl⟩
  | closed => exact ⟨htidy.closed.1, htidy.closed.2, fun _ => run.outcome_closed⟩
  | givenUp _ hgiven =>
    cases hgiven with
    | unread => exact ⟨.inl rfl, htidy, fun _ => rfl⟩
    | between => exact ⟨htidy.closed.1, htidy.closed.2, fun _ => run.outcome_closed⟩
    | reading =>
      have hkept (after : Session) : (run.atOutput after).IsTidy := htidy
      exact ⟨(hkept _).closed.1, (hkept _).closed.2, fun _ => Run.outcome_closed _⟩
  | advanced hstage hstep =>
    obtain ⟨hhalts, hfirst⟩ := horderly _ _ run rfl (stage?_eq_some.mp hstage) h.run_eq
    cases hend : run.state.isEnd with
    | false =>
      obtain ⟨hleads, hkept⟩ := hstep.leads htidy hend hfirst
      exact ⟨hleads, hkept, nofun⟩
    | true =>
      obtain ⟨hstays, hmute⟩ := hhalts hend
      obtain ⟨halt, _, hhalt⟩ := h.exists_halt hend hstage hstays hmute
      obtain ⟨_, sessions, hrun⟩ := hhalt _ _ _ rfl hstep
      rw [hrun]
      exact ⟨.inl rfl, htidy, fun _ => rfl⟩

/-- Two systems with the same run and the same bodies answer a call in order alike, if the run has
ended: they hand out nothing. -/
theorem RunStep.quiet {result' : Except Failure (Option (List UInt8))} {run'' : Run}
    {stages' : Nat → Option BodyStage} (hstep : s.RunStep i run operation result run' stages)
    (hstep' : s'.RunStep i run operation result' run'' stages') (h : s.Holds i run session)
    (hfiles : s'.world.files = s.world.files) (hstages : s'.stage? i = s.stage? i) (hsubject : operation.subject? s = some i)
    (hsubject' : operation.subject? s' = some i) (hend : run.state.isEnd = true)
    (horderly : IsOrderly i s (some operation)) :
    result' = result ∧ ∀ item, result ≠ .ok (some item) := by
  have hclosed : run.isClosed = true := h.isTidy.trans hend
  cases hstep with
  | elsewhere helsewhere => exact absurd hsubject helsewhere
  | opened =>
    cases hstep' with
    | elsewhere helsewhere => exact absurd hsubject' helsewhere
    | opened => exact ⟨rfl, nofun⟩
  | givenUp _ hgiven =>
    cases hstep' with
    | elsewhere helsewhere => exact absurd hsubject' helsewhere
    | givenUp _ hgiven' =>
      rw [hgiven.eq_ok hclosed, hgiven'.eq_ok hclosed]
      exact ⟨rfl, nofun⟩
  | closed =>
    cases hstep' with
    | elsewhere helsewhere => exact absurd hsubject' helsewhere
    | closed =>
      rw [Run.closing_of_isClosed hclosed]
      exact ⟨rfl, nofun⟩
  | advanced hstage hstep =>
    cases hstep' with
    | elsewhere helsewhere => exact absurd hsubject' helsewhere
    | advanced hstage' hstep' =>
      rw [hstages, hstage] at hstage'
      obtain rfl := Option.some.inj hstage'
      obtain ⟨hhalts, _⟩ := horderly _ _ run rfl (stage?_eq_some.mp hstage) h.run_eq
      obtain ⟨hstays, hmute⟩ := hhalts hend
      obtain ⟨halt, hsilent, hhalt⟩ := h.exists_halt hend hstage hstays hmute
      rw [(hhalt _ _ _ rfl hstep).1, (hhalt _ _ _ hfiles hstep').1]
      exact ⟨rfl, hsilent⟩
  | expired hsession hexpire =>
    cases hstep' with
    | elsewhere helsewhere => exact absurd hsubject' helsewhere
    | expired hsession' hexpire' =>
      rename_i asked after ended w' asked' after' ended' w''
      obtain rfl := List.singleton_inj.mp (hsession.symm.trans hsession')
      have hended : ended' = ended := by
        have hresult := asked.expire_result s.world
        have hresult' := asked.expire_result s'.world
        rw [hexpire] at hresult
        rw [hexpire'] at hresult'
        exact hresult'.trans hresult.symm
      rw [hended]
      exact ⟨rfl, by cases ended <;> exact nofun⟩

/-- An operation in order leaves the run in its order. -/
theorem Holds.respects (h : s.Holds i run session) (horderly : IsOrderly i s (some operation)) :
    ∃ run' session', s.Respects i operation run run' ∧ (s.perform operation).2.Holds i run' session' := by
  obtain ⟨run', hrun', hstep⟩ := runStep_perform h.sound h.run_eq h.isRead.isStarted operation
  obtain ⟨session', hread'⟩ := h.isRead.runStep hstep
  obtain ⟨hforward, htidy', houtcome⟩ := hstep.leads h horderly
  have hquiet (hend : run.state.isEnd = true) (hsubject : operation.subject? s = some i)
      (effect : Option FaultEffect) :
      ((s.showing effect).perform operation).1 = (s.perform operation).1 ∧
        ∀ item, (s.perform operation).1 ≠ .ok (some item) := by
    have hshowing := h.showing effect
    obtain ⟨_, _, hstep'⟩ :=
      runStep_perform hshowing.sound hshowing.run_eq h.isRead.isStarted operation
    have hsubject' : operation.subject? (s.showing effect) = some i := by
      cases operation <;> exact hsubject
    exact hstep.quiet hstep' h rfl rfl hsubject hsubject' hend horderly
  exact ⟨run', session', ⟨hforward, houtcome, fun hend hsubject => (hquiet hend hsubject none).2,
    fun hend hsubject effect => (hquiet hend hsubject effect).1⟩,
    sound_perform h.sound operation, hrun', hread', htidy'⟩

/-- An operation that leaves the run in its order is one in order. -/
theorem Holds.isOrderly (h : s.Holds i run session) {next : Option Operation}
    (habsorbing : IsAbsorbing i s next) : IsOrderly i s next := by
  intro b stage other hnext hbody hother
  obtain rfl := Option.some.inj (h.run_eq.symm.trans hother)
  obtain ⟨body, hstep, hrun', _⟩ := h.sound.step_advance hbody h.run_eq h.isRead.isStarted
  have hrespects := habsorbing (.advance b) run body.run hnext h.run_eq hrun'
  have hsubject : (Operation.advance b).subject? s = some i := by
    simp [Operation.subject?, hbody]
  refine ⟨fun hend => ⟨eq_false_of_ne_true fun hgoes => ?_, fun _ asked hreads chunk hok => ?_⟩,
    fun hlisting hfresh => ?_⟩
  · obtain ⟨item, hitem⟩ | rfl | ⟨hlate, hdone⟩ := hstep.of_goesOn hgoes
    · exact hrespects.silent hend hsubject item hitem
    · -- Two ways for the report directory to look that have two answers.
      have hanswer (effect : Option FaultEffect) := (h.showing effect).sound.step_advance hbody
        (h.showing effect).run_eq h.isRead.isStarted
      obtain ⟨_, hsilent, _⟩ := hanswer (some .silent)
      obtain ⟨_, htext, _⟩ := hanswer (some (.text default))
      have hclosed : run.isClosed = true := h.isTidy.trans hend
      have hsilent := (hsilent.of_listFault hclosed).1 rfl
      have htext := (htext.of_listFault hclosed).2 default rfl
      rw [hrespects.unlisted hend hsubject] at hsilent htext
      rw [hsilent] at htext
      cases htext
    · -- The run is closed, so that nothing takes it back from being done.
      have hclosed : run.isClosed = true := h.isTidy.trans hend
      have hstate : body.run.state = .done := by simp [hdone, Run.closed, hclosed]
      have hactive := (h.isRead.readers.taken b stage (stage?_eq_some.mpr hbody) hlate).2
      rcases hrespects.forward with hsame | ⟨hactive', _⟩
      · exact hactive (hsame.trans hstate)
      · rw [hend] at hactive'
        cases hactive'
  · obtain ⟨item, hitem⟩ := hstep.of_output hreads hok
    exact hrespects.silent hend hsubject item hitem
  · subst hfresh
    have hforward := hrespects.forward
    rw [hlisting, hstep.state_of_fresh] at hforward
    simp [RunState.Leads, RunState.rank] at hforward

/-- A run that was started keeps its order under all operations, on itself, on its bodies and on
others, exactly as long as no body is asked for an item from which it goes on although the run has
ended, nor a new body while the run is listing its reports. To keep its order means that the run's
state only moves forward, and that after the end neither its state nor its outcome changes, no call
on it hands out an item, and none looks into the report directory. -/
theorem absorbing_iff_orderly (w : World) (before : List Operation) {config : Config}
    {url revision subdir : Option Text}
    (hstart : (((initial w).after before).perform (.start config url revision subdir)).1 = .ok none)
    (operations : List Operation) :
    let s := (((initial w).after before).perform (.start config url revision subdir)).2
    let i := ((initial w).after before).runs.length
    Throughout (IsAbsorbing i) s operations ↔ Throughout (IsOrderly i) s operations := by
  intro s i
  have hbefore := sound_after (sound_initial w) before
  obtain ⟨request, resetOk, key, session, _, hrun, hread⟩ := exists_started hbefore hstart
  have hholds : ∃ run session, s.Holds i run session :=
    ⟨_, session, sound_perform hbefore _, hrun, hread, rfl⟩
  constructor
  · refine Throughout.mono (fun s => ∃ run session, s.Holds i run session) ?_ ?_ hholds
    · rintro s ⟨run, session, h⟩ habsorbing
      exact h.isOrderly habsorbing
    · rintro s operation _ ⟨run, session, h⟩ habsorbing
      have horderly := h.isOrderly habsorbing
      obtain ⟨run', session', _, h'⟩ := h.respects horderly
      exact ⟨horderly, run', session', h'⟩
  · refine Throughout.mono (fun s => ∃ run session, s.Holds i run session) ?_ ?_ hholds
    · intro s _ _ operation run run' hnext
      cases hnext
    · rintro s operation _ ⟨run, session, h⟩ horderly
      obtain ⟨run', session', hrespects, h'⟩ := h.respects horderly
      refine ⟨fun other before after hnext hbefore hafter => ?_, run', session', h'⟩
      obtain rfl := Option.some.inj hnext
      obtain rfl := Option.some.inj (h.run_eq.symm.trans hbefore)
      obtain rfl := Option.some.inj (h'.run_eq.symm.trans hafter)
      exact hrespects

/-- What a start under a fixed configuration comes to. -/
def plainStart : Except Failure (Option (List UInt8)) × System :=
  (initial plainWorld).perform (.start fixedConfig none none none)

/-- The states of all runs and whether they have their locks, and all bodies. -/
def standing (s : System) : List (RunState × Bool) × List (Nat × BodyStage) :=
  (s.runs.map fun run => (run.state, run.lock.isSome), s.bodies)

theorem exists_run_of_standing {s : System} {state : RunState} {isLocked : Bool}
    {bodies : List (Nat × BodyStage)} (hstanding : s.standing = ([(state, isLocked)], bodies)) :
    ∃ run, s.runs[0]? = some run ∧ run.state = state ∧ run.lock.isSome = isLocked := by
  have hrun := congrArg (·[0]?) (Prod.mk.inj hstanding).1
  simpa [standing] using hrun

theorem isOrderly_of_ne {i : Nat} {s : System} {next : Option Operation}
    (hne : ∀ b, next ≠ some (.advance b)) : IsOrderly i s next :=
  fun b _ _ hnext => absurd hnext (hne b)

theorem isOrderly_of_standing {s : System} {stage : BodyStage} {state : RunState} {isLocked : Bool}
    (hstanding : s.standing = ([(state, isLocked)], [(0, stage)]))
    (hhalts : state.isEnd = true → stage.goesOn = false ∧ isLocked = false)
    (hlisting : state = .listing → stage ≠ .fresh) : IsOrderly 0 s (some (.advance 0)) := by
  obtain ⟨run, hrun, rfl, rfl⟩ := exists_run_of_standing hstanding
  intro b stage' run' hb hbody hrun'
  obtain rfl : 0 = b := by simpa using hb
  obtain rfl : stage = stage' := by simpa [(Prod.mk.inj hstanding).2] using hbody
  obtain rfl := Option.some.inj (hrun.symm.trans hrun')
  refine ⟨fun hend => ⟨(hhalts hend).1, fun hlocked => ?_⟩, hlisting⟩
  rw [(hhalts hend).2] at hlocked
  cases hlocked

/-- The opening mark is read, the run is closed, and its body is asked once more. -/
def promptClose : List Operation := [.openBody 0, .advance 0, .close 0, .advance 0]

/-- The body is read up to the status line, the run is closed, and the body is read on. -/
def lateReader : List Operation :=
  [.openBody 0, .advance 0, .advance 0, .close 0, .advance 0, .advance 0]

/-- How the run stands, and whether it has its lock, before each item that `promptClose` asks for, and around the last one that
`lateReader` does. -/
theorem standing_plainStart :
    (plainStart.1, (plainStart.2.after (promptClose.take 1)).standing,
      (plainStart.2.after (promptClose.take 3)).standing,
      (plainStart.2.after (lateReader.take 5)).standing, (plainStart.2.after lateReader).standing) =
    (.ok none, ([(.running, true)], [(0, .fresh)]), ([(.failed, false)], [(0, .opened)]),
      ([(.failed, false)], [(0, .closed)]), ([(.listing, false)], [(0, .sentinel)])) := by
  cbv

theorem absorbing_promptClose :
    plainStart.1 = .ok none ∧ Throughout (IsAbsorbing 0) plainStart.2 promptClose := by
  obtain ⟨hstart, hfirst, hlast, _⟩ : _ ∧ _ ∧ _ ∧ _ := by
    simpa only [Prod.mk.injEq] using standing_plainStart
  refine ⟨hstart, (absorbing_iff_orderly plainWorld [] hstart promptClose).mpr ?_⟩
  refine ⟨isOrderly_of_ne (by simp), ?_, isOrderly_of_ne (by simp), ?_, isOrderly_of_ne (by simp)⟩
  · exact isOrderly_of_standing hfirst (by simp [RunState.isEnd]) (by simp)
  · exact isOrderly_of_standing hlast (fun _ => ⟨rfl, rfl⟩) (by simp)

/-- The run has failed, and then it is listing its reports. -/
theorem not_absorbing_lateReader :
    plainStart.1 = .ok none ∧ ¬ Throughout (IsAbsorbing 0) plainStart.2 lateReader := by
  obtain ⟨hstart, _, _, hbefore, hafter⟩ : _ ∧ _ ∧ _ ∧ _ ∧ _ := by
    simpa only [Prod.mk.injEq] using standing_plainStart
  refine ⟨hstart, fun habsorbing => ?_⟩
  obtain ⟨run, hrun, hfailed, _⟩ := exists_run_of_standing hbefore
  obtain ⟨run', hrun', hlisting, _⟩ := exists_run_of_standing hafter
  have hrespects := habsorbing.2.2.2.2.2.1 (.advance 0) run run' rfl hrun hrun'
  have hforward := hrespects.forward
  rw [hfailed, hlisting] at hforward
  simp [RunState.Leads, RunState.isEnd] at hforward

end System

end ScanLauncher
