import ScanLauncher.Proofs.Run.BodyEnd

namespace ScanLauncher

namespace Run

/-- A run as a start that succeeded leaves it, and as it stays: with one session and an outcome. -/
structure IsStarted (run : Run) : Prop where
  single : run.sessions.length = 1
  outcome : run.outcome.isSome = true

/-- The run after its session was asked for output. -/
def atOutput (run : Run) (session : Session) : Run := { run with sessions := [session] }

/-- The run after its output has ended and the outcome was noted. -/
def noted (run : Run) (session : Session) : Run :=
  { run with
    sessions := [session]
    outcome := run.outcome.map fun outcome =>
      { outcome with exitStatus := session.exitStatus, timedOut := session.isTimedOut } }

/-- The run after its reports were listed. -/
def listed (run : Run) (reports : List ReportFile) : Run :=
  { run with outcome := run.outcome.map fun outcome => { outcome with reports := some reports } }

end Run

namespace Body

/-- The session that a body will ask for output: at the first chunk its reader is opened. -/
inductive Reads : Body → Session → Prop
  | first {run : Run} {session : Session} (hsession : run.sessions = [session])
      (hreader : session.reader = .absent) :
      Reads ⟨run, .opened⟩ { session with reader := .fresh }
  | later {run : Run} {session : Session} (hsession : run.sessions = [session]) :
      Reads ⟨run, .chunk 0⟩ session

/-- The reports that a body has still to name, and its run then: at the sentinel they are listed. -/
inductive Lists (w : World) : Body → Run → List ReportFile → Prop
  | now {run : Run} {reports : List ReportFile}
      (hlist : (Report.list run.config.reportDir w).1 = .ok reports) :
      Lists w ⟨run, .sentinel⟩ (run.listed reports) reports
  | before (run : Run) (rest : List ReportFile) : Lists w ⟨run, .report rest⟩ run rest

/-- What asking a body for an item can come to. -/
inductive Step (w : World) : Body → Except Failure (Option (List UInt8)) → Body → Prop
  | spent (run : Run) : Step w ⟨run, .finished⟩ (.ok none) ⟨run, .finished⟩
  | opening (run : Run) :
      Step w ⟨run, .fresh⟩ (.ok (some openMark)) ⟨{ run with state := .streaming }, .opened⟩
  /-- Another body has taken the reader. -/
  | refused {run : Run} {session : Session} (hsession : run.sessions = [session])
      (hreader : session.reader ≠ .absent) :
      Step w ⟨run, .opened⟩ (run.concluding (.error (.misuse .alreadyConsumed)))
        ⟨run.closed, .finished⟩
  | chunk {body : Body} {session after : Session} {chunk : List UInt8} {w' : World}
      (hreads : body.Reads session)
      (hnext : session.next w = ((.ok (some chunk), after), w')) :
      Step w body (.ok (some chunk)) ⟨body.run.atOutput after, .chunk 0⟩
  | status {body : Body} {session after : Session} {outcome : Outcome} {w' : World}
      (hreads : body.Reads session) (hnext : session.next w = ((.ok none, after), w'))
      (houtcome : (body.run.noted after).outcome = some outcome) :
      Step w body (.ok (some (statusLine body.run.config outcome))) ⟨body.run.noted after, .status⟩
  | broken {body : Body} {session after : Session} {failure : Failure} {w' : World}
      (hreads : body.Reads session) (hnext : session.next w = ((.error failure, after), w')) :
      Step w body ((body.run.atOutput after).concluding (.error failure))
        ⟨(body.run.atOutput after).closed, .finished⟩
  | closing (run : Run) : Step w ⟨run, .status⟩ (.ok (some closeMark)) ⟨run, .closed⟩
  | announcing (run : Run) :
      Step w ⟨run, .closed⟩ (.ok (some sentinelMark)) ⟨{ run with state := .listing }, .sentinel⟩
  | unlisted {run : Run} {failure : Failure}
      (hlist : (Report.list run.config.reportDir w).1 = .error failure) :
      Step w ⟨run, .sentinel⟩ (run.concluding (.error failure)) ⟨run.closed, .finished⟩
  | report {body : Body} {run : Run} {report : ReportFile} {rest : List ReportFile}
      {line : List UInt8} (hlists : Lists w body run (report :: rest))
      (hline : reportLine? report = some line) :
      Step w body (.ok (some line)) ⟨run, .report rest⟩
  | unnamed {body : Body} {run : Run} {report : ReportFile} {rest : List ReportFile}
      (hlists : Lists w body run (report :: rest)) (hline : reportLine? report = none) :
      Step w body (run.concluding (.error .notEncodable)) ⟨run.closed, .finished⟩
  | ended {body : Body} {run : Run} (hlists : Lists w body run []) :
      Step w body ({ run with state := .done }.concluding (.ok none))
        ⟨{ run with state := .done }.closed, .finished⟩

/-- A body that comes to its end has named all its reports, or had come to it before. -/
theorem Step.of_end {body body' : Body} {w : World} (h : Step w body (.ok none) body') :
    (∃ run, body = ⟨run, .finished⟩ ∧ body' = body) ∨
      ∃ run, Lists w body run [] ∧ body' = ⟨{ run with state := .done }.closed, .finished⟩ := by
  have hfailed {run : Run} {failure : Failure} :
      (Except.ok none : Except Failure (Option (List UInt8))) ≠ run.concluding (.error failure) :=
    fun hresult => nomatch (Run.eq_ok_of_concluding hresult.symm).2
  generalize hresult : Except.ok none = result at h
  cases h with
  | spent run => exact .inl ⟨run, rfl, rfl⟩
  | opening | chunk | status | closing | announcing | report => cases hresult
  | refused | broken | unlisted | unnamed => exact absurd hresult hfailed
  | ended hlists => exact .inr ⟨_, hlists, rfl⟩

private theorem chunkItem_apply (run : Run) (session : Session) (stage : BodyStage) (w : World) :
    chunkItem 0 ⟨run.atOutput session, stage⟩ w =
      match session.next w with
      | ((.ok (some chunk), after), w) => ((.ok chunk, ⟨run.atOutput after, .chunk 0⟩), w)
      | ((.ok none, after), w) =>
        ((.ok (((run.noted after).outcome.map (statusLine run.config)).getD []),
          ⟨run.noted after, .status⟩), w)
      | ((.error failure, after), w) => ((.error failure, ⟨run.atOutput after, stage⟩), w) := by
  rcases hnext : session.next w with ⟨⟨failure | chunk, after⟩, w'⟩
  · simp [chunkItem, onRun, Run.onSession, Run.atOutput, hnext]
  cases chunk with
  | some chunk => simp [chunkItem, onRun, Run.onSession, Run.atOutput, hnext, enter, Except.map]
  | none =>
    simp [chunkItem, statusItem, onRun, Run.onSession, Run.atOutput, Run.noted, Run.modifyOutcome,
      Run.session?, hnext, enter, Except.map]

/-- What asking a body for an item comes to: if it gave none its run is closed. -/
def concluded : Except Failure (Option (List UInt8)) → Body → Except Failure (Option (List UInt8))
  | .ok (some item), _ => .ok (some item)
  | result, body => body.run.concluding result

/-- How a body stands after it was asked for an item: if it gave none it has ended, and its run is
closed. -/
def settled : Except Failure (Option (List UInt8)) → Body → Body
  | .ok (some _), body => body
  | _, body => ⟨body.run.closed, .finished⟩

/-- What giving a body up can come to. -/
inductive GivenUp : Body → Except Failure Unit → Body → Prop
  | unread {run : Run} {stage : BodyStage} (hidle : stage.isStarted = false) :
      GivenUp ⟨run, stage⟩ (.ok ()) ⟨run, .finished⟩
  | between {run : Run} {stage : BodyStage} (hstarted : stage.isStarted = true) :
      GivenUp ⟨run, stage⟩ run.closing ⟨run.closed, .finished⟩
  /-- The reader of the output is given up with the body. -/
  | reading {run : Run} {session after : Session} (hsession : run.sessions = [session])
      (hreader : after.reader = .absent → session.reader = .absent) :
      GivenUp ⟨run, .chunk 0⟩ (run.atOutput after).closing ⟨(run.atOutput after).closed, .finished⟩

variable {first : Run} {gate : Gate}

theorem index_eq_zero {run : Run} {index : Nat} {w : World} (hsingle : run.sessions.length = 1)
    (h : Accounted first gate ⟨run, .chunk index⟩ w) : index = 0 := by
  have hfits : index < first.sessions.length := h.2
  have hcount : run.sessions.length = first.sessions.length := h.1.count
  omega

variable (hheld : ∀ key, first.lock = some key → gate.isHeld key = true)

include hheld

/-- It is enough to know what a started body would hand out next, and where that leaves it. -/
theorem step_of_laterItem {body body' : Body} {w w' : World}
    {result : Except Failure (Option (List UInt8))} (h : Accounted first gate body w)
    (hstarted : body.stage.isStarted = true) (hlater : laterItem body w = ((result, body'), w'))
    (hstep : Step w body (concluded result body') (settled result body')) :
    Step w body (next body w).1.1 (next body w).1.2 := by
  rcases result with failure | ⟨_ | item⟩
  · obtain ⟨w'', hnext⟩ := next_of_end hheld h hstarted hlater nofun
    rw [hnext]
    exact hstep
  · obtain ⟨w'', hnext⟩ := next_of_end hheld h hstarted hlater nofun
    rw [hnext]
    exact hstep
  · rw [next_apply hstarted, hlater]
    exact hstep

theorem step_output {body : Body} {session : Session} {w : World} (hreads : Reads body session)
    (h : Accounted first gate body w) (houtcome : body.run.outcome.isSome = true)
    (hlater : laterItem body w = (do return some (← chunkItem 0) : ActOn Body (Option (List UInt8)))
      ⟨body.run.atOutput session, body.stage⟩ w) :
    Step w body (next body w).1.1 (next body w).1.2 := by
  have hstarted : body.stage.isStarted = true := by cases hreads <;> rfl
  rw [ActOn.bind_apply, chunkItem_apply] at hlater
  rcases hnext : session.next w with ⟨⟨failure | chunk, after⟩, w'⟩
  · rw [hnext] at hlater
    exact step_of_laterItem hheld h hstarted hlater (.broken hreads hnext)
  cases chunk with
  | some chunk =>
    rw [hnext] at hlater
    exact step_of_laterItem hheld h hstarted hlater (.chunk hreads hnext)
  | none =>
    obtain ⟨outcome, houtcome⟩ := Option.isSome_iff_exists.mp houtcome
    have hnoted : (body.run.noted after).outcome = some
        { outcome with exitStatus := after.exitStatus, timedOut := after.isTimedOut } := by
      simp [Run.noted, houtcome]
    rw [hnext] at hlater
    simp only [hnoted] at hlater
    exact step_of_laterItem hheld h hstarted hlater (.status hreads hnext hnoted)

theorem step_reports {body : Body} {run : Run} {reports : List ReportFile} {stage : BodyStage}
    {w w' : World} (hlists : Lists w body run reports) (h : Accounted first gate body w)
    (hlater : laterItem body w = reportItem reports ⟨run, stage⟩ w') :
    Step w body (next body w).1.1 (next body w).1.2 := by
  have hstarted : body.stage.isStarted = true := by cases hlists <;> rfl
  cases reports with
  | nil => exact step_of_laterItem hheld h hstarted hlater (.ended hlists)
  | cons report rest =>
    cases hline : reportLine? report with
    | some line =>
      simp only [reportItem, hline] at hlater
      exact step_of_laterItem hheld h hstarted hlater (.report hlists hline)
    | none =>
      simp only [reportItem, hline] at hlater
      exact step_of_laterItem hheld h hstarted hlater (.unnamed hlists hline)

private theorem step_opened {run : Run} {session : Session} {w : World}
    (hsession : run.sessions = [session]) (h : Accounted first gate ⟨run, .opened⟩ w)
    (houtcome : run.outcome.isSome = true) :
    Step w ⟨run, .opened⟩ (next ⟨run, .opened⟩ w).1.1 (next ⟨run, .opened⟩ w).1.2 := by
  have hcurrent : run.current = 0 := by simp [Run.current, hsession]
  have hopen : onRun (Run.onSession 0 Session.openReader) ⟨run, .opened⟩ w =
      (((Session.openReader session w).1.1, ⟨run.atOutput (Session.openReader session w).1.2, .opened⟩),
        (Session.openReader session w).2) := by
    simp [onRun, Run.onSession_apply session (by simp [hsession] : run.sessions[0]? = _), hsession,
      Run.atOutput]
  by_cases hreader : session.reader = .absent
  · have hreader' : Session.openReader session w =
        ((.ok (), { session with reader := .fresh }), w) := by
      simp [Session.openReader, hreader]
    refine step_output hheld (.first hsession hreader) h houtcome ?_
    simp only [laterItem, ActOn.bind_apply, ActOn.get_apply, hcurrent, hopen, hreader']
  · have hreader' : Session.openReader session w =
        ((.error (.misuse .alreadyConsumed), session), w) := by
      simp [Session.openReader, hreader]
    have hlater : laterItem ⟨run, .opened⟩ w =
        ((.error (.misuse .alreadyConsumed), ⟨run.atOutput session, .opened⟩), w) := by
      simp only [laterItem, ActOn.bind_apply, ActOn.get_apply, hcurrent, hopen, hreader']
    have hsame : run.atOutput session = run := by rw [Run.atOutput, ← hsession]
    rw [hsame] at hlater
    exact step_of_laterItem hheld h rfl hlater (.refused hsession hreader)

private theorem step_sentinel {run : Run} {w : World} (h : Accounted first gate ⟨run, .sentinel⟩ w) :
    Step w ⟨run, .sentinel⟩ (next ⟨run, .sentinel⟩ w).1.1 (next ⟨run, .sentinel⟩ w).1.2 := by
  rcases hlist : Report.list run.config.reportDir w with ⟨failure | reports, w'⟩
  · have hlater : laterItem ⟨run, .sentinel⟩ w = ((.error failure, ⟨run, .sentinel⟩), w') := by
      simp [laterItem, listItem, hlist]
    exact step_of_laterItem hheld h rfl hlater (.unlisted (by rw [hlist]))
  · have hlater : laterItem ⟨run, .sentinel⟩ w =
        reportItem reports ⟨run.listed reports, .sentinel⟩ w' := by
      simp [laterItem, listItem, hlist, onRun, Run.modifyOutcome, Run.listed]
    exact step_reports hheld (.now (by rw [hlist])) h hlater

/-- Asking a body of a started run for an item comes to one of the cases. -/
theorem step_next {body : Body} {w : World} (h : Accounted first gate body w)
    (hrun : body.run.IsStarted) : Step w body (next body w).1.1 (next body w).1.2 := by
  obtain ⟨run, stage⟩ := body
  obtain ⟨session, hsession⟩ : ∃ session, run.sessions = [session] :=
    List.length_eq_one_iff.mp hrun.single
  cases stage with
  | finished => exact .spent run
  | fresh =>
    have hopening : next ⟨run, .fresh⟩ w =
        ((.ok (some openMark), ⟨{ run with state := .streaming }, .opened⟩), w) := by
      have houtcome : run.outcome ≠ none := Option.isSome_iff_ne_none.mp hrun.outcome
      simp [next, openingItem, Run.session?, hsession, houtcome, onRun, Run.enter, enter]
      rfl
    rw [hopening]
    exact .opening run
  | opened => exact step_opened hheld hsession h hrun.outcome
  | chunk index =>
    obtain rfl := index_eq_zero hrun.single h
    have hsame : run.atOutput session = run := by rw [Run.atOutput, ← hsession]
    refine step_output hheld (.later hsession) h hrun.outcome ?_
    simp only [hsame, laterItem, ActOn.bind_apply, ActOn.get_apply]
  | status => exact step_of_laterItem hheld h rfl rfl (.closing run)
  | closed => exact step_of_laterItem hheld h rfl rfl (.announcing run)
  | sentinel => exact step_sentinel hheld h
  | report rest => exact step_reports hheld (.before run rest) h rfl

theorem givenUp_close {body : Body} {w : World} (h : Accounted first gate body w)
    (hrun : body.run.IsStarted) :
    GivenUp body (close body w).1.1 (close body w).1.2 := by
  obtain ⟨run, stage⟩ := body
  cases stage with
  | fresh | finished => exact .unread rfl
  | opened | status | closed | sentinel | report rest =>
    obtain ⟨w', hfinish⟩ := exists_finish hheld h
    simp only [close, ActOn.bind_apply, ActOn.get_apply, hfinish]
    exact .between rfl
  | chunk index =>
    obtain rfl := index_eq_zero hrun.single h
    obtain ⟨session, hsession⟩ : ∃ session, run.sessions = [session] :=
      List.length_eq_one_iff.mp hrun.single
    obtain ⟨w₁, hreader, _⟩ := session.closeReader_settles w
    have hkept : session.readerClosed.reader = .absent → session.reader = .absent := by
      rw [session.reader_readerClosed]
      cases session.reader <;> simp
    have hstep : onRun (Run.onSession 0 Session.closeReader) ⟨run, .chunk 0⟩ w =
        ((.ok (), ⟨run.atOutput session.readerClosed, .chunk 0⟩), w₁) := by
      simp [onRun, Run.onSession_apply session (by simp [hsession] : run.sessions[0]? = _), hreader,
        hsession, Run.atOutput]
    have hafter := keeps_onRun (Run.keeps_onSession 0 fun _ _ => Session.effects_closeReader) _ w h
    rw [hstep] at hafter
    obtain ⟨w', hfinish⟩ := exists_finish hheld hafter
    simp only [close, ActOn.bind_apply, ActOn.get_apply, hstep, hfinish]
    exact .reading hsession hkept

end Body

end ScanLauncher
