import ScanLauncher.Proofs.Process.Independence
import ScanLauncher.Proofs.Run.BodyEnd

namespace ScanLauncher

/-- What is kept in common by two worlds in which one run goes on. -/
structure Comparison where
  /-- What holds of the worlds, given what the run has claimed in the one and in the other. -/
  worlds : Option Path → Option Path → World → World → Prop
  /-- The changes that the children of the run make. -/
  allowed : List Change → Prop
  /-- The report directory of the run. -/
  path : Path
  /-- What holds of the reports that are listed. -/
  listed : List ReportFile → Prop

/-- Nothing that a run does in both worlds breaks the comparison. -/
structure Comparison.IsSteady (c : Comparison) : Prop where
  bears : ∀ lock lock', World.Bears (c.worlds lock lock') c.allowed
  held : ∀ {lock lock' w w'}, c.worlds lock lock' w w' →
    (∀ key, lock = some key → w.gate.isHeld key = true) ∧
      ∀ key, lock' = some key → w'.gate.isHeld key = true
  release : ∀ {lock lock' w w'}, c.worlds lock lock' w w' →
    c.worlds none none { w with gate := w.gate.released lock }
      { w' with gate := w'.gate.released lock' }
  list : ∀ lock lock',
    Act.Agree (c.worlds lock lock') (Report.list c.path) (Report.list c.path)
  listed : ∀ {lock lock' w w'}, c.worlds lock lock' w w' →
    ∀ reports, (Report.list c.path w).1 = .ok reports → c.listed reports

namespace Run

/-- One run in two worlds that are alike, but for what it has claimed there. -/
structure Alike (c : Comparison) (run : Run) (w : World) (run' : Run) (w' : World) : Prop where
  run_eq : run' = { run with lock := run'.lock }
  path_eq : run.config.reportDir = c.path
  within : ∀ session ∈ run.sessions, session.Within c.allowed
  found : ∀ outcome reports, run.outcome = some outcome → outcome.reports = some reports →
    c.listed reports
  world : c.worlds run.lock run'.lock w w'

variable {c : Comparison}

/-- What follows on a look at the run may depend on anything but the lock. -/
theorem agree_bind_get {α : Type} {f : Run → ActOn Run α}
    (hlock : ∀ run lock, f { run with lock } = f run)
    (hf : ∀ run, ActOn.Agree (Alike c) (f run) (f run)) :
    ActOn.Agree (Alike c) (get >>= f) (get >>= f) := by
  refine ActOn.agree_bind_get fun run w run' w' h => ?_
  rw [h.run_eq, hlock run run'.lock]
  exact hf run

theorem agree_enter (state : RunState) : ActOn.Agree (Alike c) (enter state) (enter state) := by
  refine ActOn.agree_modify fun run w run' w' h => ?_
  rw [h.run_eq]
  exact ⟨rfl, h.path_eq, h.within, h.found, h.world⟩

/-- A change of the outcome. What it brings in as reports must have been listed. -/
theorem agree_modifyOutcome {f : Outcome → Outcome}
    (hf : ∀ outcome reports, (f outcome).reports = some reports → outcome.reports = some reports ∨
      c.listed reports) :
    ActOn.Agree (Alike c) (modifyOutcome f) (modifyOutcome f) := by
  refine ActOn.agree_modify fun run w run' w' h => ?_
  rw [h.run_eq]
  refine ⟨rfl, h.path_eq, h.within, fun outcome reports houtcome hreports => ?_, h.world⟩
  obtain ⟨before, hbefore, rfl⟩ := Option.map_eq_some_iff.mp houtcome
  rcases hf before reports hreports with hold | hnew
  · exact h.found before reports hbefore hold
  · exact hnew

theorem agree_onSession {α : Type} (index : Nat) {act : ActOn Session α}
    (hact : ∀ lock lock', ActOn.Agree (Session.Alike (c.worlds lock lock') c.allowed) act act) :
    ActOn.Agree (Alike c) (onSession index act) (onSession index act) := by
  intro run w run' w' h
  have hsessions : run'.sessions = run.sessions := by rw [h.run_eq]
  cases hsession : run.sessions[index]? with
  | none =>
    rw [onSession_none hsession, onSession_none (by rwa [hsessions])]
    exact ⟨rfl, h⟩
  | some session =>
    have hwithin := h.within session (List.mem_of_getElem? hsession)
    obtain ⟨hresult, hafter⟩ :=
      hact run.lock run'.lock session w session w' ⟨rfl, hwithin, h.world⟩
    rw [onSession_apply session hsession, onSession_apply session (by rwa [hsessions])]
    refine ⟨hresult, ?_, h.path_eq, fun other hother => ?_, h.found, hafter.world⟩
    · rw [hafter.session_eq, h.run_eq]
    · rcases List.mem_or_eq_of_mem_set hother with hold | rfl
      · exact h.within other hold
      · exact hafter.within

variable (hc : c.IsSteady)

include hc

theorem agree_log (level : LogLevel) (message : Text) :
    ActOn.Agree (Alike c) (log level message) (log level message) :=
  fun run _ run' _ h => ⟨rfl, h.run_eq, h.path_eq, h.within, h.found,
    (hc.bears run.lock run'.lock).note h.world level .run message⟩

private theorem agree_release : ActOn.Agree (Alike c) release release := by
  intro run w run' w' h
  obtain ⟨hheld, hheld'⟩ := hc.held h.world
  rw [release_apply hheld, release_apply hheld']
  refine ⟨rfl, ?_, h.path_eq, h.within, h.found, hc.release h.world⟩
  rw [h.run_eq]

theorem agree_close : ActOn.Agree (Alike c) close close := by
  have hmark : ActOn.Agree (Alike c) (modify fun run => { run with isClosed := true })
      (modify fun run => { run with isClosed := true }) := by
    refine ActOn.agree_modify fun run w run' w' h => ?_
    rw [h.run_eq]
    exact ⟨rfl, h.path_eq, h.within, h.found, h.world⟩
  refine agree_bind_get (fun _ _ => rfl) fun run => ?_
  have hstop : ActOn.Agree (Alike c)
      (if run.session?.isSome then do onSession run.current Session.close; release else release)
      (if run.session?.isSome then do onSession run.current Session.close; release else release) :=
    .optional (agree_onSession _ fun lock lock' => Session.agree_close (hc.bears lock lock'))
      (agree_release hc)
  split
  · exact ActOn.agree_pure _
  refine hmark.bind fun _ => ?_
  by_cases hundone : (run.state != .done) = true
  · simp only [hundone, if_true]
    exact (agree_log hc _ _).bind fun _ => (agree_enter _).bind fun _ => hstop
  · simp only [hundone]
    exact hstop

theorem agree_expire : ActOn.Agree (Alike c) expire expire :=
  agree_bind_get (fun _ _ => rfl) fun run => agree_onSession run.current fun lock lock' =>
    Session.agree_expire (hc.bears lock lock')

end Run

namespace Body

/-- One body in two worlds that are alike, but for what its run has claimed there. -/
structure Alike (c : Comparison) (body : Body) (w : World) (body' : Body) (w' : World) : Prop where
  stage_eq : body'.stage = body.stage
  run : body.run.Alike c w body'.run w'

variable {c : Comparison}

theorem agree_onRun {α : Type} {act : ActOn Run α} (hact : ActOn.Agree (Run.Alike c) act act) :
    ActOn.Agree (Alike c) (onRun act) (onRun act) :=
  hact.part (fun _ _ _ _ h => h.run) fun _ _ _ _ h _ _ _ _ hrun => ⟨h.stage_eq, hrun⟩

theorem agree_enter (stage : BodyStage) : ActOn.Agree (Alike c) (enter stage) (enter stage) :=
  ActOn.agree_modify fun _ _ _ _ h => ⟨rfl, h.run⟩

/-- What follows on a look at the body may depend on anything but the lock of its run. -/
theorem agree_bind_get {α : Type} {f : Body → ActOn Body α}
    (hlock : ∀ run stage lock, f ⟨{ run with lock }, stage⟩ = f ⟨run, stage⟩)
    (hf : ∀ body, body.run.config.reportDir = c.path → ActOn.Agree (Alike c) (f body) (f body)) :
    ActOn.Agree (Alike c) (get >>= f) (get >>= f) := by
  refine ActOn.agree_bind_get fun body w body' w' h => ?_
  obtain ⟨run, stage⟩ := body
  obtain ⟨run', stage'⟩ := body'
  obtain rfl : stage' = stage := h.stage_eq
  obtain ⟨lock, rfl⟩ : ∃ lock, run' = { run with lock } := ⟨_, h.run.run_eq⟩
  rw [hlock run stage' lock]
  exact hf ⟨run, stage'⟩ h.run.path_eq

private theorem agree_openingItem : ActOn.Agree (Alike c) openingItem openingItem := by
  refine agree_bind_get (fun _ _ _ => rfl) fun body _ => ?_
  by_cases hidle : (body.run.session?.isNone || body.run.outcome.isNone) = true
  · simp only [hidle, if_true]
    exact (agree_enter _).bind fun _ _ _ _ _ h => ⟨rfl, h⟩
  · simp only [hidle]
    exact (agree_onRun (Run.agree_enter _)).bind fun _ => (agree_enter _).bind fun _ =>
      ActOn.agree_pure _

theorem agree_reportItem (reports : List ReportFile) :
    ActOn.Agree (Alike c) (reportItem reports) (reportItem reports) := by
  cases reports with
  | nil => exact (agree_onRun (Run.agree_enter _)).bind fun _ => ActOn.agree_pure _
  | cons report rest =>
    cases hline : reportLine? report with
    | some line =>
      simp only [reportItem, hline]
      exact (agree_enter _).bind fun _ => ActOn.agree_pure _
    | none =>
      simp only [reportItem, hline]
      exact ActOn.agree_throw _

variable (hc : c.IsSteady)

include hc

theorem agree_finish : ActOn.Agree (Alike c) finish finish :=
  (agree_enter _).bind fun _ => agree_onRun (Run.agree_close hc)

theorem agree_close : ActOn.Agree (Alike c) close close := by
  refine agree_bind_get (fun _ _ _ => rfl) fun body _ => ?_
  cases body.stage with
  | fresh | finished => exact agree_enter _
  | chunk session =>
    exact (agree_onRun (Run.agree_onSession session fun lock lock' =>
      Session.agree_closeReader (hc.bears lock lock'))).bind fun _ => agree_finish hc
  | opened | status | closed | sentinel | report rest => exact agree_finish hc

private theorem agree_listItem : ActOn.Agree (Alike c) listItem listItem := by
  refine agree_bind_get (fun _ _ _ => rfl) fun body hpath => ?_
  simp only [hpath]
  have hlist : ActOn.Agree (Alike c) (ActOn.lift (Report.list c.path))
      (ActOn.lift (Report.list c.path)) := by
    refine ActOn.agree_lift fun body body' w w' h => ?_
    obtain ⟨hresult, hworld⟩ := hc.list body.run.lock body'.run.lock w w' h.run.world
    exact ⟨hresult, h.stage_eq, h.run.run_eq, h.run.path_eq, h.run.within, h.run.found, hworld⟩
  refine hlist.bind_yields (fun _ _ _ _ h => hc.listed h.run.world) fun reports hlisted => ?_
  refine (agree_onRun (Run.agree_modifyOutcome fun _ others hothers => .inr ?_)).bind fun _ =>
    agree_reportItem reports
  exact Option.some.inj hothers ▸ hlisted

theorem agree_chunkItem (session : Nat) :
    ActOn.Agree (Alike c) (chunkItem session) (chunkItem session) := by
  have hstatus : ActOn.Agree (Alike c) statusItem statusItem := by
    refine agree_bind_get (fun _ _ _ => rfl) fun body _ => ?_
    refine (agree_onRun (Run.agree_modifyOutcome ?_)).bind fun _ => (agree_enter _).bind fun _ =>
      agree_bind_get (fun _ _ _ => rfl) fun _ _ => ActOn.agree_pure _
    exact fun _ _ hreports => .inl hreports
  refine (agree_onRun (Run.agree_onSession session fun lock lock' =>
    Session.agree_next (hc.bears lock lock'))).bind fun chunk => ?_
  cases chunk with
  | some chunk => exact (agree_enter _).bind fun _ => ActOn.agree_pure _
  | none => exact hstatus

private theorem agree_laterItem : ActOn.Agree (Alike c) laterItem laterItem := by
  refine agree_bind_get (fun _ _ _ => rfl) fun body _ => ?_
  cases body.stage with
  | fresh | finished => exact ActOn.agree_pure _
  | opened =>
    exact agree_bind_get (fun _ _ _ => rfl) fun body _ =>
      (agree_onRun (Run.agree_onSession _ fun _ _ => Session.agree_openReader)).bind fun _ =>
        (agree_chunkItem hc _).bind fun _ => ActOn.agree_pure _
  | chunk session => exact (agree_chunkItem hc session).bind fun _ => ActOn.agree_pure _
  | status => exact (agree_enter _).bind fun _ => ActOn.agree_pure _
  | closed =>
    exact (agree_onRun (Run.agree_enter _)).bind fun _ => (agree_enter _).bind fun _ =>
      ActOn.agree_pure _
  | sentinel => exact agree_listItem hc
  | report rest => exact agree_reportItem rest

theorem agree_next : ActOn.Agree (Alike c) next next := by
  have htake : ActOn.Agree (Alike c) takeItem takeItem := by
    refine ((agree_laterItem hc).onFailure (agree_finish hc)).bind fun item => ?_
    cases item with
    | some item => exact ActOn.agree_pure _
    | none => exact (agree_finish hc).bind fun _ => ActOn.agree_pure _
  refine agree_bind_get (fun _ _ _ => rfl) fun body _ => ?_
  cases body.stage with
  | finished => exact ActOn.agree_pure _
  | fresh => exact agree_openingItem.bind fun _ => ActOn.agree_pure _
  | opened | chunk session | status | closed | sentinel | report rest => exact htake

end Body

end ScanLauncher
