import ScanLauncher.Proofs.Process.Launch
import ScanLauncher.Proofs.Report.Reset
import ScanLauncher.Proofs.Run.Closing

namespace ScanLauncher

private theorem Failure.ofPathFault_ne_busy (path : Text) (fault : PathFault) :
    ofPathFault path fault ≠ .busy := by
  cases fault <;> exact nofun

private theorem Failure.ofResolveFault_ne_busy (path : Text) (fault : ResolveFault) :
    ofResolveFault path fault ≠ .busy := by
  cases fault with
  | path fault => exact ofPathFault_ne_busy path fault
  | linkLoop | tooDeep => exact nofun

theorem Report.gate_reset (path : Path) (w : World) : (reset path w).2.gate = w.gate :=
  (reset_filesOnly path w).gate_eq

/-- A claim that is granted changes nothing but the registry. -/
theorem Gate.acquire_eq_ok {reportDir key : Path} {wait : Seconds} {w w' : World}
    (h : acquire reportDir wait w = (.ok key, w')) : w' = { w with gate := w.gate.taken key } := by
  cases hresolve : w.files.resolve reportDir.text with
  | error fault =>
    rw [acquire_lost hresolve] at h
    cases h
  | ok found =>
    cases hwait : isTooLong wait with
    | true =>
      rw [acquire_tooLong hresolve hwait] at h
      cases h
    | false =>
      cases hheld : w.gate.isHeld found with
      | true =>
        obtain ⟨_, hacquire, _⟩ := acquire_held hresolve hwait hheld
        rw [hacquire] at h
        cases h
      | false =>
        rw [acquire_free hresolve hwait hheld] at h
        cases h
        rfl

namespace Run

/-- A run under a configuration that was not started and has no claim. -/
structure IsUnstarted (run : Run) (config : Config) : Prop where
  config_eq : run.config = config
  sessions : run.sessions = []
  lock : run.lock = none
  isClosed : run.isClosed = false

/-- The run of a start that succeeded. -/
def started (config : Config) (outcome : Outcome) (key : Path) (session : Session) : Run :=
  { config, sessions := [session], lock := some key, state := .running, outcome := some outcome }

/-- What a start under a configuration can come to. -/
inductive StartCase (config : Config) (request : ScanRequest) (w : World) :
    Except Failure Unit → Run → World → Prop
  /-- The report directory has no canonical path. -/
  | lost {fault : ResolveFault} {run : Run}
      (hresolve : w.files.resolve config.reportDir.text = .error fault)
      (hrun : run.IsUnstarted config) :
      StartCase config request w (.error (.ofResolveFault config.reportDir.text fault)) run w
  /-- Nobody can wait that long for a lock. -/
  | tooLong {key : Path} {run : Run} (hresolve : w.files.resolve config.reportDir.text = .ok key)
      (hwait : Gate.isTooLong config.server.busyWait = true) (hrun : run.IsUnstarted config) :
      StartCase config request w (.error .tooLarge) run { w with gate := w.gate.register key }
  /-- The lock is held. -/
  | refused {key : Path} {run : Run} {w' : World}
      (hresolve : w.files.resolve config.reportDir.text = .ok key)
      (hheld : w.gate.isHeld key = true) (hrun : run.IsUnstarted config)
      (hworld : { w with gate := w.gate.register key }.RecordsOnly w') :
      StartCase config request w (.error .busy) run w'
  /-- The lock is free, but the reset or the launch fails. -/
  | failed {key : Path} {failure : Failure} {run : Run} {w' : World}
      (hresolve : w.files.resolve config.reportDir.text = .ok key)
      (hfree : w.gate.isHeld key = false) (hbusy : failure ≠ .busy) (hrun : run.IsUnstarted config)
      (hgate : w'.gate = (w.gate.taken key).mark key false)
      (hstrays : w'.strays = w.strays ∨ failure = .misuse .noThread ∧
        Session.isUntimed (w.specs.headD {}) (some config.tool.timeout) = true) :
      StartCase config request w (.error failure) run w'
  | succeeded {key : Path} {resetOk : Bool} {session : Session} {w' : World}
      (hresolve : w.files.resolve config.reportDir.text = .ok key)
      (hwait : Gate.isTooLong config.server.busyWait = false)
      (hfree : w.gate.isHeld key = false) (hnew : session.IsNew config.tool.chunkSize)
      (hgate : w'.gate = w.gate.taken key) (hstrays : w'.strays = w.strays) :
      StartCase config request w (.ok ()) (started config { request, resetOk } key session) w'

private theorem resetReports_cases (run : Run) (w : World) :
    ∃ result run' w', resetReports run w = ((result, run'), w') ∧ w.FilesOnly w' ∧
      ((∃ failure, result = .error failure ∧ failure ≠ .busy ∧ run' = run) ∨
        ∃ resetOk, result = .ok () ∧ run' = { run with
          outcome := run.outcome.map fun outcome => { outcome with resetOk } }) := by
  have hfiles := Report.reset_filesOnly run.config.reportDir w
  rcases hreset : Report.reset run.config.reportDir w with ⟨failure | resetOk, w'⟩ <;>
    rw [hreset] at hfiles
  · have hforeign := Report.fails_reset run.config.reportDir w failure (by rw [hreset])
    exact ⟨.error failure, run, w', by simp [resetReports, hreset], hfiles,
      .inl ⟨failure, rfl, hforeign.ne_busy, rfl⟩⟩
  · cases resetOk with
    | true =>
      exact ⟨_, _, w', by simp [resetReports, hreset, modifyOutcome], hfiles, .inr ⟨true, rfl, rfl⟩⟩
    | false =>
      exact ⟨_, _, w'.note .warning .run _, by simp [resetReports, hreset, modifyOutcome, log]; rfl,
        hfiles.trans (w'.recordsOnly_note _ _ _).filesOnly, .inr ⟨false, rfl, rfl⟩⟩

theorem launchTool_cases (request : ScanRequest) (run : Run) (w : World) :
    ∃ result run' w', launchTool request run w = ((result, run'), w') ∧ w'.gate = w.gate ∧
      ((∃ failure, result = .error failure ∧ failure ≠ .busy ∧ run' = run ∧
          (w'.strays = w.strays ∨ failure = .misuse .noThread ∧
            Session.isUntimed (w.specs.headD {}) (some run.config.tool.timeout) = true)) ∨
        ∃ session, result = .ok () ∧ session.IsNew run.config.tool.chunkSize ∧
          w'.strays = w.strays ∧
          run' = { run with sessions := run.sessions ++ [session] }) := by
  let tool := run.config.tool
  rcases hlaunch : Session.launch (commandOf run.config request) tool.workingDir tool.chunkSize
    (some tool.timeout) w with ⟨failure | session, w'⟩
  · obtain ⟨hgate, hbusy, hstrays⟩ := Session.launch_eq_error hlaunch
    exact ⟨.error failure, run, w', by simp [launchTool, tool, hlaunch], hgate,
      .inl ⟨failure, rfl, hbusy, rfl, hstrays⟩⟩
  · obtain ⟨_, hworld, _⟩ := Session.launch_eq_ok hlaunch
    exact ⟨.ok (), _, w', by simp [launchTool, tool, hlaunch], hworld.gate_eq,
      .inr ⟨session, rfl, Session.isNew_of_launch hlaunch, by rw [hworld], rfl⟩⟩

/-- A run that has just got its request. -/
def requested (config : Config) (request : ScanRequest) : Run :=
  { config, state := .normalizing, outcome := some { request } }

theorem start_eq (config : Config) (url revision subdir : Option Text) (w : World) :
    start url revision subdir { config } w =
      (let request := ScanRequest.normalize url revision subdir
      do
        (prepare request).onFailure do
          enter .failed
          release
        log .info
          ("Scan started for " ++ Text.quoted request.sourceUrl ++ " at " ++ request.revision) :
        ActOn Run Unit) (requested config (.normalize url revision subdir)) w := rfl

section Prepared

variable {config : Config} {url revision subdir : Option Text} {run : Run} {key : Path}
  {failure : Failure} {w w₁ : World}

/-- A start is done when it is prepared. -/
theorem start_of_prepare_ok
    (hprepare : prepare (.normalize url revision subdir)
      (requested config (.normalize url revision subdir)) w = ((.ok (), run), w₁)) :
    ∃ message, start url revision subdir { config } w =
      ((.ok (), run), w₁.note .info .run message) := by
  rw [start_eq]
  simp only [ActOn.bind_apply, ActOn.onFailure_apply, hprepare, log, ActOn.lift_apply, Act.log_apply]
  exact ⟨_, rfl⟩

/-- A start that fails behind its claim gives the claim back. -/
theorem start_of_prepare_error
    (hprepare : prepare (.normalize url revision subdir)
      (requested config (.normalize url revision subdir)) w = ((.error failure, run), w₁))
    (hlock : run.lock = some key) (hheld : w₁.gate.isHeld key = true) :
    start url revision subdir { config } w =
      ((.error failure, { run with state := .failed, lock := none }),
        { w₁ with gate := w₁.gate.mark key false }) := by
  rw [start_eq]
  simp [ActOn.onFailure_apply, hprepare, enter, release, hlock, Gate.release_held hheld]

/-- A claim that is not granted leaves nothing to give back. -/
theorem start_unclaimed (url revision subdir : Option Text)
    (hacquire : Gate.acquire config.reportDir config.server.busyWait w = (.error failure, w₁)) :
    start url revision subdir { config } w =
      ((.error failure,
        { config
          state := .failed
          outcome := some { request := .normalize url revision subdir } }), w₁) := by
  rw [start_eq]
  simp [ActOn.onFailure_apply, prepare, claim, requested, hacquire, enter, release]

end Prepared

private theorem prepare_claimed {config : Config} (request : ScanRequest) {key : Path} {w w₁ : World}
    (hacquire : Gate.acquire config.reportDir config.server.busyWait w = (.ok key, w₁)) :
    ∃ result run w',
      prepare request (requested config request) w = ((result, run), w') ∧
      w'.gate = w₁.gate ∧
      ((∃ failure, result = .error failure ∧ failure ≠ .busy ∧ run.config = config ∧
          run.sessions = [] ∧ run.lock = some key ∧ run.isClosed = false ∧
          (w'.strays = w₁.strays ∨ failure = .misuse .noThread ∧
            Session.isUntimed (w₁.specs.headD {}) (some config.tool.timeout) = true)) ∨
        ∃ resetOk session, result = .ok () ∧ session.IsNew config.tool.chunkSize ∧
          w'.strays = w₁.strays ∧
          run = started config { request, resetOk } key session) := by
  have hclaim : claim (requested config request) w =
      ((.ok (), { config, lock := some key, state := .normalizing, outcome := some { request } }),
        w₁) := by
    simp [claim, requested, hacquire]
  obtain ⟨result, run₂, w₂, hreset, hfiles₂, ⟨failure, rfl, hbusy, rfl⟩ | ⟨resetOk, rfl, rfl⟩⟩ :=
    resetReports_cases { config, lock := some key, state := .resetting, outcome := some { request } }
      w₁
  · exact ⟨_, _, w₂, by simp [prepare, hclaim, enter, hreset]; rfl, hfiles₂.gate_eq,
      .inl ⟨failure, rfl, hbusy, rfl, rfl, rfl, rfl, .inl (by rw [hfiles₂])⟩⟩
  obtain ⟨result, run₃, w₃, hlaunch, hgate₃, ⟨failure, rfl, hbusy, rfl, hstrays⟩ |
      ⟨session, rfl, hnew, hstrays, rfl⟩⟩ :=
    launchTool_cases request
      { config, lock := some key, state := .running, outcome := some { request, resetOk } } w₂
  all_goals rw [hfiles₂] at hstrays
  · exact ⟨_, _, w₃, by simp [prepare, hclaim, enter, hreset, hlaunch]; rfl,
      hgate₃.trans hfiles₂.gate_eq, .inl ⟨failure, rfl, hbusy, rfl, rfl, rfl, rfl, hstrays⟩⟩
  · exact ⟨_, _, w₃, by simp [prepare, hclaim, enter, hreset, hlaunch]; rfl,
      hgate₃.trans hfiles₂.gate_eq, .inr ⟨resetOk, session, rfl, hnew, hstrays, rfl⟩⟩

theorem start_cases (config : Config) (url revision subdir : Option Text) (w : World) :
    ∃ result run w', start url revision subdir { config } w = ((result, run), w') ∧
      StartCase config (ScanRequest.normalize url revision subdir) w result run w' := by
  cases hresolve : w.files.resolve config.reportDir.text with
  | error fault =>
    exact ⟨_, _, w, start_unclaimed url revision subdir (Gate.acquire_lost hresolve),
      .lost hresolve ⟨rfl, rfl, rfl, rfl⟩⟩
  | ok key =>
    cases hwait : Gate.isTooLong config.server.busyWait with
    | true =>
      exact ⟨_, _, _, start_unclaimed url revision subdir (Gate.acquire_tooLong hresolve hwait),
        .tooLong hresolve hwait ⟨rfl, rfl, rfl, rfl⟩⟩
    | false =>
      cases hheld : w.gate.isHeld key with
      | true =>
        obtain ⟨w', hacquire, hworld⟩ := Gate.acquire_held hresolve hwait hheld
        exact ⟨_, _, w', start_unclaimed url revision subdir hacquire,
          .refused hresolve hheld ⟨rfl, rfl, rfl, rfl⟩ hworld⟩
      | false =>
        have hacquire := Gate.acquire_free hresolve hwait hheld
        obtain ⟨result, run', w', hprepare, hgate, hcases⟩ :=
          prepare_claimed (.normalize url revision subdir) hacquire
        obtain ⟨failure, rfl, hbusy, hconfig, hsessions, hlock, hclosed, hstrays⟩ |
          ⟨resetOk, session, rfl, hnew, hstrays, rfl⟩ := hcases
        · have hheld' : w'.gate.isHeld key = true := by
            rw [hgate]
            exact (Gate.isHeld_taken _ _ _).mpr (.inr rfl)
          exact ⟨_, _, _, start_of_prepare_error hprepare hlock hheld',
            .failed hresolve hheld hbusy ⟨hconfig, hsessions, rfl, hclosed⟩ (by rw [hgate]) hstrays⟩
        · obtain ⟨message, hstart⟩ := start_of_prepare_ok hprepare
          exact ⟨_, _, _, hstart, .succeeded hresolve hwait hheld hnew hgate hstrays⟩

/-- Whatever a start has come to is one of the cases. -/
theorem startCase_of_start {config : Config} {url revision subdir : Option Text} {w w' : World}
    {result : Except Failure Unit} {run : Run}
    (h : start url revision subdir { config } w = ((result, run), w')) :
    StartCase config (.normalize url revision subdir) w result run w' := by
  obtain ⟨_, _, _, hstart, hcase⟩ := start_cases config url revision subdir w
  rw [h] at hstart
  cases hstart
  exact hcase

private theorem claim_eq_ok {run claimed : Run} {w w' : World} (h : claim run w = ((.ok (), claimed), w')) :
    ∃ key, claimed = { run with lock := some key } ∧ w' = { w with gate := w.gate.taken key } := by
  rcases hacquire : Gate.acquire run.config.reportDir run.config.server.busyWait w with
    ⟨failure | key, v⟩
  · simp only [claim, ActOn.bind_apply, ActOn.get_apply, ActOn.lift_apply, hacquire] at h
    cases h
  · have hv := Gate.acquire_eq_ok hacquire
    simp only [claim, ActOn.bind_apply, ActOn.get_apply, ActOn.lift_apply, hacquire,
      ActOn.modify_apply] at h
    cases h
    exact ⟨key, rfl, hv⟩

private theorem resetReports_eq_ok {run emptied : Run} {w w' : World}
    (h : resetReports run w = ((.ok (), emptied), w')) :
    ∃ resetOk w₁, Report.reset run.config.reportDir w = (.ok resetOk, w₁) ∧
      emptied = { run with outcome := run.outcome.map fun outcome => { outcome with resetOk } } ∧
      w' = if resetOk then w₁ else w₁.note .warning .run
        ("Continuing with stale report directory " ++ run.config.reportDir.text) := by
  rcases hreset : Report.reset run.config.reportDir w with ⟨failure | _ | _, w₁⟩
  · simp only [resetReports, ActOn.bind_apply, ActOn.get_apply, ActOn.lift_apply, hreset] at h
    cases h
  · simp only [resetReports, hreset, modifyOutcome, log, ActOn.bind_apply, ActOn.get_apply,
      ActOn.lift_apply, ActOn.modify_apply] at h
    cases h
    exact ⟨false, w₁, rfl, rfl, rfl⟩
  · simp only [resetReports, hreset, modifyOutcome, ActOn.bind_apply, ActOn.get_apply,
      ActOn.lift_apply, ActOn.modify_apply] at h
    cases h
    exact ⟨true, _, rfl, rfl, rfl⟩

private theorem launchTool_eq_ok {request : ScanRequest} {run launched : Run} {w w' : World}
    (h : launchTool request run w = ((.ok (), launched), w')) :
    ∃ session, Session.launch (commandOf run.config request) run.config.tool.workingDir
        run.config.tool.chunkSize (some run.config.tool.timeout) w = (.ok session, w') ∧
      launched = { run with sessions := run.sessions ++ [session] } := by
  rcases hlaunch : Session.launch (commandOf run.config request) run.config.tool.workingDir
    run.config.tool.chunkSize (some run.config.tool.timeout) w with ⟨failure | session, w₁⟩
  · simp only [launchTool, ActOn.bind_apply, ActOn.get_apply, ActOn.lift_apply, hlaunch] at h
    cases h
  · simp only [launchTool, ActOn.bind_apply, ActOn.get_apply, ActOn.lift_apply, hlaunch,
      ActOn.modify_apply] at h
    cases h
    exact ⟨session, rfl, rfl⟩

/-- A start that succeeds has claimed the report directory, emptied it as far as it could and launched
the script, one after the other. -/
theorem start_eq_ok {config : Config} {url revision subdir : Option Text} {w w' : World} {run : Run}
    (h : start url revision subdir { config } w = ((.ok (), run), w')) :
    ∃ key resetOk session w₁ w₂,
      run = started config { request := .normalize url revision subdir, resetOk } key session ∧
      Report.reset config.reportDir { w with gate := w.gate.taken key } = (.ok resetOk, w₁) ∧
      Session.launch (commandOf config (.normalize url revision subdir)) config.tool.workingDir
        config.tool.chunkSize (some config.tool.timeout)
        (if resetOk then w₁ else w₁.note .warning .run
          ("Continuing with stale report directory " ++ config.reportDir.text)) = (.ok session, w₂) ∧
      ∃ message, w' = w₂.note .info .run message := by
  rw [start_eq] at h
  obtain ⟨_, _, w₂, hprepare, hlog⟩ := ActOn.exists_of_bind h
  cases hlog
  obtain ⟨_, _, _, hclaim, hrest⟩ := ActOn.exists_of_bind (ActOn.eq_of_onFailure hprepare)
  obtain ⟨key, rfl, rfl⟩ := claim_eq_ok hclaim
  obtain ⟨_, _, _, hresetting, hrest⟩ := ActOn.exists_of_bind hrest
  cases hresetting
  obtain ⟨_, _, _, hreset, hrest⟩ := ActOn.exists_of_bind hrest
  obtain ⟨resetOk, w₁, hemptied, rfl, rfl⟩ := resetReports_eq_ok hreset
  obtain ⟨_, _, _, hrunning, hlaunched⟩ := ActOn.exists_of_bind hrest
  cases hrunning
  obtain ⟨session, hlaunch, rfl⟩ := launchTool_eq_ok hlaunched
  exact ⟨key, resetOk, session, w₁, w₂, rfl, hemptied, hlaunch, _, rfl⟩

theorem IsUnstarted.sound {run : Run} {config : Config} (hrun : run.IsUnstarted config) :
    run.Sound := by
  refine ⟨?_, ?_, fun _ session hsession => ?_, fun _ _ => hrun.lock⟩
  · simp [hrun.sessions]
  · simp [isOpen, hrun.sessions, hrun.lock]
  · rw [hrun.sessions] at hsession
    cases hsession

theorem StartCase.isTooLong_eq_false {config : Config} {request : ScanRequest} {w w' : World}
    {result : Except Failure Unit} {run : Run} {key : Path}
    (h : StartCase config request w result run w') (hlock : run.lock = some key) :
    Gate.isTooLong config.server.busyWait = false := by
  cases h with
  | lost _ hrun | tooLong _ _ hrun | refused _ _ hrun | failed _ _ _ hrun => simp [hrun.lock] at hlock
  | succeeded _ hwait => exact hwait

/-- A start is turned away only because the lock of its report directory is held. -/
theorem StartCase.isHeld_of_busy {config : Config} {request : ScanRequest} {w w' : World}
    {result : Except Failure Unit} {run : Run} (h : StartCase config request w result run w')
    (hbusy : result = .error .busy) :
    ∃ key, w.files.resolve config.reportDir.text = .ok key ∧ w.gate.isHeld key = true := by
  cases h with
  | refused hresolve hheld => exact ⟨_, hresolve, hheld⟩
  | lost => exact absurd (Except.error.inj hbusy) (Failure.ofResolveFault_ne_busy _ _)
  | failed _ _ hfailure => exact absurd (Except.error.inj hbusy) hfailure
  | tooLong | succeeded => cases hbusy

/-- A child is left without a run only by a start that gets no thread for the timer. -/
theorem StartCase.strays {config : Config} {request : ScanRequest} {w w' : World}
    {result : Except Failure Unit} {run : Run} (h : StartCase config request w result run w') :
    w'.strays = w.strays ∨ result = .error (.misuse .noThread) ∧
      Session.isUntimed (w.specs.headD {}) (some config.tool.timeout) = true := by
  cases h with
  | lost | tooLong => exact .inl rfl
  | refused _ _ _ hworld => exact .inl (by rw [hworld])
  | failed _ _ _ _ _ hstrays => exact hstrays.imp_right fun h => ⟨congrArg _ h.1, h.2⟩
  | succeeded _ _ _ _ _ hstrays => exact .inl hstrays

/-- A start leaves a run whose accounts are in order. It takes a lock that was free, or none, and
no lock is freed by it. -/
theorem StartCase.accounts {config : Config} {request : ScanRequest} {w w' : World}
    {result : Except Failure Unit} {run : Run} (h : StartCase config request w result run w') :
    run.Sound ∧ (∀ key, run.lock = some key → w.gate.isHeld key = false) ∧
      ∀ key, w'.gate.isHeld key = true ↔ w.gate.isHeld key = true ∨ run.lock = some key := by
  cases h with
  | lost _ hrun | tooLong _ _ hrun => exact ⟨hrun.sound, by simp [hrun.lock], by simp [hrun.lock]⟩
  | refused _ _ hrun hworld =>
    exact ⟨hrun.sound, by simp [hrun.lock], by simp [hrun.lock, hworld.gate_eq]⟩
  | failed _ hfree _ hrun hgate =>
    exact ⟨hrun.sound, by simp [hrun.lock], by simp [hrun.lock, hgate, Gate.isHeld_mark_taken hfree]⟩
  | succeeded _ _ hfree _ hgate =>
    refine ⟨⟨Nat.le_refl 1, rfl, nofun, nofun⟩, ?_, fun key => ?_⟩
    · rintro key ⟨⟩
      exact hfree
    · simp [hgate, Gate.isHeld_taken, started]

end Run

end ScanLauncher
