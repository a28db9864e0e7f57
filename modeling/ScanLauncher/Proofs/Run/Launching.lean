import ScanLauncher.Proofs.Report.Emptied
import ScanLauncher.Proofs.Run.Spawning

namespace ScanLauncher

/-- The failure comes behind the request for a child: the child could not be started, or its timer. -/
def Failure.FollowsSpawn (failure : Failure) : Prop :=
  (∃ message, failure = .launch message) ∨ failure = .misuse .noThread

theorem Failure.IsForeign.not_followsSpawn {failure : Failure} (h : failure.IsForeign) :
    ¬ failure.FollowsSpawn := by
  rintro (⟨message, rfl⟩ | rfl) <;> cases h

theorem Failure.not_followsSpawn_ofResolveFault (path : Text) (fault : ResolveFault) :
    ¬ (ofResolveFault path fault).FollowsSpawn := by
  cases fault with
  | path fault => exact (isForeign_ofPathFault path fault).not_followsSpawn
  | linkLoop | tooDeep => simp [ofResolveFault, FollowsSpawn]

private theorem Gate.acquire_eq_error {reportDir : Path} {wait : Seconds} {w w' : World} {failure : Failure}
    (h : acquire reportDir wait w = (.error failure, w')) :
    ¬ failure.FollowsSpawn ∧ w'.spawned = w.spawned := by
  cases hresolve : w.files.resolve reportDir.text with
  | error fault =>
    rw [acquire_lost hresolve] at h
    cases h
    exact ⟨Failure.not_followsSpawn_ofResolveFault _ fault, rfl⟩
  | ok key =>
    cases hwait : isTooLong wait with
    | true =>
      rw [acquire_tooLong hresolve hwait] at h
      cases h
      exact ⟨by simp [Failure.FollowsSpawn], rfl⟩
    | false =>
      cases hheld : w.gate.isHeld key with
      | true =>
        have hrefused : acquire reportDir wait w =
            (.error .busy, { w with gate := w.gate.register key }.note .warning .run
              ("Rejected scan: " ++ reportDir.text ++ " is in use")) := by
          simp [acquire, take, lockFor_ok hresolve, hwait, hheld]
          rfl
        rw [hrefused] at h
        cases h
        exact ⟨by simp [Failure.FollowsSpawn], rfl⟩
      | false =>
        rw [acquire_free hresolve hwait hheld] at h
        cases h

theorem Report.specs_reset (path : Path) (w : World) : (reset path w).2.specs = w.specs := by
  have hkeeps : (reset path).Keeps (·.specs = w.specs) :=
    keeps_reset_of_files (fun _ _ _ h => h) fun _ _ h => h
  exact hkeeps w rfl

namespace Session

variable {command : List Value} {workingDir : Text} {chunkSize : Int} {timeout : Option Seconds}
  {w w' : World}

private theorem launchError_of_ok {session : Session}
    (h : launch command workingDir chunkSize timeout w = (.ok session, w')) :
    (w.specs.headD {}).launchError = none ∧ isUntimed (w.specs.headD {}) timeout = false := by
  cases launchCase_of_launch h with
  | started _ _ hchild hthread => exact ⟨hchild, hthread⟩

private theorem exists_refusal (hcommand : command ≠ []) (effect : FaultEffect) :
    ∃ message, refusal command effect = .launch message := by
  cases command with
  | nil => exact absurd rfl hcommand
  | cons program arguments => exact ⟨_, rfl⟩

end Session

namespace Run

/-- The world in which the script is launched, once the report directory was reset. -/
def afterReset (config : Config) (resetOk : Bool) (w : World) : World :=
  if resetOk then w
  else w.note .warning .run ("Continuing with stale report directory " ++ config.reportDir.text)

/-- A run that has its claim, while the report directory is reset and the script launched. -/
def claimed (config : Config) (request : ScanRequest) (key : Path) (state : RunState)
    (resetOk : Bool) : Run :=
  { config, lock := some key, state, outcome := some { request, resetOk } }

variable {config : Config} {url revision subdir : Option Text} {request : ScanRequest} {run : Run}
  {key : Path} {failure : Failure} {resetOk : Bool} {w w' w₁ w₂ : World}

private theorem gate_afterReset (config : Config) (resetOk : Bool) (w : World) :
    (afterReset config resetOk w).gate = w.gate := by
  cases resetOk <;> rfl

private theorem prepare_of_reset_error (request : ScanRequest)
    (hacquire : Gate.acquire config.reportDir config.server.busyWait w = (.ok key, w₁))
    (hreset : Report.reset config.reportDir w₁ = (.error failure, w₂)) :
    prepare request (requested config request) w =
      ((.error failure, claimed config request key .resetting true), w₂) := by
  simp [prepare, claim, requested, claimed, hacquire, enter, resetReports, hreset]

theorem prepare_of_reset (request : ScanRequest)
    (hacquire : Gate.acquire config.reportDir config.server.busyWait w = (.ok key, w₁))
    (hreset : Report.reset config.reportDir w₁ = (.ok resetOk, w₂)) :
    prepare request (requested config request) w =
      launchTool request (claimed config request key .running resetOk)
        (afterReset config resetOk w₂) := by
  cases resetOk <;> simp [prepare, claim, requested, claimed, hacquire, enter, resetReports, hreset,
    modifyOutcome, log, afterReset]

/-- How a start fails. -/
inductive StartFailure (config : Config) (request : ScanRequest) (w : World) (failure : Failure) :
    World → Prop where
  | unclaimed {w' : World}
      (hacquire : Gate.acquire config.reportDir config.server.busyWait w = (.error failure, w')) :
      StartFailure config request w failure w'
  | unreset {key : Path} {w₁ : World}
      (hreset : Report.reset config.reportDir { w with gate := w.gate.taken key } =
        (.error failure, w₁)) :
      StartFailure config request w failure { w₁ with gate := w₁.gate.mark key false }
  | unlaunched {key : Path} {resetOk : Bool} {w₁ w₂ : World}
      (hreset : Report.reset config.reportDir { w with gate := w.gate.taken key } =
        (.ok resetOk, w₁))
      (hlaunch : Session.launch (commandOf config request) config.tool.workingDir
        config.tool.chunkSize (some config.tool.timeout) (afterReset config resetOk w₁) =
          (.error failure, w₂)) :
      StartFailure config request w failure { w₂ with gate := w₂.gate.mark key false }

private theorem launchTool_eq_error (h : launchTool request run w = ((.error failure, run), w')) :
    Session.launch (commandOf run.config request) run.config.tool.workingDir
      run.config.tool.chunkSize (some run.config.tool.timeout) w = (.error failure, w') := by
  rcases hlaunch : Session.launch (commandOf run.config request) run.config.tool.workingDir
    run.config.tool.chunkSize (some run.config.tool.timeout) w with ⟨refusal | session, w₁⟩
  · simp only [launchTool, ActOn.bind_apply, ActOn.get_apply, ActOn.lift_apply, hlaunch] at h
    cases h
    rfl
  · simp only [launchTool, ActOn.bind_apply, ActOn.get_apply, ActOn.lift_apply, hlaunch] at h
    cases h

/-- A start fails in one of the three ways. -/
theorem startFailure_of_start
    (h : start url revision subdir { config } w = ((.error failure, run), w')) :
    StartFailure config (.normalize url revision subdir) w failure w' := by
  let request := ScanRequest.normalize url revision subdir
  rcases hacquire : Gate.acquire config.reportDir config.server.busyWait w with ⟨refusal | key, w₁⟩
  · rw [start_unclaimed url revision subdir hacquire] at h
    cases h
    exact .unclaimed hacquire
  obtain rfl := Gate.acquire_eq_ok hacquire
  have hheld : (w.gate.taken key).isHeld key = true := (Gate.isHeld_taken _ _ _).mpr (.inr rfl)
  -- Neither the reset nor the launch touches the locks, so the claim is there to be given back.
  have hgate := Report.gate_reset config.reportDir { w with gate := w.gate.taken key }
  rcases hreset : Report.reset config.reportDir { w with gate := w.gate.taken key } with
    ⟨refusal | resetOk, w₁⟩ <;> rw [hreset] at hgate
  · have hprepare := prepare_of_reset_error request hacquire hreset
    have hstill : w₁.gate.isHeld key = true := by
      rw [show w₁.gate = w.gate.taken key from hgate]
      exact hheld
    rw [start_of_prepare_error hprepare rfl hstill] at h
    cases h
    exact .unreset hreset
  · have hprepare := prepare_of_reset request hacquire hreset
    obtain ⟨result, launched, w₂, hlaunch, hgate₂, ⟨refusal, rfl, _, rfl, _⟩ | ⟨session, rfl, _, _⟩⟩ :=
      launchTool_cases request (claimed config request key .running resetOk)
        (afterReset config resetOk w₁)
    · rw [hlaunch] at hprepare
      have hstill : w₂.gate.isHeld key = true := by
        rw [hgate₂, gate_afterReset, show w₁.gate = w.gate.taken key from hgate]
        exact hheld
      rw [start_of_prepare_error hprepare rfl hstill] at h
      cases h
      exact .unlaunched hreset (launchTool_eq_error hlaunch)
    · rw [hlaunch] at hprepare
      obtain ⟨_, hok⟩ := start_of_prepare_ok hprepare
      rw [h] at hok
      cases hok

theorem specs_afterReset (config : Config) (resetOk : Bool) (w : World) :
    (afterReset config resetOk w).specs = w.specs := by
  cases resetOk <;> rfl

private theorem spawned_afterReset (config : Config) (resetOk : Bool) (w : World) :
    (afterReset config resetOk w).spawned = w.spawned := by
  cases resetOk <;> rfl

private theorem commandOf_ne_nil (config : Config) (request : ScanRequest) : commandOf config request ≠ [] := by
  unfold commandOf ScanRequest.command
  dsimp only
  split
  · split <;> exact nofun
  · exact nofun

/-- A start that succeeds is one of a child that can be started, and its timer with it. -/
theorem launchError_of_start (h : start url revision subdir { config } w = ((.ok (), run), w')) :
    (w.specs.headD {}).launchError = none ∧
      Session.isUntimed (w.specs.headD {}) (some config.tool.timeout) = false := by
  obtain ⟨key, resetOk, session, w₁, w₂, _, hreset, hlaunch, _⟩ := start_eq_ok h
  have hspecs := Report.specs_reset config.reportDir { w with gate := w.gate.taken key }
  rw [hreset] at hspecs
  have hspecs : w₁.specs = w.specs := hspecs
  rw [← hspecs, ← specs_afterReset config resetOk w₁]
  exact Session.launchError_of_ok hlaunch

namespace StartFailure

/-- A start that fails has asked for a child exactly if the launch is what failed, and then it is a
child that cannot be started, or one whose timer cannot. -/
theorem launched_or_not (h : StartFailure config request w failure w') :
    (failure.FollowsSpawn ∧
        (∀ message, failure = .launch message → (w.specs.headD {}).launchError.isSome = true) ∧
        w'.spawned = w.spawned ++ [.spawn (commandOf config request) config.tool.workingDir]) ∨
      ¬ failure.FollowsSpawn ∧ w'.spawned = w.spawned := by
  cases h with
  | unclaimed hacquire =>
    exact .inr (Gate.acquire_eq_error hacquire)
  | @unreset key w₁ hreset =>
    have hspawned := Report.spawned_reset config.reportDir { w with gate := w.gate.taken key }
    have hforeign := Report.fails_reset config.reportDir { w with gate := w.gate.taken key }
    rw [hreset] at hspawned hforeign
    exact .inr ⟨(hforeign failure rfl).not_followsSpawn, hspawned⟩
  | @unlaunched key resetOk w₁ w₂ hreset hlaunch =>
    have hspawned := Report.spawned_reset config.reportDir { w with gate := w.gate.taken key }
    have hspecs := Report.specs_reset config.reportDir { w with gate := w.gate.taken key }
    rw [hreset] at hspawned hspecs
    have hbefore : (afterReset config resetOk w₁).spawned = w.spawned :=
      (spawned_afterReset config resetOk w₁).trans hspawned
    cases Session.launchCase_of_launch hlaunch with
    | unshown => exact .inr ⟨by simp [Failure.FollowsSpawn], hbefore⟩
    | unfit _ hfault _ htrace =>
      refine .inr ⟨(Session.isForeign_of_fault? hfault).not_followsSpawn, ?_⟩
      rw [World.spawned, htrace]
      exact hbefore
    | untimed _ _ htrace =>
      refine .inl ⟨.inr rfl, by simp, ?_⟩
      rw [World.spawned, htrace, List.filter_append]
      exact congrArg (· ++ _) hbefore
    | @refused effect _ _ _ hchild _ htrace =>
      rw [specs_afterReset, show w₁.specs = w.specs from hspecs] at hchild
      refine .inl ⟨.inl (Session.exists_refusal (commandOf_ne_nil config request) effect),
        fun _ _ => ?_, ?_⟩
      · rw [hchild]
        rfl
      · rw [World.spawned, htrace, List.filter_append]
        exact congrArg (· ++ _) hbefore

end StartFailure

/-- The start of a child that every start with the same arguments asks for, if it gets that far. -/
def spawnOf (config : Config) (url revision subdir : Option Text) : TraceEvent :=
  .spawn (commandOf config (.normalize url revision subdir)) config.tool.workingDir

/-- A start asks for one child, with the command of its request, if it succeeds or fails in the launch;
and for none if it fails before. -/
theorem spawned_start_cases (config : Config) (url revision subdir : Option Text) (w : World) :
    let after := start url revision subdir { config } w
    ((after.1.1 = .ok () ∨ ∃ failure, after.1.1 = .error failure ∧ failure.FollowsSpawn) ∧
        after.2.spawned = w.spawned ++ [spawnOf config url revision subdir]) ∨
      (∃ failure, after.1.1 = .error failure ∧ ¬ failure.FollowsSpawn) ∧
        after.2.spawned = w.spawned := by
  rcases h : start url revision subdir { config } w with ⟨⟨failure | _, run⟩, w'⟩
  · rcases (startFailure_of_start h).launched_or_not with ⟨hfollows, _, hspawned⟩ |
      ⟨hbefore, hspawned⟩
    · exact .inl ⟨.inr ⟨failure, rfl, hfollows⟩, hspawned⟩
    · exact .inr ⟨⟨failure, rfl, hbefore⟩, hspawned⟩
  · exact .inl ⟨.inl rfl, spawned_start h⟩

/-- A start with a claim, a reset and a launch that succeed does so too, with the session of the
launch. -/
theorem start_of_launch {session : Session} (url revision subdir : Option Text)
    (hacquire : Gate.acquire config.reportDir config.server.busyWait w = (.ok key, w'))
    (hreset : Report.reset config.reportDir w' = (.ok resetOk, w₁))
    (hlaunch : Session.launch (commandOf config (.normalize url revision subdir))
      config.tool.workingDir config.tool.chunkSize (some config.tool.timeout)
      (afterReset config resetOk w₁) = (.ok session, w₂)) :
    ∃ message, start url revision subdir { config } w =
      ((.ok (), started config { request := .normalize url revision subdir, resetOk } key session),
        w₂.note .info .run message) := by
  refine start_of_prepare_ok ?_
  rw [prepare_of_reset _ hacquire hreset]
  simp [launchTool, claimed, started, hlaunch]

/-- A start succeeds if the report directory is free and nothing is there, the command can be shown
and is taken, and the child can be started, and its timer. It has one session, with that child. -/
theorem exists_start (hresolve : w.files.resolve config.reportDir.text = .ok key)
    (hwait : Gate.isTooLong config.server.busyWait = false) (hfree : w.gate.isHeld key = false)
    (habsent : w.files.hasEntry? config.reportDir.text = .ok false)
    (hshown : (Value.list (commandOf config (.normalize url revision subdir))).nested?.isSome = true)
    (hfit : Session.fault? (w.specs.headD {}) (commandOf config (.normalize url revision subdir))
      config.tool.workingDir = none)
    (hchild : (w.specs.headD {}).launchError = none)
    (hthread : Session.isUntimed (w.specs.headD {}) (some config.tool.timeout) = false) :
    ∃ run w', start url revision subdir { config } w = ((.ok (), run), w') ∧
      ∃ session, run.sessions = [session] ∧ session.child.spec = w.specs.headD {} := by
  have hacquire := Gate.acquire_free hresolve hwait hfree
  obtain ⟨_, hreset⟩ := Report.reset_of_absent (w := { w with gate := w.gate.taken key }) habsent
  obtain ⟨session, w₂, hlaunch⟩ := Session.exists_launch
    (w := World.note { w with gate := w.gate.taken key } .debug .reset _)
    config.tool.chunkSize (some config.tool.timeout) hshown hfit hchild hthread
  obtain ⟨_, hstart⟩ := start_of_launch url revision subdir hacquire hreset hlaunch
  refine ⟨_, _, hstart, session, rfl, ?_⟩
  rw [(Session.launch_eq_ok hlaunch).1]
  rfl

/-- The request does not decide whether a start succeeds, as long as its command can be shown and is
taken. -/
theorem start_ok_of_start_ok (h : start url revision subdir { config } w = ((.ok (), run), w'))
    (url' revision' subdir' : Option Text)
    (hshown : (Value.list (commandOf config (.normalize url' revision' subdir'))).nested?.isSome = true)
    (hfit : Session.fault? (w.specs.headD {}) (commandOf config (.normalize url' revision' subdir'))
      config.tool.workingDir = none) :
    (start url' revision' subdir' { config } w).1.1 = .ok () := by
  obtain ⟨key, resetOk, session, w₁, w₂, rfl, hreset, _⟩ := start_eq_ok h
  have hacquire : Gate.acquire config.reportDir config.server.busyWait w =
      (.ok key, { w with gate := w.gate.taken key }) := by
    cases startCase_of_start h with
    | succeeded hresolve hwait hfree => exact Gate.acquire_free hresolve hwait hfree
  have hspecs := Report.specs_reset config.reportDir { w with gate := w.gate.taken key }
  rw [hreset] at hspecs
  have hspecs : (afterReset config resetOk w₁).specs = w.specs :=
    (specs_afterReset config resetOk w₁).trans hspecs
  obtain ⟨hchild, hthread⟩ := launchError_of_start h
  rw [← hspecs] at hfit hchild hthread
  obtain ⟨session, w₃, hlaunch⟩ := Session.exists_launch config.tool.chunkSize
    (some config.tool.timeout) hshown hfit hchild hthread
  obtain ⟨_, hstart⟩ := start_of_launch url' revision' subdir' hacquire hreset hlaunch
  rw [hstart]

end Run

end ScanLauncher
