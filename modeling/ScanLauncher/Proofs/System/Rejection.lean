import ScanLauncher.Proofs.Report.Listing
import ScanLauncher.Proofs.Run.Independence
import ScanLauncher.Proofs.System.Exclusion

namespace ScanLauncher

/-- The second world differs from the first in its log only. -/
def World.LogOnly (w w' : World) : Prop := w' = { w with log := w'.log }

theorem World.LogOnly.trans {w w' w'' : World} (hfirst : w.LogOnly w') (hsecond : w'.LogOnly w'') :
    w.LogOnly w'' := by
  rw [LogOnly, hsecond, hfirst]

/-- Two worlds that differ in their logs only, where a run has made one claim. -/
structure World.SameButLog (lock lock' : Option Path) (w w' : World) : Prop where
  lock_eq : lock' = lock
  held : ∀ key, lock = some key → w.gate.isHeld key = true
  log_only : w.LogOnly w'

namespace World.SameButLog

variable {lock lock' : Option Path}

/-- A child makes the same changes, whatever is in the log. -/
theorem agree_change (made : List Change) :
    Act.Agree (SameButLog lock lock') (Session.change made) (Session.change made) := by
  intro w w' h
  rw [h.log_only]
  simp only [Session.change, Act.bind_apply, Act.get_apply, Act.modify_apply]
  cases (w.files.applyAll made).2 with
  | none => exact ⟨rfl, h.lock_eq, h.held, rfl⟩
  | some fault => cases fault <;> exact ⟨rfl, h.lock_eq, h.held, rfl⟩

/-- The same reports are listed, whatever is in the log. -/
theorem agree_list (path : Path) :
    Act.Agree (SameButLog lock lock') (Report.list path) (Report.list path) := by
  intro w w' h
  have hscan : (Report.scan path w').1 = (Report.scan path w).1 := by
    rw [h.log_only]
    simp only [Report.scan, Act.bind_apply, Act.get_apply]
    cases w.faults.list with
    | none => cases w.files.list path.text <;> rfl
    | some effect => cases effect <;> rfl
  have hlogs (v : World) : v.LogOnly (Report.list path v).2 :=
    Report.keeps_list path (fun _ _ _ _ hv => LogOnly.trans hv rfl) v rfl
  refine ⟨by rw [Report.list_eq, Report.list_eq, hscan], h.lock_eq, ?_, ?_⟩
  · rw [hlogs w]
    exact h.held
  · rw [LogOnly, hlogs w', hlogs w, h.log_only]

end World.SameButLog

/-- The comparison of worlds that differ in their logs only. -/
def Comparison.ofLogs (path : Path) : Comparison where
  worlds := World.SameButLog
  allowed _ := True
  path
  listed _ := True

private theorem Comparison.isSteady_ofLogs (path : Path) : (ofLogs path).IsSteady where
  bears _ _ :=
    { note := fun h level origin message =>
        ⟨h.lock_eq, h.held, by rw [World.LogOnly, h.log_only]; rfl⟩
      trace := fun h event => ⟨h.lock_eq, h.held, by rw [World.LogOnly, h.log_only]⟩
      change := fun {made} _ => World.SameButLog.agree_change made }
  held h := ⟨h.held, by rw [h.lock_eq, h.log_only]; exact h.held⟩
  release h := ⟨rfl, nofun, by rw [World.LogOnly, h.log_only, h.lock_eq]⟩
  list _ _ := World.SameButLog.agree_list path
  listed _ _ _ := trivial

namespace Run

/-- A run is one run in worlds that differ in their logs only. -/
theorem alike_ofLogs {run : Run} {w w' : World}
    (hheld : ∀ key, run.lock = some key → w.gate.isHeld key = true) (hworld : w.LogOnly w') :
    run.Alike (.ofLogs run.config.reportDir) w run w' :=
  ⟨rfl, rfl, fun _ _ _ _ => trivial, fun _ _ _ _ => trivial, rfl, hheld, hworld⟩

theorem Alike.eq_of_ofLogs {path : Path} {run run' : Run} {w w' : World}
    (h : run.Alike (.ofLogs path) w run' w') : run' = run := by
  rw [h.run_eq, h.world.lock_eq]

private theorem logOnly_of_busy {config : Config} {url revision subdir : Option Text} {w w' : World}
    {run : Run} (h : start url revision subdir { config } w = ((.error .busy, run), w')) :
    w.LogOnly w' := by
  obtain ⟨key, hresolve, hheld⟩ := (startCase_of_start h).isHeld_of_busy rfl
  cases hwait : Gate.isTooLong config.server.busyWait with
  | true =>
    rw [start_unclaimed url revision subdir (Gate.acquire_tooLong hresolve hwait)] at h
    cases h
  | false =>
    -- The path is in the registry already, since its lock is held.
    have hknown : w.gate.register key = w.gate := if_pos (Gate.registered_of_isHeld hheld)
    have hacquire : Gate.acquire config.reportDir config.server.busyWait w = (.error .busy,
        w.note .warning .run ("Rejected scan: " ++ config.reportDir.text ++ " is in use")) := by
      simp [Gate.acquire, Gate.lockFor_ok hresolve, hknown, Gate.take, hwait, hheld, Except.map]
    rw [start_unclaimed url revision subdir hacquire] at h
    cases h
    rfl

end Run

/-- The operation is on one of the first runs or on a body, or it comes from others. -/
def Operation.IsAmong (count : Nat) : Operation → Prop
  | .start .. => False
  | .openBody run | .close run | .expire run => run < count
  | .advance _ | .closeBody _ | .disturb .. => True

namespace System

/-- A system beside one that has the same runs, and more of them behind these that nothing is done
with. The worlds differ in their logs only. -/
structure Beside (s s' : System) : Prop where
  runs_eq : s'.runs.take s.runs.length = s.runs
  bodies_eq : s'.bodies = s.bodies
  log_only : s.world.LogOnly s'.world

namespace Beside

variable {s s' : System}

theorem refl (s : System) : Beside s s := ⟨List.take_length, rfl, rfl⟩

theorem length_le (h : Beside s s') : s.runs.length ≤ s'.runs.length := by
  have hlength := congrArg List.length h.runs_eq
  rw [List.length_take] at hlength
  omega

theorem getElem?_runs (h : Beside s s') {i : Nat} (hi : i < s.runs.length) :
    s'.runs[i]? = s.runs[i]? := by
  rw [← List.getElem?_take_of_lt hi, h.runs_eq]

theorem onRun (h : Beside s s') (hsound : s.Sound) {i : Nat} (hi : i < s.runs.length) {α : Type}
    {act : ActOn Run α} (hact : ∀ path, ActOn.Agree (Run.Alike (.ofLogs path)) act act) :
    (s'.onRun i act).1 = (s.onRun i act).1 ∧ Beside (s.onRun i act).2 (s'.onRun i act).2 := by
  have hrun : s.runs[i]? = some s.runs[i] := List.getElem?_eq_getElem hi
  have hrun' := (h.getElem?_runs hi).trans hrun
  obtain ⟨hresult, hafter⟩ := hact _ _ s.world _ s'.world
    (Run.alike_ofLogs (hsound.isHeld_lock hrun) h.log_only)
  rw [onRun_apply hrun, onRun_apply hrun']
  refine ⟨hresult.symm, ?_, h.bodies_eq, hafter.world.log_only⟩
  simp only [List.length_set, List.take_set, h.runs_eq, hafter.eq_of_ofLogs]

theorem onBody (h : Beside s s') (hsound : s.Sound) (b : Nat) {α : Type} {act : ActOn Body α}
    (hact : ∀ path, ActOn.Agree (Body.Alike (.ofLogs path)) act act) :
    (s'.onBody b act).1 = (s.onBody b act).1 ∧ Beside (s.onBody b act).2 (s'.onBody b act).2 := by
  cases hbody : s.bodies[b]? with
  | none =>
    simp only [System.onBody, h.bodies_eq, hbody]
    exact ⟨trivial, h⟩
  | some body =>
    obtain ⟨i, stage⟩ := body
    obtain ⟨run, hrun, _⟩ := hsound.body hbody
    have hbody' : s'.bodies[b]? = some (i, stage) := by rw [h.bodies_eq, hbody]
    have hrun' := (h.getElem?_runs (List.getElem?_eq_some_iff.mp hrun).1).trans hrun
    obtain ⟨hresult, hafter⟩ := hact _ ⟨run, stage⟩ s.world ⟨run, stage⟩ s'.world
      ⟨rfl, Run.alike_ofLogs (hsound.isHeld_lock hrun) h.log_only⟩
    rw [onBody_apply hbody hrun, onBody_apply hbody' hrun']
    refine ⟨hresult.symm, ?_, ?_, hafter.run.world.log_only⟩
    · simp only [List.length_set, List.take_set, h.runs_eq, hafter.run.eq_of_ofLogs]
    · simp only [h.bodies_eq, hafter.stage_eq]

/-- What is done with the runs that both have comes to the same. -/
theorem perform (h : Beside s s') (hsound : s.Sound) {operation : Operation}
    (hamong : operation.IsAmong s.runs.length) :
    (s'.perform operation).1 = (s.perform operation).1 ∧
      Beside (s.perform operation).2 (s'.perform operation).2 := by
  have hnoItem {outcome outcome' : Except Failure Unit × System}
      (houtcome : outcome'.1 = outcome.1 ∧ Beside outcome.2 outcome'.2) :
      (noItem outcome').1 = (noItem outcome).1 ∧ Beside (noItem outcome).2 (noItem outcome').2 :=
    ⟨congrArg (Except.map fun _ => none) houtcome.1, houtcome.2⟩
  have hsteady := Comparison.isSteady_ofLogs
  cases operation with
  | start => cases hamong
  | openBody run =>
    have hrun : run < s.runs.length := hamong
    refine ⟨rfl, ?_⟩
    simp only [System.perform, hrun, Nat.lt_of_lt_of_le hrun h.length_le, if_true]
    exact ⟨h.runs_eq, by rw [h.bodies_eq], h.log_only⟩
  | advance body => exact h.onBody hsound body fun path => Body.agree_next (hsteady path)
  | closeBody body =>
    exact hnoItem (h.onBody hsound body fun path => Body.agree_close (hsteady path))
  | close run => exact hnoItem (h.onRun hsound hamong fun path => Run.agree_close (hsteady path))
  | expire run => exact hnoItem (h.onRun hsound hamong fun path => Run.agree_expire (hsteady path))
  | disturb files faults =>
    refine ⟨rfl, h.runs_eq, h.bodies_eq, ?_⟩
    rw [World.LogOnly, System.perform, h.log_only]
    rfl

private theorem perform_busy (h : Beside s s') {operation : Operation}
    (hbusy : (s'.perform operation).1 = .error .busy) {config : Config}
    (hstart : operation.config? = some config) : Beside s (s'.perform operation).2 := by
  cases operation with
  | start config url revision subdir =>
    rcases heq : Run.start url revision subdir { config } s'.world with ⟨⟨failure | _, run⟩, w'⟩
    · simp only [System.perform, startRun, noItem, heq] at hbusy ⊢
      obtain rfl : failure = .busy := Except.error.inj hbusy
      refine ⟨?_, h.bodies_eq, h.log_only.trans (Run.logOnly_of_busy heq)⟩
      rw [List.take_append_of_le_length h.length_le, h.runs_eq]
    · simp only [System.perform, startRun, noItem, heq] at hbusy
      cases hbusy
  | _ => cases hstart

end Beside

/-- No operation but a start adds a run. -/
theorem length_runs_perform {s : System} {operation : Operation} (hother : operation.config? = none) :
    (s.perform operation).2.runs.length = s.runs.length := by
  have honRun (i : Nat) {α : Type} (act : ActOn Run α) :
      (s.onRun i act).2.runs.length = s.runs.length := by
    obtain hsame | ⟨run, _, hafter⟩ := s.onRun_cases i act
    · rw [hsame]
    · simp [hafter]
  have honBody (b : Nat) {α : Type} (act : ActOn Body α) :
      (s.onBody b act).2.runs.length = s.runs.length := by
    obtain hsame | ⟨i, stage, run, _, _, hafter⟩ := s.onBody_cases b act
    · rw [hsame]
    · simp [hafter]
  cases operation with
  | start => cases hother
  | openBody run =>
    simp only [perform]
    split <;> rfl
  | advance body | closeBody body => exact honBody body _
  | close run | expire run => exact honRun run _
  | disturb => rfl

private theorem length_runs_after {s : System} {operations : List Operation}
    (hothers : ∀ operation ∈ operations, operation.config? = none) :
    (s.after operations).runs.length = s.runs.length := by
  induction operations generalizing s with
  | nil => rfl
  | cons operation rest ih =>
    have hrest := ih (s := (s.perform operation).2) fun other hother =>
      hothers other (.tail operation hother)
    exact hrest.trans (length_runs_perform (hothers operation (.head rest)))

/-- A start that comes next is turned away. -/
def RejectsStart (s : System) (next : Option Operation) : Prop :=
  ∀ operation config, next = some operation → operation.config? = some config →
    (s.perform operation).1 = .error .busy

/-- The operations that are no starts. -/
def withoutStarts (operations : List Operation) : List Operation :=
  operations.filter (·.config?.isNone)

/-- What those operations come to that are no starts, among all of them. -/
def resultsWithoutStarts (s : System) (operations : List Operation) :
    List (Except Failure (Option (List UInt8))) :=
  ((operations.zip (s.results operations)).filter (·.1.config?.isNone)).map Prod.snd

theorem Beside.after {s s' : System} {operations : List Operation} (h : Beside s s')
    (hsound : s.Sound) (hrejects : Throughout RejectsStart s' operations)
    (hamong : ∀ operation ∈ withoutStarts operations, operation.IsAmong s.runs.length) :
    s'.resultsWithoutStarts operations = s.results (withoutStarts operations) ∧
      Beside (s.after (withoutStarts operations)) (s'.after operations) := by
  induction operations generalizing s s' with
  | nil => exact ⟨rfl, h⟩
  | cons operation rest ih =>
    obtain ⟨hreject, hrest⟩ := hrejects
    cases hconfig : operation.config? with
    | some config =>
      have hown : withoutStarts (operation :: rest) = withoutStarts rest := by
        simp [withoutStarts, hconfig]
      have hbeside := h.perform_busy (hreject operation config rfl hconfig) hconfig
      rw [hown] at hamong ⊢
      obtain ⟨hresults, hend⟩ := ih hbeside hsound hrest hamong
      exact ⟨by simpa [resultsWithoutStarts, results, hconfig] using hresults, hend⟩
    | none =>
      have hown : withoutStarts (operation :: rest) = operation :: withoutStarts rest := by
        simp [withoutStarts, hconfig]
      rw [hown] at hamong ⊢
      obtain ⟨hresult, hbeside⟩ := h.perform hsound (hamong operation (.head _))
      obtain ⟨hresults, hend⟩ := ih hbeside (sound_perform hsound operation) hrest
        fun other hother => by
          rw [length_runs_perform hconfig]
          exact hamong other (.tail operation hother)
      refine ⟨?_, hend⟩
      rw [results, ← hresult, ← hresults]
      simp [resultsWithoutStarts, results, hconfig]

/-- Requests that are turned away do not interfere. Wherever starts come in between and are refused
because a lock is held, what is done with the runs that were there hands out the same as without these
starts; the runs and their bodies come to the same, and so does the world with its files, locks,
launches and signals. Only the log tells of the starts. -/
theorem rejected_starts_do_not_interfere (w : World) (before : List Operation)
    {operations : List Operation}
    (hrejects : Throughout RejectsStart ((initial w).after before) operations)
    (hamong : ∀ operation ∈ withoutStarts operations,
      operation.IsAmong ((initial w).after before).runs.length) :
    let s := (initial w).after before
    s.resultsWithoutStarts operations = s.results (withoutStarts operations) ∧
      (s.after operations).runs.take s.runs.length = (s.after (withoutStarts operations)).runs ∧
      (s.after operations).bodies = (s.after (withoutStarts operations)).bodies ∧
      (s.after (withoutStarts operations)).world.LogOnly (s.after operations).world := by
  intro s
  have hsound : s.Sound := sound_after (sound_initial w) before
  obtain ⟨hresults, hbeside⟩ := (Beside.refl s).after hsound hrejects hamong
  have hlength : (s.after (withoutStarts operations)).runs.length = s.runs.length :=
    length_runs_after fun operation hoperation => by
      simpa using (List.mem_filter.mp hoperation).2
  exact ⟨hresults, hlength ▸ hbeside.runs_eq, hbeside.bodies_eq, hbeside.log_only⟩

private theorem rejectsStart_of_results {s : System} {operations : List Operation}
    (h : ∀ e ∈ operations.zip (s.results operations), e.1.config?.isSome = true →
      e.2 = .error .busy) : Throughout RejectsStart s operations := by
  induction operations generalizing s with
  | nil => exact fun _ _ hnext => nomatch hnext
  | cons operation rest ih =>
    refine ⟨?_, ih fun e he => h e (.tail _ he)⟩
    rintro _ config ⟨⟩ hconfig
    exact h _ (.head _) (by rw [hconfig]; rfl)

/-- A run with some output, in a report directory that is there. -/
def busySystem : System :=
  (initial { plainWorld with specs := [{ output := [.data [0x61]] }] }).after
    [.start fixedConfig none none none]

/-- The run is read, while others ask for the same report directory. -/
def disturbedReading : List Operation :=
  [.openBody 0, .start fixedConfig none none none, .advance 0, .advance 0,
    .start fixedConfig (some "u") (some "v") none]

private theorem results_disturbedReading :
    (busySystem.runs.length, busySystem.results disturbedReading) =
      (1, [.ok none, .error .busy, .ok (some Body.openMark), .ok (some [0x61]), .error .busy]) := by
  cbv

/-- The run is as it is without the others. -/
theorem rejected_starts_do_not_interfere_busySystem :
    busySystem.runs.length = 1 ∧
      busySystem.resultsWithoutStarts disturbedReading =
        busySystem.results [.openBody 0, .advance 0, .advance 0] := by
  obtain ⟨hlength, hresults⟩ := Prod.mk.inj results_disturbedReading
  have hrejects : Throughout RejectsStart busySystem disturbedReading := by
    refine rejectsStart_of_results ?_
    rw [hresults]
    simp [disturbedReading, Operation.config?]
  have hamong (operation : Operation) (hoperation : operation ∈ withoutStarts disturbedReading) :
      operation.IsAmong busySystem.runs.length := by
    rw [hlength]
    revert operation
    simp [withoutStarts, disturbedReading, Operation.config?, Operation.IsAmong]
  exact ⟨hlength, (rejected_starts_do_not_interfere _ _ hrejects hamong).1⟩

end System

end ScanLauncher
