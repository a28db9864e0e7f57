import ScanLauncher.Proofs.Process.Stopping

namespace ScanLauncher

namespace Session

/-- The session of a child that was just started. Its timer is live if there is a limit. -/
def launched (child : Child) (command : List Value) (chunkSize : Int) (timeout : Option Seconds) :
    Session where
  child := child
  command := command
  chunkSize := chunkSize
  timeout := timeout.filter (!·.isZero)
  timer := if (timeout.filter (!·.isZero)).isSome then .live else .absent

/-- A session as it is when its child has just been started. -/
structure IsNew (session : Session) (chunkSize : Int) : Prop where
  chunkSize_eq : session.chunkSize = chunkSize
  reader : session.reader = .absent
  isDrained : session.isDrained = false
  exitStatus : session.exitStatus = none
  isTimedOut : session.isTimedOut = false
  child : ∃ pid spec, session.child = .start pid spec

private theorem isNew_launched (pid : Nat) (spec : ProcessSpec) (command : List Value) (chunkSize : Int)
    (timeout : Option Seconds) :
    (launched (.start pid spec) command chunkSize timeout).IsNew chunkSize :=
  ⟨rfl, rfl, rfl, rfl, rfl, pid, spec, rfl⟩

/-- The failure of a launch of a child that cannot be started. -/
def refusal (command : List Value) (effect : FaultEffect) : Failure :=
  match command with
  | [] => .noProgram
  | program :: _ =>
    .launch (Failure.launchMessage (program.plain?.getD "") (launchError program effect).reason)

/-- Whether a child that is started gets no timer, although it needs one. -/
def isUntimed (spec : ProcessSpec) (timeout : Option Seconds) : Bool :=
  (timeout.filter (!·.isZero)).isSome && spec.lacksThread

/-- What a launch can come to. -/
inductive LaunchCase (command : List Value) (workingDir : Text) (chunkSize : Int)
    (timeout : Option Seconds) (w : World) : Except Failure Session → World → Prop where
  /-- The command cannot be shown, and nothing is done. -/
  | unshown (hshown : (Value.list command).nested? = none) :
      LaunchCase command workingDir chunkSize timeout w (.error .longNumber) w
  /-- The command is not taken. -/
  | unfit {failure : Failure} {w' : World} (hshown : (Value.list command).nested?.isSome = true)
      (hfault : fault? (w.specs.headD {}) command workingDir = some failure)
      (hworld : w.RecordsOnly w') (htrace : w'.trace = w.trace) :
      LaunchCase command workingDir chunkSize timeout w (.error failure) w'
  | started {w' : World} (hshown : (Value.list command).nested?.isSome = true)
      (hfit : fault? (w.specs.headD {}) command workingDir = none)
      (hchild : (w.specs.headD {}).launchError = none)
      (hthread : isUntimed (w.specs.headD {}) timeout = false)
      (hworld : { w with specs := w.specs.tail, launches := w.launches + 1 }.RecordsOnly w')
      (htrace : w'.trace = w.trace ++ .spawn command workingDir ::
        (timeout.filter (!·.isZero)).toList.map .startTimer) :
      LaunchCase command workingDir chunkSize timeout w
        (.ok (launched (.start (1000 + (w.launches + 1)) (w.specs.headD {})) command chunkSize timeout))
        w'
  /-- The child is started, but not the timer that it needs. -/
  | untimed {w' : World} (hthread : isUntimed (w.specs.headD {}) timeout = true)
      (hworld : { w with
        specs := w.specs.tail
        launches := w.launches + 1
        strays := w.strays ++ [1000 + (w.launches + 1)] }.RecordsOnly w')
      (htrace : w'.trace = w.trace ++ [.spawn command workingDir]) :
      LaunchCase command workingDir chunkSize timeout w (.error (.misuse .noThread)) w'
  /-- The system does not start the child. -/
  | refused {effect : FaultEffect} {w' : World}
      (hshown : (Value.list command).nested?.isSome = true)
      (hfit : fault? (w.specs.headD {}) command workingDir = none)
      (hchild : (w.specs.headD {}).launchError = some effect)
      (hworld : { w with specs := w.specs.tail, launches := w.launches + 1 }.RecordsOnly w')
      (htrace : w'.trace = w.trace ++ [.spawn command workingDir]) :
      LaunchCase command workingDir chunkSize timeout w (.error (refusal command effect)) w'

/-- What is wrong with a command is no failure that the program raises by itself. -/
theorem isForeign_of_fault? {spec : ProcessSpec} {failure : Failure}
    {command : List Value} {workingDir : Text}
    (hfault : fault? spec command workingDir = some failure) : failure.IsForeign := by
  have hpart {value : Value} (h : partFault? value = some failure) : failure.IsForeign := by
    unfold partFault? at h
    split at h
    · split at h
      · cases h
      · exact Option.some.inj h ▸ Failure.isForeign_ofPathFault _ _
    · split at h
      · exact Option.some.inj h ▸ rfl
      · cases h
    · exact Option.some.inj h ▸ rfl
  unfold fault? commandFault? at hfault
  split at hfault
  · split at hfault
    · exact Option.some.inj hfault ▸ rfl
    · obtain ⟨_, _, h⟩ := List.exists_of_findSome?_eq_some hfault
      exact hpart h
  · cases hfault

section Launch

variable (command : List Value) (workingDir : Text) (chunkSize : Int) (timeout : Option Seconds)

theorem opening_apply (child : Child) (w : World) :
    opening child command chunkSize timeout w =
      if isUntimed child.spec timeout then
        (.error (.misuse .noThread), { w with strays := w.strays ++ [child.pid] })
      else
        (.ok (launched child command chunkSize timeout),
          { w with trace := w.trace ++ (timeout.filter (!·.isZero)).toList.map .startTimer }) := by
  unfold opening launched isUntimed
  cases timeout.filter (!·.isZero) with
  | none => simp
  | some limit => cases child.spec.lacksThread <;> rfl

private theorem launch_cases (w : World) :
    LaunchCase command workingDir chunkSize timeout w
      (launch command workingDir chunkSize timeout w).1
      (launch command workingDir chunkSize timeout w).2 := by
  unfold launch
  cases hshown : (Value.list command).nested? with
  | none => exact .unshown hshown
  | some shown =>
    have hsome : (Value.list command).nested?.isSome = true := by rw [hshown]; rfl
    simp only [Act.bind_apply, Act.log_apply, Act.get_apply, World.note]
    cases hfault : fault? (w.specs.headD {}) command workingDir with
    | some failure => exact .unfit hsome hfault (w.recordsOnly_note _ _ _) rfl
    | none =>
      simp only [Act.bind_apply, Act.modify_apply, Act.trace_apply]
      cases hchild : (w.specs.headD {}).launchError with
      | none =>
        simp only [opening_apply]
        split
        · rename_i huntimed
          exact .untimed huntimed rfl rfl
        · rename_i htimed
          exact .started hsome hfault hchild (eq_false_of_ne_true htimed) rfl (by simp)
      | some effect =>
        cases command with
        | nil => exact .refused hsome hfault hchild rfl rfl
        | cons program arguments => exact .refused hsome hfault hchild rfl rfl

variable {command workingDir chunkSize timeout}

theorem launchCase_of_launch {w w' : World} {result : Except Failure Session}
    (h : launch command workingDir chunkSize timeout w = (result, w')) :
    LaunchCase command workingDir chunkSize timeout w result w' := by
  have hcase := launch_cases command workingDir chunkSize timeout w
  rwa [h] at hcase

theorem files_launch (w : World) :
    (launch command workingDir chunkSize timeout w).2.files = w.files := by
  rcases hlaunch : launch command workingDir chunkSize timeout w with ⟨result, w'⟩
  cases launchCase_of_launch hlaunch with
  | unshown => rfl
  | unfit _ _ hworld | started _ _ _ _ hworld | untimed _ hworld | refused _ _ _ hworld => rw [hworld]

/-- A launch that succeeds opens the session of the next child there is. -/
theorem launch_eq_ok {w w' : World} {session : Session}
    (h : launch command workingDir chunkSize timeout w = (.ok session, w')) :
    session = launched (.start (1000 + (w.launches + 1)) (w.specs.headD {})) command chunkSize timeout ∧
      { w with specs := w.specs.tail, launches := w.launches + 1 }.RecordsOnly w' ∧
      w'.trace = w.trace ++ .spawn command workingDir ::
        (timeout.filter (!·.isZero)).toList.map .startTimer := by
  cases launchCase_of_launch h with
  | started _ _ _ _ hworld htrace => exact ⟨rfl, hworld, htrace⟩

/-- A launch that fails touches no lock, and no lock is to blame. It leaves a child behind only where
that gets no thread for its timer. -/
theorem launch_eq_error {w w' : World} {failure : Failure}
    (h : launch command workingDir chunkSize timeout w = (.error failure, w')) :
    w'.gate = w.gate ∧ failure ≠ .busy ∧
      (w'.strays = w.strays ∨
        failure = .misuse .noThread ∧ isUntimed (w.specs.headD {}) timeout = true) := by
  cases launchCase_of_launch h with
  | unshown => exact ⟨rfl, nofun, .inl rfl⟩
  | unfit _ hfault hworld =>
    exact ⟨hworld.gate_eq, (isForeign_of_fault? hfault).ne_busy, .inl (by rw [hworld])⟩
  | untimed hthread hworld => exact ⟨hworld.gate_eq, nofun, .inr ⟨rfl, hthread⟩⟩
  | refused _ _ _ hworld =>
    refine ⟨hworld.gate_eq, ?_, .inl (by rw [hworld])⟩
    cases command <;> exact nofun

/-- A child that can be started, and its timer with it, is started, if its command can be shown and is
taken. -/
theorem exists_launch (chunkSize : Int) (timeout : Option Seconds) {w : World}
    (hshown : (Value.list command).nested?.isSome = true)
    (hfit : fault? (w.specs.headD {}) command workingDir = none)
    (hchild : (w.specs.headD {}).launchError = none)
    (hthread : isUntimed (w.specs.headD {}) timeout = false) :
    ∃ session w', launch command workingDir chunkSize timeout w = (.ok session, w') := by
  rcases hlaunch : launch command workingDir chunkSize timeout w with ⟨result, w'⟩
  cases launchCase_of_launch hlaunch with
  | unshown hnone => simp [hnone] at hshown
  | unfit _ hfault =>
    rw [hfit] at hfault
    cases hfault
  | started => exact ⟨_, w', rfl⟩
  | untimed huntimed =>
    rw [hthread] at huntimed
    cases huntimed
  | refused _ _ herror =>
    rw [hchild] at herror
    cases herror

theorem isNew_of_launch {w w' : World} {session : Session}
    (h : launch command workingDir chunkSize timeout w = (.ok session, w')) :
    session.IsNew chunkSize := by
  obtain ⟨rfl, _⟩ := launch_eq_ok h
  exact isNew_launched _ _ _ _ _

/-- What a launch comes to depends on the child to come and on the number of launches. -/
theorem launch_congr {w w' : World} (hspecs : w'.specs = w.specs)
    (hlaunches : w'.launches = w.launches) :
    (launch command workingDir chunkSize timeout w').1 =
      (launch command workingDir chunkSize timeout w).1 := by
  unfold launch
  cases (Value.list command).nested? with
  | none => rfl
  | some shown =>
    simp only [Act.bind_apply, Act.log_apply, Act.get_apply, World.note, hspecs]
    cases fault? (w.specs.headD {}) command workingDir with
    | some failure => rfl
    | none =>
      simp only [Act.bind_apply, Act.modify_apply, Act.trace_apply, hlaunches]
      cases (w.specs.headD {}).launchError with
      | none =>
        simp only [opening_apply]
        split <;> rfl
      | some effect => cases command <;> rfl

end Launch

end Session

end ScanLauncher
