import Mathlib.Logic.Function.Basic
import ScanLauncher.Proofs.Run.BodyStep
import ScanLauncher.Proofs.System.Ownership

namespace ScanLauncher

namespace System

/-- The stage of a body, if it is one of a run's. -/
def stage? (s : System) (i b : Nat) : Option BodyStage :=
  s.bodies[b]?.bind fun body => if body.1 = i then some body.2 else none

theorem stage?_eq_some {s : System} {i b : Nat} {stage : BodyStage} :
    s.stage? i b = some stage ↔ s.bodies[b]? = some (i, stage) := by
  cases hbody : s.bodies[b]? with
  | none => simp [stage?, hbody]
  | some body =>
    obtain ⟨j, other⟩ := body
    by_cases hsame : j = i
    · simp [stage?, hbody, hsame]
    · simp [stage?, hbody, hsame]

/-- What an operation can do to one run and to the stages of its bodies. -/
inductive RunStep (s : System) (i : Nat) (run : Run) :
    Operation → Except Failure (Option (List UInt8)) → Run → (Nat → Option BodyStage) → Prop
  | elsewhere {operation : Operation} {result : Except Failure (Option (List UInt8))}
      (helsewhere : operation.subject? s ≠ some i) :
      RunStep s i run operation result run (s.stage? i)
  | opened : RunStep s i run (.openBody i) (.ok none) run
      (Function.update (s.stage? i) s.bodies.length (some .fresh))
  | advanced {b : Nat} {stage : BodyStage} {result : Except Failure (Option (List UInt8))}
      {body : Body} (hstage : s.stage? i b = some stage)
      (hstep : Body.Step s.world ⟨run, stage⟩ result body) :
      RunStep s i run (.advance b) result body.run (Function.update (s.stage? i) b (some body.stage))
  | givenUp {b : Nat} {stage : BodyStage} {result : Except Failure Unit} {body : Body}
      (hstage : s.stage? i b = some stage) (hgiven : Body.GivenUp ⟨run, stage⟩ result body) :
      RunStep s i run (.closeBody b) (result.map fun _ => none) body.run
        (Function.update (s.stage? i) b (some body.stage))
  | closed : RunStep s i run (.close i) (run.closing.map fun _ => none) run.closed (s.stage? i)
  | expired {session after : Session} {result : Except Failure Unit} {w' : World}
      (hsession : run.sessions = [session])
      (hexpire : session.expire s.world = ((result, after), w')) :
      RunStep s i run (.expire i) (result.map fun _ => none) (run.atOutput after) (s.stage? i)

theorem stage?_of_bodies {s s' : System} (hbodies : s'.bodies = s.bodies) (i : Nat) :
    s'.stage? i = s.stage? i := by
  funext b
  rw [stage?, hbodies, stage?]

theorem bodies_onRun (s : System) (i : Nat) {α : Type} (act : ActOn Run α) :
    (s.onRun i act).2.bodies = s.bodies := by
  obtain hsame | ⟨run, _, hafter⟩ := s.onRun_cases i act
  · rw [hsame]
  · rw [hafter]

theorem stage?_onBody_of_ne (s : System) {i b : Nat} (hne : s.bodies[b]?.map Prod.fst ≠ some i)
    {α : Type} (act : ActOn Body α) : (s.onBody b act).2.stage? i = s.stage? i := by
  obtain hsame | ⟨j, stage, run, hbody, _, hafter⟩ := s.onBody_cases b act
  · rw [hsame]
  · have hj : j ≠ i := by simpa [hbody] using hne
    rw [hafter]
    funext b'
    by_cases hsame : b' = b
    · have hplace := (List.getElem?_eq_some_iff.mp hbody).1
      subst hsame
      rw [stage?, stage?, hbody]
      simp [hplace, hj]
    · simp [stage?, List.getElem?_set_ne (Ne.symm hsame)]

theorem stage?_openBody (s : System) {i : Nat} (j : Nat) (hj : j < s.runs.length) :
    (s.perform (.openBody j)).2.stage? i =
      if j = i then Function.update (s.stage? i) s.bodies.length (some .fresh) else s.stage? i := by
  have hopen : (s.perform (.openBody j)).2.bodies = s.bodies ++ [(j, .fresh)] := by
    simp [perform, hj]
  funext b
  rw [stage?, hopen]
  rcases Nat.lt_trichotomy b s.bodies.length with hb | rfl | hb
  · rw [List.getElem?_append_left hb]
    split
    · rw [Function.update_of_ne (Nat.ne_of_lt hb)]
      rfl
    · rfl
  · split
    · rename_i hsame
      simp [hsame]
    · rename_i hsame
      simp [stage?, hsame]
  · have hnone : (s.bodies ++ [(j, BodyStage.fresh)])[b]? = none := by
      simp
      omega
    have hnone' : s.bodies[b]? = none := List.getElem?_eq_none (Nat.le_of_lt hb)
    rw [hnone]
    split
    · simp [Nat.ne_of_gt hb, stage?, hnone']
    · simp [stage?, hnone']

theorem stage?_perform_of_ne {s : System} {operation : Operation} {i : Nat}
    (hne : operation.subject? s ≠ some i) : (s.perform operation).2.stage? i = s.stage? i := by
  cases operation with
  | start config url revision subdir =>
    obtain ⟨_, _, run, w', hperform, _⟩ :=
      s.perform_start (show (Operation.start config url revision subdir).config? = some config from rfl)
    rw [hperform]
    exact stage?_of_bodies rfl i
  | openBody j =>
    have hj : j ≠ i := fun h => hne (congrArg some h)
    by_cases hplace : j < s.runs.length
    · rw [stage?_openBody s j hplace, if_neg hj]
    · simp [perform, hplace]
  | advance b => exact stage?_onBody_of_ne s hne _
  | closeBody b => exact stage?_onBody_of_ne s hne _
  | close j => exact stage?_of_bodies (bodies_onRun s j _) i
  | expire j => exact stage?_of_bodies (bodies_onRun s j _) i
  | disturb files faults => rfl

theorem stage?_onBody {s : System} {i b : Nat} {stage : BodyStage} {run : Run}
    (hbody : s.bodies[b]? = some (i, stage)) (hrun : s.runs[i]? = some run) {α : Type}
    (act : ActOn Body α) :
    (s.onBody b act).2.stage? i =
      Function.update (s.stage? i) b (some (act ⟨run, stage⟩ s.world).1.2.stage) := by
  rw [onBody_apply hbody hrun]
  have hplace := (List.getElem?_eq_some_iff.mp hbody).1
  funext b'
  by_cases hsame : b' = b
  · subst hsame
    simp [stage?, hplace]
  · simp [stage?, hsame, List.getElem?_set_ne (Ne.symm hsame)]

/-- What acting on a body of a run comes to. -/
theorem onBody_runStep {s : System} {i b : Nat} {stage : BodyStage} {run : Run}
    (hbody : s.bodies[b]? = some (i, stage)) (hrun : s.runs[i]? = some run) {α : Type}
    (act : ActOn Body α) :
    (s.onBody b act).1 = (act ⟨run, stage⟩ s.world).1.1 ∧
      (s.onBody b act).2.runs[i]? = some (act ⟨run, stage⟩ s.world).1.2.run := by
  have hi : i < s.runs.length := (List.getElem?_eq_some_iff.mp hrun).1
  rw [onBody_apply hbody hrun]
  exact ⟨rfl, by simp [hi]⟩

/-- Asking a body for an item is one step of the body. -/
theorem Sound.step_advance {s : System} (hsound : s.Sound) {i b : Nat} {stage : BodyStage} {run : Run}
    (hbody : s.bodies[b]? = some (i, stage)) (hrun : s.runs[i]? = some run)
    (hstarted : run.IsStarted) :
    ∃ body, Body.Step s.world ⟨run, stage⟩ (s.perform (.advance b)).1 body ∧
      (s.perform (.advance b)).2.runs[i]? = some body.run ∧
      (s.perform (.advance b)).2.stage? i = Function.update (s.stage? i) b (some body.stage) := by
  obtain ⟨other, hother, haccounted⟩ := hsound.body hbody
  obtain rfl := Option.some.inj (hrun.symm.trans hother)
  obtain ⟨hresult, hafter⟩ := onBody_runStep hbody hrun Body.next
  have hstep := Body.step_next (hsound.isHeld_lock hrun) haccounted hstarted
  rw [← hresult] at hstep
  exact ⟨_, hstep, hafter, stage?_onBody hbody hrun Body.next⟩

/-- Whatever an operation is, for a run that was started it is one of the cases. -/
theorem runStep_perform {s : System} (hsound : s.Sound) {i : Nat} {run : Run}
    (hrun : s.runs[i]? = some run) (hstarted : run.IsStarted) (operation : Operation) :
    ∃ run', (s.perform operation).2.runs[i]? = some run' ∧
      RunStep s i run operation (s.perform operation).1 run' ((s.perform operation).2.stage? i) := by
  have hi : i < s.runs.length := (List.getElem?_eq_some_iff.mp hrun).1
  by_cases hsubject : operation.subject? s = some i
  · cases operation with
    | start config url revision subdir =>
      exact absurd (Option.some.inj hsubject) (Nat.ne_of_gt hi)
    | disturb files faults => cases hsubject
    | openBody j =>
      obtain rfl := Option.some.inj hsubject
      refine ⟨run, by simpa [perform, hi] using hrun, ?_⟩
      rw [stage?_openBody s j hi, if_pos rfl]
      exact .opened
    | close j =>
      obtain rfl := Option.some.inj hsubject
      obtain ⟨w', hclose, _⟩ := Run.close_apply (hsound.runs run (List.mem_of_getElem? hrun))
        (hsound.isHeld_lock hrun)
      have hperform : s.perform (.close j) =
          (run.closing.map fun _ => none, { s with world := w', runs := s.runs.set j run.closed }) := by
        simp [perform, noItem, onRun_apply hrun, hclose]
      rw [hperform]
      exact ⟨run.closed, by simp [hi], .closed⟩
    | expire j =>
      obtain rfl := Option.some.inj hsubject
      obtain ⟨session, hsession⟩ := List.length_eq_one_iff.mp hstarted.single
      rcases hexpire : session.expire s.world with ⟨⟨result, after⟩, w'⟩
      have hperform : s.perform (.expire j) = (result.map fun _ => none,
          { s with world := w', runs := s.runs.set j (run.atOutput after) }) := by
        simp [perform, noItem, onRun_apply hrun, Run.expire, Run.current, hsession, Run.onSession,
          hexpire, Run.atOutput]
      rw [hperform]
      exact ⟨run.atOutput after, by simp [hi], .expired hsession hexpire⟩
    | advance b =>
      obtain ⟨⟨j, stage⟩, hbody, rfl⟩ := Option.map_eq_some_iff.mp hsubject
      obtain ⟨body, hstep, hafter, hstages⟩ := hsound.step_advance hbody hrun hstarted
      rw [hstages]
      exact ⟨body.run, hafter, .advanced (stage?_eq_some.mpr hbody) hstep⟩
    | closeBody b =>
      obtain ⟨⟨j, stage⟩, hbody, rfl⟩ := Option.map_eq_some_iff.mp hsubject
      obtain ⟨other, hother, haccounted⟩ := hsound.body hbody
      obtain rfl := Option.some.inj (hrun.symm.trans hother)
      obtain ⟨hresult, hafter⟩ := onBody_runStep hbody hrun Body.close
      have hgiven := Body.givenUp_close (hsound.isHeld_lock hrun) haccounted hstarted
      refine ⟨_, hafter, ?_⟩
      have hperform : (s.perform (.closeBody b)).1 =
          (Body.close ⟨run, stage⟩ s.world).1.1.map fun _ => none := by
        simp [perform, noItem, hresult]
      have hstages := stage?_onBody hbody hrun Body.close
      rw [hperform]
      exact hstages ▸ .givenUp (stage?_eq_some.mpr hbody) hgiven
  · refine ⟨run, by rw [runs_perform_of_ne hsubject, hrun], ?_⟩
    rw [stage?_perform_of_ne hsubject]
    exact .elsewhere hsubject

end System

end ScanLauncher
