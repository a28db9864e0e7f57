import ScanLauncher.Proofs.Run.BodyEnd
import ScanLauncher.Proofs.Run.Starting

namespace ScanLauncher

/-- Runs over one registry, and the bodies that are being read, each with the place of its run. A run
whose start failed stays in the list. -/
structure System where
  world : World
  runs : List Run := []
  bodies : List (Nat × BodyStage) := []

/-- What can happen to a system. -/
inductive Operation where
  | start (config : Config) (url revision subdir : Option Text)
  | openBody (run : Nat)
  | advance (body : Nat)
  | closeBody (body : Nat)
  | close (run : Nat)
  /-- The timer of a run fires. -/
  | expire (run : Nat)
  /-- Others change the files, and the faults that the file system shows. -/
  | disturb (files : FileSystem) (faults : Faults)

/-- The configuration of a start. -/
def Operation.config? : Operation → Option Config
  | start config .. => some config
  | _ => none

namespace System

/-- A system without runs, where no lock has been entered. -/
def initial (w : World) : System := { world := { w with gate := {} } }

/-- Reports at a fixed place. -/
def fixedConfig : Config := { reports := { outputRoot := "/out", directoryName := "r" } }

/-- Acts on one of the runs. -/
def onRun {α : Type} (s : System) (i : Nat) (act : ActOn Run α) : Except Failure α × System :=
  match s.runs[i]? with
  | none => (.error (.misuse .notStarted), s)
  | some run =>
    match act run s.world with
    | ((result, run), world) => (result, { s with world, runs := s.runs.set i run })

/-- Acts on one of the bodies, and on its run. -/
def onBody {α : Type} (s : System) (b : Nat) (act : ActOn Body α) : Except Failure α × System :=
  match s.bodies[b]? with
  | none => (.error (.misuse .notStarted), s)
  | some (i, stage) =>
    match s.runs[i]? with
    | none => (.error (.misuse .notStarted), s)
    | some run =>
      match act ⟨run, stage⟩ s.world with
      | ((result, body), world) =>
        (result, ⟨world, s.runs.set i body.run, s.bodies.set b (i, body.stage)⟩)

/-- Starts another run. -/
def startRun (s : System) (config : Config) (url revision subdir : Option Text) :
    Except Failure Unit × System :=
  match Run.start url revision subdir { config } s.world with
  | ((result, run), world) => (result, { s with world, runs := s.runs ++ [run] })

/-- An operation that hands out nothing. -/
def noItem (outcome : Except Failure Unit × System) :
    Except Failure (Option (List UInt8)) × System :=
  (outcome.1.map fun _ => none, outcome.2)

/-- What an operation comes to. Its result is the item that a body hands out, if it does. -/
def perform (s : System) : Operation → Except Failure (Option (List UInt8)) × System
  | .start config url revision subdir => noItem (s.startRun config url revision subdir)
  | .openBody run =>
    (.ok none, if run < s.runs.length then { s with bodies := s.bodies ++ [(run, .fresh)] } else s)
  | .advance body => s.onBody body Body.next
  | .closeBody body => noItem (s.onBody body Body.close)
  | .close run => noItem (s.onRun run Run.close)
  | .expire run => noItem (s.onRun run Run.expire)
  | .disturb files faults => (.ok none, { s with world := { s.world with files, faults } })

/-- The system after some operations. -/
def after (s : System) (operations : List Operation) : System :=
  operations.foldl (fun s operation => (s.perform operation).2) s

/-- What some operations come to, one after the other. -/
def results (s : System) : List Operation → List (Except Failure (Option (List UInt8)))
  | [] => []
  | operation :: rest => (s.perform operation).1 :: (s.perform operation).2.results rest

/-- The run at a place has claimed a lock. -/
def Owns (s : System) (i : Nat) (key : Path) : Prop := ∃ run, s.runs[i]? = some run ∧ run.lock = some key

/-- The accounts of a system are in order: those of its runs are, the locks that are held are the
claimed ones, and each is claimed once. -/
structure Sound (s : System) : Prop where
  runs : ∀ run ∈ s.runs, run.Sound
  held : ∀ key, s.world.gate.isHeld key = true ↔ ∃ i, s.Owns i key
  unique : ∀ i j key, s.Owns i key → s.Owns j key → i = j
  bodies : ∀ body ∈ s.bodies, ∃ run, s.runs[body.1]? = some run ∧ body.2.Fits run.sessions.length

/-- The second system comes from the first by work on runs that are there: its accounts are in order,
and no claim was made. -/
def Follows (s s' : System) : Prop := s'.Sound ∧ ∀ i key, s'.Owns i key → s.Owns i key

theorem sound_initial (w : World) : (initial w).Sound := by
  have hnone (i : Nat) (key : Path) : ¬ (initial w).Owns i key := by
    rintro ⟨run, hrun, _⟩
    simp [initial] at hrun
  refine ⟨by simp [initial], fun key => ?_, fun i _ key howns => absurd howns (hnone i key),
    by simp [initial]⟩
  have hfree : (initial w).world.gate.isHeld key = false := by simp [initial, Gate.isHeld]
  rw [hfree]
  constructor
  · intro hheld
    cases hheld
  · rintro ⟨i, howns⟩
    exact absurd howns (hnone i key)

theorem Sound.follows_self {s : System} (hsound : s.Sound) : s.Follows s := ⟨hsound, fun _ _ h => h⟩

section Replace

variable {s : System} {i : Nat} {run : Run}

/-- The claims after work on one run: those of the others stay, and its own stays or is given back. -/
theorem owns_set (hrun : s.runs[i]? = some run) (run' : Run) (w' : World)
    (bodies : List (Nat × BodyStage)) (j : Nat) (key : Path) :
    Owns ⟨w', s.runs.set i run', bodies⟩ j key ↔
      if j = i then run'.lock = some key else s.Owns j key := by
  have hi : i < s.runs.length := (List.getElem?_eq_some_iff.mp hrun).1
  by_cases hj : j = i
  · subst hj
    simp [Owns, hi]
  · simp [Owns, hj, List.getElem?_set_ne (Ne.symm hj)]

/-- Work on one run makes no claim. -/
theorem Owns.of_set (hrun : s.runs[i]? = some run) {run' : Run} {w' : World}
    (hafter : run.Accounted s.world.gate run' w') {bodies : List (Nat × BodyStage)} {j : Nat}
    {key : Path} (hj : Owns ⟨w', s.runs.set i run', bodies⟩ j key) : s.Owns j key := by
  rw [owns_set hrun] at hj
  by_cases hne : j = i
  · subst hne
    rcases hafter.ledger with ⟨hlock, _⟩ | ⟨hlock, _⟩
    · exact ⟨run, hrun, by simpa [hlock] using hj⟩
    · simp [hlock] at hj
  · simpa [hne] using hj

/-- Work on one run keeps the accounts of the system in order. -/
theorem Sound.follows_set (hsound : s.Sound) (hrun : s.runs[i]? = some run) {run' : Run} {w' : World}
    (hafter : run.Accounted s.world.gate run' w') {bodies : List (Nat × BodyStage)}
    (hbodies : ∀ body ∈ bodies, body ∈ s.bodies ∨ body.1 = i ∧ body.2.Fits run.sessions.length) :
    s.Follows ⟨w', s.runs.set i run', bodies⟩ := by
  have hi : i < s.runs.length := (List.getElem?_eq_some_iff.mp hrun).1
  have hown (key : Path) : run.lock = some key ↔ s.Owns i key := by simp [Owns, hrun]
  have howns' := owns_set hrun run' w' bodies
  refine ⟨⟨fun other hother => ?_, fun key => ?_, fun j k key hj hk => ?_, fun body hbody => ?_⟩,
    fun j key hj => .of_set hrun hafter hj⟩
  · rcases List.mem_or_eq_of_mem_set hother with hold | rfl
    · exact hsound.runs other hold
    · exact hafter.sound
  -- The run has kept its claim and the gate is as before, or both have lost the same lock.
  · rcases hafter.ledger with ⟨hlock, hgate⟩ | ⟨hlock, hgate⟩
    · simp only [hgate, howns', hlock, hown, hsound.held key]
      refine exists_congr fun j => ?_
      split <;> simp_all
    · have hheld (key : Path) (hkey : run.lock = some key) : s.world.gate.isHeld key = true :=
        (hsound.held key).mpr ⟨i, (hown key).mp hkey⟩
      simp only [hgate, howns', hlock, Gate.isHeld_released hheld, ne_eq, hown, hsound.held key]
      constructor
      · rintro ⟨⟨j, hj⟩, hnot⟩
        have hne : j ≠ i := by
          rintro rfl
          exact hnot hj
        exact ⟨j, by simpa [hne] using hj⟩
      · rintro ⟨j, hj⟩
        by_cases hne : j = i
        · simp [hne] at hj
        · rw [if_neg hne] at hj
          exact ⟨⟨j, hj⟩, fun hi => hne (hsound.unique j i key hj hi)⟩
  · exact hsound.unique j k key (.of_set hrun hafter hj) (.of_set hrun hafter hk)
  · rcases hbodies body hbody with hold | ⟨rfl, hfits⟩
    · obtain ⟨other, hother, hfits⟩ := hsound.bodies body hold
      by_cases hsame : body.1 = i
      · rw [hsame, hrun, Option.some.injEq] at hother
        subst hother
        exact ⟨run', by simp [hsame, hi], by rw [hafter.count]; exact hfits⟩
      · exact ⟨other, by rw [List.getElem?_set_ne (Ne.symm hsame)]; exact hother, hfits⟩
    · exact ⟨run', by simp [hi], by rw [hafter.count]; exact hfits⟩

theorem onRun_apply (hrun : s.runs[i]? = some run) {α : Type} (act : ActOn Run α) :
    s.onRun i act = ((act run s.world).1.1,
      { s with world := (act run s.world).2, runs := s.runs.set i (act run s.world).1.2 }) := by
  simp only [onRun, hrun]
  rfl

theorem onBody_apply {b : Nat} {stage : BodyStage} (hbody : s.bodies[b]? = some (i, stage))
    (hrun : s.runs[i]? = some run) {α : Type} (act : ActOn Body α) :
    s.onBody b act = ((act ⟨run, stage⟩ s.world).1.1,
      ⟨(act ⟨run, stage⟩ s.world).2, s.runs.set i (act ⟨run, stage⟩ s.world).1.2.run,
        s.bodies.set b (i, (act ⟨run, stage⟩ s.world).1.2.stage)⟩) := by
  simp only [onBody, hbody, hrun]
  rfl

/-- Work on a run changes that run and the world, or nothing at all. -/
theorem onRun_cases (s : System) (i : Nat) {α : Type} (act : ActOn Run α) :
    (s.onRun i act).2 = s ∨
      ∃ run, s.runs[i]? = some run ∧ (s.onRun i act).2 =
        { s with world := (act run s.world).2, runs := s.runs.set i (act run s.world).1.2 } := by
  cases hrun : s.runs[i]? with
  | none => exact .inl (by simp only [onRun, hrun])
  | some run => exact .inr ⟨run, rfl, by rw [onRun_apply hrun]⟩

/-- Work on a body changes that body, its run and the world, or nothing at all. -/
theorem onBody_cases (s : System) (b : Nat) {α : Type} (act : ActOn Body α) :
    (s.onBody b act).2 = s ∨
      ∃ i stage run, s.bodies[b]? = some (i, stage) ∧ s.runs[i]? = some run ∧ (s.onBody b act).2 =
        ⟨(act ⟨run, stage⟩ s.world).2, s.runs.set i (act ⟨run, stage⟩ s.world).1.2.run,
          s.bodies.set b (i, (act ⟨run, stage⟩ s.world).1.2.stage)⟩ := by
  cases hbody : s.bodies[b]? with
  | none => exact .inl (by simp only [onBody, hbody])
  | some body =>
    obtain ⟨i, stage⟩ := body
    cases hrun : s.runs[i]? with
    | none => exact .inl (by simp only [onBody, hbody, hrun])
    | some run => exact .inr ⟨i, stage, run, rfl, hrun, by rw [onBody_apply hbody hrun]⟩

/-- Work on a run or on a body keeps what it keeps about the world. -/
theorem world_onRun (Q : World → Prop) (h : Q s.world) (i : Nat) {α : Type} {act : ActOn Run α}
    (hact : act.Keeps fun _ w => Q w) : Q (s.onRun i act).2.world := by
  obtain hsame | ⟨run, _, hafter⟩ := s.onRun_cases i act
  · rwa [hsame]
  · rw [hafter]
    exact hact run s.world h

theorem world_onBody (Q : World → Prop) (h : Q s.world) (b : Nat) {α : Type} {act : ActOn Body α}
    (hact : act.Keeps fun _ w => Q w) : Q (s.onBody b act).2.world := by
  obtain hsame | ⟨i, stage, run, _, _, hafter⟩ := s.onBody_cases b act
  · rwa [hsame]
  · rw [hafter]
    exact hact ⟨run, stage⟩ s.world h

/-- Every lock that a run of the system has claimed is held. -/
theorem Sound.isHeld_lock (hsound : s.Sound) (hrun : s.runs[i]? = some run) (key : Path)
    (hkey : run.lock = some key) : s.world.gate.isHeld key = true :=
  (hsound.held key).mpr ⟨i, run, hrun, hkey⟩

/-- The accounts of the run of a body, before anything is done with the body. -/
theorem Sound.body (hsound : s.Sound) {b : Nat} {stage : BodyStage}
    (hbody : s.bodies[b]? = some (i, stage)) :
    ∃ run, s.runs[i]? = some run ∧ Body.Accounted run s.world.gate ⟨run, stage⟩ s.world := by
  obtain ⟨run, hrun, hfits⟩ := hsound.bodies (i, stage) (List.mem_of_getElem? hbody)
  exact ⟨run, hrun, .refl (hsound.runs run (List.mem_of_getElem? hrun)) s.world, hfits⟩

theorem Sound.follows_onRun (hsound : s.Sound) (i : Nat) {α : Type} {act : ActOn Run α}
    (hact : ∀ (run : Run) (gate : Gate), (∀ key, run.lock = some key → gate.isHeld key = true) →
      act.Keeps (run.Accounted gate)) : s.Follows (s.onRun i act).2 := by
  obtain hsame | ⟨run, hrun, hafter⟩ := s.onRun_cases i act
  · rw [hsame]
    exact hsound.follows_self
  · rw [hafter]
    exact hsound.follows_set hrun (hact run s.world.gate (hsound.isHeld_lock hrun) run s.world
      (.refl (hsound.runs run (List.mem_of_getElem? hrun)) s.world)) fun body hbody => .inl hbody

theorem Sound.follows_onBody (hsound : s.Sound) (b : Nat) {α : Type} {act : ActOn Body α}
    (hact : ∀ (run : Run) (gate : Gate), (∀ key, run.lock = some key → gate.isHeld key = true) →
      act.Keeps (Body.Accounted run gate)) : s.Follows (s.onBody b act).2 := by
  obtain hsame | ⟨i, stage, run, hbody, hrun, hset⟩ := s.onBody_cases b act
  · rw [hsame]
    exact hsound.follows_self
  · obtain ⟨other, hother, hbefore⟩ := hsound.body hbody
    obtain rfl := Option.some.inj (hrun.symm.trans hother)
    obtain ⟨hafter, hfits⟩ :=
      hact run s.world.gate (hsound.isHeld_lock hrun) ⟨run, stage⟩ s.world hbefore
    rw [hset]
    refine hsound.follows_set hrun hafter fun body hbody => ?_
    rcases List.mem_or_eq_of_mem_set hbody with hold | rfl
    · exact .inl hold
    · exact .inr ⟨rfl, hfits⟩

end Replace

theorem owns_append (s : System) (run : Run) (w' : World) (j : Nat) (key : Path) :
    Owns ⟨w', s.runs ++ [run], s.bodies⟩ j key ↔
      s.Owns j key ∨ j = s.runs.length ∧ run.lock = some key := by
  rcases Nat.lt_trichotomy j s.runs.length with hj | rfl | hj
  · simp [Owns, List.getElem?_append_left hj, Nat.ne_of_lt hj]
  · simp [Owns]
  · have hnone : s.runs[j]? = none := List.getElem?_eq_none (Nat.le_of_lt hj)
    have hnone' : (s.runs ++ [run])[j]? = none := List.getElem?_eq_none (by simp; omega)
    simp [Owns, hnone, hnone', Nat.ne_of_gt hj]

/-- A start adds a run, whatever it comes to. -/
theorem perform_start (s : System) {operation : Operation} {config : Config}
    (hstart : operation.config? = some config) :
    ∃ request result run w',
      s.perform operation = (result.map fun _ => none, ⟨w', s.runs ++ [run], s.bodies⟩) ∧
      Run.StartCase config request s.world result run w' := by
  cases operation with
  | start config' url revision subdir =>
    obtain rfl := Option.some.inj hstart
    obtain ⟨result, run, w', heq, hcase⟩ := Run.start_cases config' url revision subdir s.world
    exact ⟨_, result, run, w', by simp only [perform, noItem, startRun, heq], hcase⟩
  | _ => cases hstart

theorem Sound.perform_start {s : System} (hsound : s.Sound) {operation : Operation}
    {config : Config} (hstart : operation.config? = some config) :
    (s.perform operation).2.Sound := by
  obtain ⟨request, result, run, w', hperform, hcase⟩ := s.perform_start hstart
  obtain ⟨hrun, hfree, hheld⟩ := hcase.accounts
  rw [hperform]
  have howns := owns_append s run w'
  -- A lock that the new run has claimed is none of the others'.
  have hnew (i : Nat) (key : Path) (hi : s.Owns i key) : run.lock ≠ some key := by
    intro hkey
    have hheld := (hsound.held key).mpr ⟨i, hi⟩
    rw [hfree key hkey] at hheld
    cases hheld
  refine ⟨fun other hother => ?_, fun key => ?_, fun i j key hi hj => ?_, fun body hbody => ?_⟩
  · rcases List.mem_append.mp hother with hold | hlast
    · exact hsound.runs other hold
    · exact List.mem_singleton.mp hlast ▸ hrun
  · simp only [hheld, hsound.held, howns, exists_or, exists_eq_left]
  · rw [howns] at hi hj
    rcases hi with hi | ⟨rfl, hi⟩ <;> rcases hj with hj | ⟨rfl, hj⟩
    · exact hsound.unique i j key hi hj
    · exact absurd hj (hnew i key hi)
    · exact absurd hi (hnew j key hj)
    · rfl
  · obtain ⟨other, hother, hfits⟩ := hsound.bodies body hbody
    have hplace := (List.getElem?_eq_some_iff.mp hother).1
    exact ⟨other, by rw [List.getElem?_append_left hplace]; exact hother, hfits⟩

/-- Only a start makes a claim. -/
theorem Sound.follows_perform {s : System} (hsound : s.Sound) {operation : Operation}
    (hother : operation.config? = none) : s.Follows (s.perform operation).2 := by
  cases operation with
  | start config url revision subdir => cases hother
  | openBody run =>
    simp only [perform]
    split
    · rename_i hrun
      refine ⟨⟨hsound.runs, hsound.held, hsound.unique, fun body hbody => ?_⟩, fun _ _ h => h⟩
      rcases List.mem_append.mp hbody with hold | hlast
      · exact hsound.bodies body hold
      · obtain rfl := List.mem_singleton.mp hlast
        exact ⟨_, List.getElem?_eq_getElem hrun, trivial⟩
    · exact hsound.follows_self
  | advance body => exact hsound.follows_onBody body fun _ _ hheld => Body.keeps_next hheld
  | closeBody body => exact hsound.follows_onBody body fun _ _ hheld => Body.keeps_close hheld
  | close run => exact hsound.follows_onRun run fun _ _ hheld => Run.keeps_close hheld
  | expire run => exact hsound.follows_onRun run fun _ _ _ => Run.keeps_expire
  | disturb files faults =>
    exact ⟨⟨hsound.runs, hsound.held, hsound.unique, hsound.bodies⟩, fun _ _ h => h⟩

/-- Every operation keeps the accounts in order, whether it succeeds or fails. -/
theorem sound_perform {s : System} (hsound : s.Sound) (operation : Operation) :
    (s.perform operation).2.Sound := by
  cases hconfig : operation.config? with
  | none => exact (hsound.follows_perform hconfig).1
  | some config => exact hsound.perform_start hconfig

theorem sound_after {s : System} (hsound : s.Sound) (operations : List Operation) :
    (s.after operations).Sound := by
  induction operations generalizing s with
  | nil => exact hsound
  | cons operation rest ih => exact ih (sound_perform hsound operation)

end System

end ScanLauncher
