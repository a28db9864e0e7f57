import ScanLauncher.Proofs.System.Basic

namespace ScanLauncher

namespace System

/-- The run at a place was started and has not been closed since. -/
def IsOpen (s : System) (i : Nat) : Prop := ∃ run, s.runs[i]? = some run ∧ run.isOpen = true

/-- A start is turned away: the caller is told that a scan is in progress, no file was touched and no
child was launched. -/
structure Refuses (s : System) (operation : Operation) : Prop where
  busy : (s.perform operation).1 = .error .busy
  files : (s.perform operation).2.world.files = s.world.files
  launches : (s.perform operation).2.world.launches = s.world.launches

/-- At a moment of the system one run is open at most, and if one is, a start that comes next is
turned away. -/
def IsExclusive (s : System) (next : Option Operation) : Prop :=
  (∀ i j, s.IsOpen i → s.IsOpen j → i = j) ∧
    ∀ operation config i, next = some operation → operation.config? = some config → s.IsOpen i →
      s.Refuses operation

/-- At a moment of the system, a start that comes next finds the report directory under the path that
every open run claimed. -/
def IsFaithful (s : System) (next : Option Operation) : Prop :=
  ∀ operation config i key, next = some operation → operation.config? = some config → s.Owns i key →
    s.world.files.resolve config.reportDir.text = .ok key

/-- At every moment, of the state then and of the operation that comes next. -/
def Throughout (P : System → Option Operation → Prop) : System → List Operation → Prop
  | s, [] => P s none
  | s, operation :: rest => P s (some operation) ∧ Throughout P (s.perform operation).2 rest

/-- All starts are under one configuration. -/
def SharesConfig (config : Config) (operations : List Operation) : Prop :=
  ∀ operation ∈ operations, ∀ config', operation.config? = some config' → config' = config

/-- The states of a system in which one run is open at most; and a run under a configuration only gets
that far if locks can be waited for. -/
structure IsLone (config : Config) (s : System) : Prop where
  sound : s.Sound
  single : ∀ i j key key', s.Owns i key → s.Owns j key' → i = j
  patient : ∀ i key, s.Owns i key → Gate.isTooLong config.server.busyWait = false

private theorem isLone_initial (config : Config) (w : World) : IsLone config (initial w) where
  sound := sound_initial w
  single _ _ _ _ := by
    rintro ⟨run, hrun, _⟩
    simp [initial] at hrun
  patient _ _ := by
    rintro ⟨run, hrun, _⟩
    simp [initial] at hrun

theorem Sound.isOpen_iff {s : System} (hsound : s.Sound) (i : Nat) :
    s.IsOpen i ↔ ∃ key, s.Owns i key := by
  have howner (run : Run) (hrun : s.runs[i]? = some run) :=
    (hsound.runs run (List.mem_of_getElem? hrun)).owner
  constructor
  · rintro ⟨run, hrun, hopen⟩
    obtain ⟨key, hkey⟩ := Option.isSome_iff_exists.mp ((howner run hrun).trans hopen)
    exact ⟨key, run, hrun, hkey⟩
  · rintro ⟨key, run, hrun, hkey⟩
    exact ⟨run, hrun, by rw [← howner run hrun, hkey]; rfl⟩

theorem IsLone.isOpen_unique {config : Config} {s : System} (hlone : IsLone config s) (i j : Nat)
    (hi : s.IsOpen i) (hj : s.IsOpen j) : i = j := by
  obtain ⟨key, hi⟩ := (hlone.sound.isOpen_iff i).mp hi
  obtain ⟨key', hj⟩ := (hlone.sound.isOpen_iff j).mp hj
  exact hlone.single i j key key' hi hj

/-- While a run is open and the report directory has the path that the run claimed, a start is turned
away and makes no claim. -/
theorem IsLone.refuses {config : Config} {s : System} (hlone : IsLone config s)
    {operation : Operation} (hstart : operation.config? = some config) {i : Nat} {key : Path}
    (howns : s.Owns i key) (hresolve : s.world.files.resolve config.reportDir.text = .ok key) :
    s.Refuses operation ∧ ∀ j key', (s.perform operation).2.Owns j key' → s.Owns j key' := by
  obtain ⟨request, result, run, w', hperform, hcase⟩ := s.perform_start hstart
  have hheld := (hlone.sound.held key).mpr ⟨i, howns⟩
  cases hcase with
  | lost hresolve' =>
    rw [hresolve] at hresolve'
    cases hresolve'
  | tooLong _ hwait =>
    rw [hlone.patient i key howns] at hwait
    cases hwait
  | failed hresolve' hfree | succeeded hresolve' _ hfree =>
    obtain rfl := Except.ok.inj (hresolve.symm.trans hresolve')
    rw [hheld] at hfree
    cases hfree
  | refused _ _ hrun hworld =>
    refine ⟨⟨by rw [hperform]; rfl, by rw [hperform]; exact hworld.files_eq,
      by rw [hperform]; exact hworld.launches_eq⟩, fun j key' hj => ?_⟩
    rw [hperform, owns_append] at hj
    simpa [hrun.lock] using hj

/-- One operation: as long as a start finds the path that the open run claimed, there is no second
open run. -/
theorem IsLone.perform {config : Config} {s : System} (hlone : IsLone config s)
    {operation : Operation} (hshared : ∀ config', operation.config? = some config' → config' = config)
    (hfaithful : s.IsFaithful (some operation)) :
    s.IsExclusive (some operation) ∧ IsLone config (s.perform operation).2 := by
  have hsound := hlone.sound
  have hsound' := sound_perform hsound operation
  have hsingle := hlone.isOpen_unique
  -- An operation that makes no claim cannot open a second run.
  have hkept (hclaims : ∀ j key, (s.perform operation).2.Owns j key → s.Owns j key) :
      IsLone config (s.perform operation).2 :=
    ⟨hsound', fun i j key key' hi hj => hlone.single i j key key' (hclaims i key hi) (hclaims j key' hj),
      fun i key hi => hlone.patient i key (hclaims i key hi)⟩
  cases hstart : operation.config? with
  | none =>
    refine ⟨⟨hsingle, fun _ _ _ hnext hconfig => ?_⟩, hkept (hsound.follows_perform hstart).2⟩
    rw [← Option.some.inj hnext, hstart] at hconfig
    cases hconfig
  | some config' =>
    obtain rfl := hshared config' hstart
    by_cases hopen : ∃ i key, s.Owns i key
    · obtain ⟨i, key, howns⟩ := hopen
      obtain ⟨hrefuses, hclaims⟩ :=
        hlone.refuses hstart howns (hfaithful operation config' i key rfl hstart howns)
      refine ⟨⟨hsingle, fun other _ _ hnext _ _ => ?_⟩, hkept hclaims⟩
      obtain rfl := Option.some.inj hnext
      exact hrefuses
    · obtain ⟨request, result, run, w', hperform, hcase⟩ := s.perform_start hstart
      have hnew (i : Nat) (key : Path) (hi : (s.perform operation).2.Owns i key) :
          i = s.runs.length ∧ run.lock = some key := by
        rw [hperform, owns_append] at hi
        exact hi.resolve_left fun hold => hopen ⟨i, key, hold⟩
      refine ⟨⟨hsingle, fun _ _ i _ _ hi => ?_⟩, hsound', fun i j key key' hi hj => ?_,
        fun i key hi => hcase.isTooLong_eq_false (hnew i key hi).2⟩
      · exact absurd ⟨i, (hsound.isOpen_iff i).mp hi⟩ hopen
      · rw [(hnew i key hi).1, (hnew j key' hj).1]

/-- A start is only turned away because of a lock that is held, so that where no second run can be
open, the path that a start finds is the open run's. -/
theorem Sound.isFaithful {s : System} (hsound : s.Sound) {next : Option Operation}
    (hexclusive : s.IsExclusive next) : s.IsFaithful next := by
  intro operation config i key hnext hstart howns
  have hopen := (hsound.isOpen_iff i).mpr ⟨key, howns⟩
  have hbusy := (hexclusive.2 operation config i hnext hstart hopen).busy
  obtain ⟨request, result, run, w', hperform, hcase⟩ := s.perform_start hstart
  rw [hperform] at hbusy
  have hrefused : result = .error .busy := by
    cases result with
    | ok _ => cases hbusy
    | error failure => exact congrArg Except.error (Except.error.inj hbusy)
  obtain ⟨found, hresolve, hheld⟩ := hcase.isHeld_of_busy hrefused
  obtain ⟨j, hj⟩ := (hsound.held found).mp hheld
  obtain rfl := hexclusive.1 i j hopen ((hsound.isOpen_iff j).mpr ⟨_, hj⟩)
  obtain ⟨run, hrun, hlock⟩ := howns
  obtain ⟨run', hrun', hlock'⟩ := hj
  obtain rfl := Option.some.inj (hrun.symm.trans hrun')
  rw [hresolve, ← Option.some.inj (hlock.symm.trans hlock')]

/-- What one operation carries over, all operations do. -/
theorem Throughout.mono {P Q : System → Option Operation → Prop} (inv : System → Prop)
    {operations : List Operation} (hend : ∀ s, inv s → P s none → Q s none)
    (hstep : ∀ s, ∀ operation ∈ operations, inv s → P s (some operation) →
      Q s (some operation) ∧ inv (s.perform operation).2) {s : System} (hinv : inv s)
    (hP : Throughout P s operations) : Throughout Q s operations := by
  induction operations generalizing s with
  | nil => exact hend s hinv hP
  | cons operation rest ih =>
    obtain ⟨hQ, hinv'⟩ := hstep s operation (.head rest) hinv hP.1
    exact ⟨hQ, ih (fun s other hother => hstep s other (.tail operation hother)) hinv' hP.2⟩

/-- Runs under one configuration exclude each other exactly as long as every start, while a run is
open, finds the report directory under the canonical path that the open run claimed. -/
theorem exclusive_iff_faithful {config : Config} {operations : List Operation}
    (hshared : SharesConfig config operations) (w : World) :
    Throughout IsExclusive (initial w) operations ↔ Throughout IsFaithful (initial w) operations := by
  constructor
  -- Here the accounts are enough: exclusion itself says that no second run is open.
  · exact Throughout.mono Sound (fun s hsound h => hsound.isFaithful h)
      (fun s operation _ hsound h => ⟨hsound.isFaithful h, sound_perform hsound operation⟩)
      (sound_initial w)
  · refine Throughout.mono (IsLone config) (fun s hlone _ => ⟨hlone.isOpen_unique, ?_⟩)
      (fun s operation hoperation hlone h => hlone.perform (hshared operation hoperation) h)
      (isLone_initial config w)
    intro _ _ _ hnext
    cases hnext

/-- Two starts with nothing between them. -/
def twoStarts : List Operation :=
  [.start fixedConfig none none none, .start fixedConfig none none none]

theorem sharesConfig_twoStarts : SharesConfig fixedConfig twoStarts := by
  simp [SharesConfig, twoStarts, Operation.config?]

/-- The report directory is a directory of the last run's. -/
def plainWorld : World where
  files :=
    { tree := ⟨[(["out"], .directory), (["out", "r"], .directory)]⟩
      cwd := [] }

/-- The report directory is a link. -/
def linkedWorld : World where
  files :=
    { tree := ⟨[(["out"], .directory), (["out", "r"], .link "e")]⟩
      cwd := [] }

/-- After the first start in `plainWorld` the claimed path is still that of the report directory. After
both starts in `linkedWorld` two runs are open. -/
theorem seen_twoStarts :
    ((((initial plainWorld).after twoStarts.tail).runs.map Run.lock,
        ((initial plainWorld).after twoStarts.tail).world.files.resolve fixedConfig.reportDir.text),
      ((initial linkedWorld).after twoStarts).runs.map Run.isOpen) =
    (([some ⟨.root, ["out", "r"]⟩], .ok ⟨.root, ["out", "r"]⟩), [true, true]) := by
  cbv

/-- The second of two starts is turned away where the report directory is no link. -/
theorem exclusive_plainWorld :
    SharesConfig fixedConfig twoStarts ∧ Throughout IsExclusive (initial plainWorld) twoStarts := by
  have hshared := sharesConfig_twoStarts
  refine ⟨hshared, (exclusive_iff_faithful hshared plainWorld).mpr ⟨?_, ?_, ?_⟩⟩
  · rintro _ _ i key _ _ ⟨run, hrun, _⟩
    cases hrun
  · obtain ⟨hlocks, hresolve⟩ := Prod.mk.inj (Prod.mk.inj seen_twoStarts).1
    rintro operation config i key hnext hconfig ⟨run, hrun, hlock⟩
    obtain rfl := Option.some.inj hnext
    obtain rfl := Option.some.inj hconfig
    have hkey := List.mem_map_of_mem (f := Run.lock) (List.mem_of_getElem? hrun)
    rw [hlock] at hkey
    have hsame := List.mem_singleton.mp (hlocks ▸ hkey)
    rw [Option.some.inj hsame]
    exact hresolve
  · intro _ _ _ _ hnext
    cases hnext

/-- The first start takes the link away, and with it the path that it claimed: the second start
claims another one, and both runs are open. -/
theorem not_exclusive_linkedWorld :
    SharesConfig fixedConfig twoStarts ∧ ¬ Throughout IsExclusive (initial linkedWorld) twoStarts := by
  refine ⟨sharesConfig_twoStarts, fun hexclusive => ?_⟩
  obtain ⟨_, hflags⟩ := Prod.mk.inj seen_twoStarts
  have hopen (i : Nat) (hi : [true, true][i]? = some true) :
      ((initial linkedWorld).after twoStarts).IsOpen i := by
    rw [← hflags, List.getElem?_map] at hi
    exact Option.map_eq_some_iff.mp hi
  exact absurd (hexclusive.2.2.1 0 1 (hopen 0 rfl) (hopen 1 rfl)) Nat.zero_ne_one

end System

end ScanLauncher
