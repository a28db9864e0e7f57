import ScanLauncher.Proofs.Run.Afresh
import ScanLauncher.Proofs.System.Basic

namespace ScanLauncher

/-- Whether an operation is on a run that is there: nothing is started, and others do nothing. -/
def Operation.isOwn : Operation → Bool
  | start .. | disturb .. => false
  | _ => true

namespace System

/-- One run, alone, in two worlds that are alike. -/
structure AlikeAlone (c : Comparison) (s s' : System) : Prop where
  runs : ∃ run run', s.runs = [run] ∧ s'.runs = [run'] ∧ run.Alike c s.world run' s'.world
  bodies_eq : s'.bodies = s.bodies

section Step

variable {c : Comparison} {s s' : System}

theorem AlikeAlone.onRun (h : AlikeAlone c s s') (i : Nat) {α : Type} {act : ActOn Run α}
    (hact : ActOn.Agree (Run.Alike c) act act) :
    (s'.onRun i act).1 = (s.onRun i act).1 ∧ AlikeAlone c (s.onRun i act).2 (s'.onRun i act).2 := by
  obtain ⟨run, run', hruns, hruns', halike⟩ := h.runs
  cases i with
  | zero =>
    have hrun : s.runs[0]? = some run := by rw [hruns]; rfl
    have hrun' : s'.runs[0]? = some run' := by rw [hruns']; rfl
    obtain ⟨hresult, hafter⟩ := hact run s.world run' s'.world halike
    rw [onRun_apply hrun, onRun_apply hrun']
    exact ⟨hresult.symm, ⟨_, _, by rw [hruns]; rfl, by rw [hruns']; rfl, hafter⟩, h.bodies_eq⟩
  | succ i =>
    have hnone : s.runs[i + 1]? = none := by rw [hruns]; rfl
    have hnone' : s'.runs[i + 1]? = none := by rw [hruns']; rfl
    simp only [System.onRun, hnone, hnone']
    exact ⟨trivial, h⟩

theorem AlikeAlone.onBody (h : AlikeAlone c s s') (b : Nat) {α : Type} {act : ActOn Body α}
    (hact : ActOn.Agree (Body.Alike c) act act) :
    (s'.onBody b act).1 = (s.onBody b act).1 ∧
      AlikeAlone c (s.onBody b act).2 (s'.onBody b act).2 := by
  obtain ⟨run, run', hruns, hruns', halike⟩ := h.runs
  cases hbody : s.bodies[b]? with
  | none =>
    simp only [System.onBody, h.bodies_eq, hbody]
    exact ⟨trivial, h⟩
  | some body =>
    obtain ⟨i, stage⟩ := body
    have hbody' : s'.bodies[b]? = some (i, stage) := by rw [h.bodies_eq, hbody]
    cases i with
    | zero =>
      have hrun : s.runs[0]? = some run := by rw [hruns]; rfl
      have hrun' : s'.runs[0]? = some run' := by rw [hruns']; rfl
      obtain ⟨hresult, hafter⟩ := hact ⟨run, stage⟩ s.world ⟨run', stage⟩ s'.world ⟨rfl, halike⟩
      rw [onBody_apply hbody hrun, onBody_apply hbody' hrun']
      refine ⟨hresult.symm, ⟨_, _, by rw [hruns]; rfl, by rw [hruns']; rfl, hafter.run⟩, ?_⟩
      simp only [h.bodies_eq, hafter.stage_eq]
    | succ i =>
      have hnone : s.runs[i + 1]? = none := by rw [hruns]; rfl
      have hnone' : s'.runs[i + 1]? = none := by rw [hruns']; rfl
      simp only [System.onBody, hbody, hbody', hnone, hnone']
      exact ⟨trivial, h⟩

/-- An operation on the run comes to the same in both worlds, and leaves them alike. -/
theorem AlikeAlone.perform (hc : c.IsSteady) (h : AlikeAlone c s s') {operation : Operation}
    (hown : operation.isOwn = true) :
    (s'.perform operation).1 = (s.perform operation).1 ∧
      AlikeAlone c (s.perform operation).2 (s'.perform operation).2 := by
  have hnoItem {outcome outcome' : Except Failure Unit × System}
      (houtcome : outcome'.1 = outcome.1 ∧ AlikeAlone c outcome.2 outcome'.2) :
      (noItem outcome').1 = (noItem outcome).1 ∧
        AlikeAlone c (noItem outcome).2 (noItem outcome').2 :=
    ⟨congrArg (Except.map fun _ => none) houtcome.1, houtcome.2⟩
  cases operation with
  | start | disturb => cases hown
  | openBody run =>
    have hlength : s'.runs.length = s.runs.length := by
      obtain ⟨_, _, hruns, hruns', _⟩ := h.runs
      rw [hruns, hruns']
      rfl
    refine ⟨rfl, ?_⟩
    simp only [System.perform, hlength]
    split
    · exact ⟨h.runs, by rw [h.bodies_eq]⟩
    · exact h
  | advance body => exact h.onBody body (Body.agree_next hc)
  | closeBody body => exact hnoItem (h.onBody body (Body.agree_close hc))
  | close run => exact hnoItem (h.onRun run (Run.agree_close hc))
  | expire run => exact hnoItem (h.onRun run (Run.agree_expire hc))

theorem AlikeAlone.after (hc : c.IsSteady) (h : AlikeAlone c s s') {operations : List Operation}
    (hown : ∀ operation ∈ operations, operation.isOwn = true) :
    s'.results operations = s.results operations ∧
      AlikeAlone c (s.after operations) (s'.after operations) := by
  induction operations generalizing s s' with
  | nil => exact ⟨rfl, h⟩
  | cons operation rest ih =>
    obtain ⟨hresult, hafter⟩ := h.perform hc (hown operation (.head rest))
    obtain ⟨hresults, hend⟩ := ih hafter fun other hother => hown other (.tail operation hother)
    exact ⟨by rw [results, results, hresult, hresults], hend⟩

end Step

/-- A start in a system without runs that succeeds, with the report directory emptied. -/
structure BeginsAfresh (w : World) (config : Config) (url revision subdir : Option Text)
    (s : System) : Prop where
  perform_eq : (initial w).perform (.start config url revision subdir) = (.ok none, s)
  emptied : ∀ run ∈ s.runs, ∃ outcome, run.outcome = some outcome ∧ outcome.resetOk = true

theorem BeginsAfresh.startsAfresh {w : World} {config : Config} {url revision subdir : Option Text}
    {s : System} (h : BeginsAfresh w config url revision subdir s) :
    ∃ run, s.runs = [run] ∧ s.bodies = [] ∧
      Run.StartsAfresh config url revision subdir { w with gate := {} } run s.world := by
  have hperform := h.perform_eq
  rcases hstart : Run.start url revision subdir { config } { w with gate := {} } with
    ⟨⟨failure | _, run⟩, w'⟩
  · simp only [perform, startRun, initial, hstart, noItem] at hperform
    cases hperform
  · simp only [perform, startRun, initial, hstart, noItem] at hperform
    cases hperform
    exact ⟨run, rfl, rfl, hstart, h.emptied run (.head [])⟩

/-- No result of an earlier run crosses over. Let the report directory be one entry of the output
root, and the output root be found without its help. If a run starts with the directory emptied in two
worlds that differ in what stood at that directory and below, then whatever is done with the run, it
hands out the same items in both, comes to the same state and outcome and leaves the same files. And a
report at the place of the old directory, or below, is a file that the child has written. -/
theorem no_stale_result {w : World} {fs : FileSystem} {config : Config}
    {url revision subdir : Option Text} {s s' : System}
    (hname : Config.isComponent config.reports.directoryName = true)
    (hapart : config.FindsRootApart w.files) (hproper : w.files.IsProper) (hproper' : fs.IsProper)
    (hagree : config.AgreesOffReports w.files fs)
    (hbegin : BeginsAfresh w config url revision subdir s)
    (hbegin' : BeginsAfresh { w with files := fs } config url revision subdir s')
    {operations : List Operation} (hown : ∀ operation ∈ operations, operation.isOwn = true) :
    s'.results operations = s.results operations ∧
      (s.after operations).world.files.Same (s'.after operations).world.files ∧
      ∃ run run', (s.after operations).runs = [run] ∧ (s'.after operations).runs = [run'] ∧
        run' = { run with lock := run'.lock } ∧
        ∀ outcome reports, run.outcome = some outcome → outcome.reports = some reports →
          ∀ report ∈ reports, ∃ files place content isExecutable,
            s.world.files.Reaches (w.specs.headD {}).changes files ∧
            files.locate true config.reportDir.text = .ok place ∧
            files.tree.get? (place ++ [report.relativePath]) = some (.file content isExecutable) ∧
            ∀ old, w.files.locate false config.reportDir.text = .ok old →
              old <+: place ++ [report.relativePath] →
              s.world.files.Writes (w.specs.headD {}).changes content isExecutable
                (place ++ [report.relativePath]) := by
  have hentry := config.isEntryOf_iff_namesEntry.mpr (ReportSettings.namesEntry_of_isComponent hname)
  obtain ⟨run, hruns, hbodies, hstart⟩ := hbegin.startsAfresh
  obtain ⟨run', hruns', hbodies', hstart'⟩ := hbegin'.startsAfresh
  have halike := hstart.alike hstart' hentry hapart hproper hproper' hagree
  have hsteady := Comparison.isSteady_ofFiles config.reportDir s.world.files
    (w.specs.headD {}).changes
  obtain ⟨hresults, ⟨last, last', hlast, hlast', hend⟩, _⟩ := AlikeAlone.after hsteady
    ⟨⟨run, run', hruns, hruns', halike⟩, hbodies'.trans hbodies.symm⟩ hown
  refine ⟨hresults, hend.world.same, last, last', hlast, hlast', hend.run_eq, ?_⟩
  intro outcome reports houtcome hreports report hreport
  obtain ⟨files, place, content, isExecutable, hreaches, hplace, hfile, hwrites⟩ :=
    hend.found outcome reports houtcome hreports report hreport
  refine ⟨files, place, content, isExecutable, hreaches, hplace, hfile, fun old hold hbelow => ?_⟩
  exact hwrites (hstart.get?_eq_none hentry hapart hproper hold hbelow)

/-- A script that writes one report. -/
def writingScript : ProcessSpec where
  output := [.change [.file "/out/r/new" [0x31] false], .data [0x61]]

/-- A report of an earlier run is in the report directory. -/
def staleWorld : World where
  files :=
    { tree := ⟨[(["out"], .directory), (["out", "r"], .directory), (["out", "r", "old"], .file [] false)]⟩
      cwd := [] }
  specs := [writingScript]

/-- A link is where the report directory would be. -/
def linkFiles : FileSystem where
  tree := ⟨[(["out"], .directory), (["out", "r"], .link "e")]⟩
  cwd := []

/-- The run is read to its end. -/
def readToEnd : List Operation := .openBody 0 :: List.replicate 7 (.advance 0)

private theorem isProper_staleWorld : staleWorld.files.IsProper :=
  .of_entries (by simp [Tree.IsDistinct, staleWorld]) (by decide)

private theorem isProper_linkFiles : linkFiles.IsProper :=
  .of_entries (by simp [Tree.IsDistinct, linkFiles]) (by decide)

private theorem text_reportDir_fixedConfig : fixedConfig.reportDir.text = "/out/r" := by decide +kernel

theorem locate_staleWorld :
    staleWorld.files.locate false fixedConfig.reportDir.text = .ok ["out", "r"] := by
  rw [text_reportDir_fixedConfig]
  cbv

private theorem findsRootApart_staleWorld : fixedConfig.FindsRootApart staleWorld.files := by
  intro place hplace
  obtain rfl := Except.ok.inj (locate_staleWorld.symm.trans hplace)
  cbv

private theorem agreesOffReports_linkFiles : fixedConfig.AgreesOffReports staleWorld.files linkFiles := by
  refine ⟨rfl, fun loc hdiffer => ⟨_, locate_staleWorld, ?_⟩⟩
  by_contra hoff
  have hother (rest : Location) : (loc == ("out" :: "r" :: rest : Location)) = false := by
    rw [beq_eq_false_iff_ne]
    rintro rfl
    exact hoff (List.prefix_append _ rest)
  simp [Tree.get?, staleWorld, linkFiles, List.lookup_cons, hother] at hdiffer

/-- The start of a run in some files, with the script of `staleWorld`. -/
def begun (fs : FileSystem) : Except Failure (Option (List UInt8)) × System :=
  (initial { staleWorld with files := fs }).perform (.start fixedConfig none none none)

theorem beginsAfresh_begun (fs : FileSystem)
    (h : ((begun fs).1, (begun fs).2.runs.map fun run => run.outcome.map Outcome.resetOk) =
      (.ok none, [some true])) :
    BeginsAfresh { staleWorld with files := fs } fixedConfig none none none (begun fs).2 := by
  obtain ⟨hstart, hresets⟩ := Prod.mk.inj h
  refine ⟨Prod.ext hstart rfl, fun run hrun => ?_⟩
  have hreset := List.mem_map_of_mem (f := fun run => run.outcome.map Outcome.resetOk) hrun
  rw [hresets, List.mem_singleton] at hreset
  exact Option.map_eq_some_iff.mp hreset

/-- Neither an earlier report nor a link shows. -/
theorem no_stale_result_staleWorld :
    (begun linkFiles).2.results readToEnd = (begun staleWorld.files).2.results readToEnd ∧
      ((begun staleWorld.files).2.after readToEnd).runs.map (fun run =>
        run.outcome.bind Outcome.reports) = [some [⟨"r", "new"⟩]] := by
  have hname : Config.isComponent fixedConfig.reports.directoryName = true := by cbv
  have hown : ∀ operation ∈ readToEnd, operation.isOwn = true := by decide
  -- The two starts are evaluated together: most of what they do is the same.
  have hread : (((begun staleWorld.files).1, (begun staleWorld.files).2.runs.map fun run =>
        run.outcome.map Outcome.resetOk),
      ((begun linkFiles).1, (begun linkFiles).2.runs.map fun run =>
        run.outcome.map Outcome.resetOk),
      ((begun staleWorld.files).2.after readToEnd).runs.map fun run =>
        run.outcome.bind Outcome.reports) =
      ((.ok none, [some true]), (.ok none, [some true]), [some [⟨"r", "new"⟩]]) := by cbv
  obtain ⟨hbegun, hothers⟩ := Prod.mk.inj hread
  obtain ⟨hlinked, hreports⟩ := Prod.mk.inj hothers
  obtain ⟨hresults, _⟩ := no_stale_result hname findsRootApart_staleWorld isProper_staleWorld
    isProper_linkFiles agreesOffReports_linkFiles (beginsAfresh_begun staleWorld.files hbegun)
    (beginsAfresh_begun linkFiles hlinked) hown
  exact ⟨hresults, hreports⟩

end System

end ScanLauncher
