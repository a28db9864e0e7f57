import ScanLauncher.Proofs.Config.ReportDir
import ScanLauncher.Proofs.Files.Written
import ScanLauncher.Proofs.Report.Emptied
import ScanLauncher.Proofs.Report.Listing
import ScanLauncher.Proofs.Run.Independence
import ScanLauncher.Proofs.Run.Starting

namespace ScanLauncher

/-- Files as they are on a disk: every place has one entry at most, and every entry is in a
directory. -/
structure FileSystem.IsProper (fs : FileSystem) : Prop where
  isNested : fs.tree.IsNested
  isDistinct : fs.tree.IsDistinct

/-- A tree of distinct places is proper if the directory of every entry is listed. -/
theorem FileSystem.IsProper.of_entries {fs : FileSystem} (hdistinct : fs.tree.IsDistinct)
    (hnested : ∀ e ∈ fs.tree.entries, fs.tree.get? e.1.dropLast = some .directory) :
    fs.IsProper := by
  refine ⟨fun loc name hpresent => ?_, hdistinct⟩
  obtain ⟨entry, hentry⟩ := Option.ne_none_iff_exists'.mp hpresent
  have hmem := (Tree.mem_entries_iff hdistinct (by simp)).mpr hentry
  simpa using hnested _ hmem

/-- All changes that a child may make. -/
def ProcessSpec.changes (spec : ProcessSpec) : List Change := spec.output.flatMap OutputStep.changes

/-- A report is a file that stood in the directory when some of the changes had been made. -/
def ReportFile.IsFound (report : ReportFile) (path : Path) (first : FileSystem)
    (changes : List Change) : Prop :=
  ∃ fs place content isExecutable, first.Reaches changes fs ∧ fs.locate true path.text = .ok place ∧
    fs.tree.get? (place ++ [report.relativePath]) = some (.file content isExecutable) ∧
    (first.tree.get? (place ++ [report.relativePath]) = none →
      first.Writes changes content isExecutable (place ++ [report.relativePath]))

/-- Two worlds that hold the same files and show the same faults, whose files came from the first ones
by some changes. -/
structure World.SameFiles (first : FileSystem) (changes : List Change) (lock lock' : Option Path)
    (w w' : World) : Prop where
  held : ∀ key, lock = some key → w.gate.isHeld key = true
  held' : ∀ key, lock' = some key → w'.gate.isHeld key = true
  faults_eq : w'.faults = w.faults
  same : w.files.Same w'.files
  isDistinct : w.files.tree.IsDistinct
  isDistinct' : w'.files.tree.IsDistinct
  reaches : first.Reaches changes w.files

namespace World.SameFiles

variable {first : FileSystem} {changes : List Change} {lock lock' : Option Path} {w w' v v' : World}

theorem records (h : SameFiles first changes lock lock' w w') (hw : w.RecordsOnly v)
    (hw' : w'.RecordsOnly v') : SameFiles first changes lock lock' v v' := by
  rw [hw, hw']
  exact ⟨h.held, h.held', h.faults_eq, h.same, h.isDistinct, h.isDistinct', h.reaches⟩

/-- A child makes the same changes in both worlds, and they succeed or fail alike. -/
theorem agree_change {made : List Change} (hmade : made ⊆ changes) :
    Act.Agree (SameFiles first changes lock lock') (Session.change made) (Session.change made) := by
  intro w w' h
  obtain ⟨hfault, hsame⟩ := h.same.applyAll made
  have hafter : SameFiles first changes lock lock' { w with files := (w.files.applyAll made).1 }
      { w' with files := (w'.files.applyAll made).1 } :=
    ⟨h.held, h.held', h.faults_eq, hsame,
      FileSystem.isStable_isDistinct.applyAll h.isDistinct made,
      FileSystem.isStable_isDistinct.applyAll h.isDistinct' made, h.reaches.applyAll hmade⟩
  simp only [Session.change, Act.bind_apply, Act.get_apply, Act.modify_apply, hfault]
  cases (w.files.applyAll made).2 with
  | none => exact ⟨rfl, hafter⟩
  | some fault => cases fault <;> exact ⟨rfl, hafter⟩

/-- Both worlds show the same reports. -/
theorem agree_list (path : Path) :
    Act.Agree (SameFiles first changes lock lock') (Report.list path) (Report.list path) := by
  have hrecords (w : World) : w.RecordsOnly (Report.list path w).2 :=
    Report.keeps_list path (fun v _ _ _ h => h.trans rfl) w (.refl w)
  intro w w' h
  have hresult := Report.list_congr h.same h.faults_eq h.isDistinct h.isDistinct' path
  exact ⟨hresult.symm, h.records (hrecords w) (hrecords w')⟩

private theorem isFound (h : SameFiles first changes lock lock' w w') {path : Path}
    {reports : List ReportFile} (hlist : (Report.list path w).1 = .ok reports) {report : ReportFile}
    (hreport : report ∈ reports) : report.IsFound path first changes := by
  obtain ⟨_, place, entry, hplace, hchild, hregular⟩ := Report.mem_children_of_list hlist hreport
  rw [Tree.mem_children_iff h.isDistinct] at hchild
  cases entry with
  | file content isExecutable =>
    refine ⟨w.files, place, content, isExecutable, h.reaches, hplace, hchild, fun hnone => ?_⟩
    refine h.reaches.writes ?_ hchild
    rw [hnone]
    exact nofun
  | directory | link | fifo => cases hregular

end World.SameFiles

/-- The comparison of worlds with the same files. -/
def Comparison.ofFiles (path : Path) (first : FileSystem) (changes : List Change) : Comparison where
  worlds := World.SameFiles first changes
  allowed := (· ⊆ changes)
  path
  listed reports := ∀ report ∈ reports, report.IsFound path first changes

theorem Comparison.isSteady_ofFiles (path : Path) (first : FileSystem) (changes : List Change) :
    (ofFiles path first changes).IsSteady where
  bears _ _ :=
    { note := fun h _ _ _ => h.records (World.recordsOnly_note _ _ _ _) (World.recordsOnly_note _ _ _ _)
      trace := fun h _ => h.records rfl rfl
      change := World.SameFiles.agree_change }
  held h := ⟨h.held, h.held'⟩
  release h := ⟨nofun, nofun, h.faults_eq, h.same, h.isDistinct, h.isDistinct', h.reaches⟩
  list _ _ := World.SameFiles.agree_list path
  listed h _ hlist _ hreport := h.isFound hlist hreport

namespace Run

variable {config : Config} {url revision subdir : Option Text} {w w' : World} {run : Run}

/-- A start that succeeds, with the report directory emptied. -/
structure StartsAfresh (config : Config) (url revision subdir : Option Text) (w : World) (run : Run)
    (w' : World) : Prop where
  start_eq : start url revision subdir { config } w = ((.ok (), run), w')
  emptied : ∃ outcome, run.outcome = some outcome ∧ outcome.resetOk = true

/-- Such a start has claimed the report directory, emptied it and launched the script, one after the
other. -/
theorem StartsAfresh.steps (h : StartsAfresh config url revision subdir w run w') :
    ∃ key session w₁ w₂,
      run = started config { request := .normalize url revision subdir } key session ∧
      Report.reset config.reportDir { w with gate := w.gate.taken key } = (.ok true, w₁) ∧
      { w with gate := w.gate.taken key }.FilesOnly w₁ ∧
      Session.launch (commandOf config (.normalize url revision subdir)) config.tool.workingDir
        config.tool.chunkSize (some config.tool.timeout) w₁ = (.ok session, w₂) ∧
      w₂.RecordsOnly w' := by
  obtain ⟨hstart, outcome, houtcome, hresetOk⟩ := h
  obtain ⟨key, resetOk, session, w₁, w₂, rfl, hemptied, hlaunch, message, rfl⟩ := start_eq_ok hstart
  obtain rfl : resetOk = true := by rw [← hresetOk, ← Option.some.inj houtcome]
  have hfiles := Report.reset_filesOnly config.reportDir { w with gate := w.gate.taken key }
  rw [hemptied] at hfiles
  exact ⟨key, session, w₁, w₂, rfl, hemptied, hfiles, hlaunch, w₂.recordsOnly_note _ _ _⟩

/-- Nothing is left where the report directory was, and below. -/
theorem StartsAfresh.get?_eq_none (h : StartsAfresh config url revision subdir w run w')
    (hentry : config.reportDir.IsEntryOf config.outputRoot)
    (hapart : config.FindsRootApart w.files) (hproper : w.files.IsProper)
    {place loc : Location} (hplace : w.files.locate false config.reportDir.text = .ok place)
    (hbelow : place <+: loc) : w'.files.tree.get? loc = none := by
  obtain ⟨key, session, w₁, w₂, _, hemptied, _, hlaunch, hrecords⟩ := h.steps
  rw [hrecords.files_eq, (Session.launch_eq_ok hlaunch).2.1.files_eq]
  exact Config.get?_of_reset (w := { w with gate := w.gate.taken key }) hentry hapart
    hproper.isNested hemptied hplace hbelow

/-- What is known of the world after such a start, apart from where its files are. -/
theorem StartsAfresh.world (h : StartsAfresh config url revision subdir w run w')
    (hproper : w.files.IsProper) :
    w'.files.tree.IsDistinct ∧ w'.faults = w.faults ∧
      ∀ key, run.lock = some key → w'.gate.isHeld key = true := by
  obtain ⟨key, session, w₁, w₂, rfl, hemptied, hreset, hlaunch, hrecords⟩ := h.steps
  obtain ⟨_, hlaunched, _⟩ := Session.launch_eq_ok hlaunch
  have hdistinct : (Report.reset config.reportDir).Keeps fun w => w.files.tree.IsDistinct :=
    Report.keepsFiles_reset (fun _ _ => FileSystem.isStable_isDistinct.unlink)
      fun _ h => FileSystem.isStable_isDistinct.removeTree h _
  have hafter := hdistinct { w with gate := w.gate.taken key } hproper.isDistinct
  rw [hemptied] at hafter
  refine ⟨?_, ?_, ?_⟩
  · rw [hrecords.files_eq, hlaunched.files_eq]
    exact hafter
  · rw [hrecords, hlaunched, hreset]
  · rintro _ ⟨⟩
    rw [hrecords.gate_eq, hlaunched.gate_eq, hreset.gate_eq]
    exact (Gate.isHeld_taken _ _ _).mpr (.inr rfl)

/-- Two such starts, in worlds that differ in nothing but the files at the report directory, begin
one run in two worlds with the same files. -/
theorem StartsAfresh.alike {v v' : World} {run' : Run} {fs : FileSystem}
    (h : StartsAfresh config url revision subdir w run v)
    (h' : StartsAfresh config url revision subdir { w with files := fs } run' v')
    (hentry : config.reportDir.IsEntryOf config.outputRoot)
    (hapart : config.FindsRootApart w.files) (hproper : w.files.IsProper) (hproper' : fs.IsProper)
    (hagree : config.AgreesOffReports w.files fs) :
    run.Alike (.ofFiles config.reportDir v.files (w.specs.headD {}).changes) v run' v' := by
  obtain ⟨hdistinct, hfaults, hheld⟩ := h.world hproper
  obtain ⟨hdistinct', hfaults', hheld'⟩ := h'.world hproper'
  obtain ⟨key, session, w₁, w₂, rfl, hemptied, hreset, hlaunch, hrecords⟩ := h.steps
  obtain ⟨key', session', w₁', w₂', rfl, hemptied', hreset', hlaunch', hrecords'⟩ := h'.steps
  -- The children to come are the same, so that one session is launched in both worlds.
  obtain rfl : session' = session := by
    have hspecs : w₁'.specs = w₁.specs := by rw [hreset, hreset']
    have hlaunches : w₁'.launches = w₁.launches := by rw [hreset, hreset']
    have hsame := congrArg Prod.fst hlaunch'
    rw [Session.launch_congr hspecs hlaunches, hlaunch] at hsame
    exact (Except.ok.inj hsame).symm
  obtain ⟨hsession, hlaunched, _⟩ := Session.launch_eq_ok hlaunch
  obtain ⟨_, hlaunched', _⟩ := Session.launch_eq_ok hlaunch'
  have hsame : w₁.files.Same w₁'.files :=
    Config.same_of_reset hentry (w := { w with gate := w.gate.taken key }) hapart hproper.isNested
      hproper'.isNested hagree hemptied hemptied'
  refine ⟨rfl, rfl, fun other hother made hmade change hchange => ?_, ?_, hheld, hheld', ?_, ?_,
    hdistinct, hdistinct', .refl⟩
  · obtain rfl := List.mem_singleton.mp hother
    rw [hsession, hreset] at hmade
    exact List.mem_flatMap.mpr ⟨_, hmade, hchange⟩
  · rintro _ _ ⟨⟩ ⟨⟩
  · rw [hfaults, hfaults']
  · rwa [hrecords.files_eq, hrecords'.files_eq, hlaunched.files_eq, hlaunched'.files_eq]

end Run

end ScanLauncher
