import ScanLauncher.Proofs.Config.Load
import ScanLauncher.Proofs.Report.Reset

namespace ScanLauncher

namespace Path

private theorem isComponent_iff_of_mem {t name : Text} (hname : name ∈ components t) :
    Config.isComponent name = true ↔ name ≠ ".." := by
  obtain ⟨hpart, hkept⟩ := List.mem_filter.mp hname
  simp only [Bool.and_eq_true, Bool.not_eq_true', bne_iff_ne] at hkept
  have hempty : name ≠ "" := by
    rintro rfl
    cases hkept.1
  have hslash := Text.not_mem_of_mem_splitOn hpart
  refine ⟨fun h => (Config.isComponent_iff.mp h).2.2.2, fun hdots => ?_⟩
  exact Config.isComponent_iff.mpr ⟨hempty, hslash, hkept.2, hdots⟩

private theorem components_of_isComponent {name : Text} (hname : Config.isComponent name = true) :
    Anchor.ofText name = .relative ∧ components name = [name] := by
  obtain ⟨hempty, hslash, hdot, hdots⟩ := Config.isComponent_iff.mp hname
  have hstart (t : Text) (ht : Glyph.char '/' ∈ t.glyphs) : name.startsWith t = false :=
    eq_false_of_ne_true fun h => hslash ((List.isPrefixOf_iff_prefix.mp h).subset ht)
  constructor
  · simp [Anchor.ofText, hstart "///" (by decide), hstart "//" (by decide), hstart "/" (by decide)]
  · obtain ⟨hkept, _⟩ := FileSystem.isOrdinary_of_isComponent hname
    simpa [components, Text.splitOn, List.splitOn_eq_singleton hslash, FileSystem.dot] using hkept

end Path

namespace ReportSettings

/-- The directory's name is one component, or spells the output root out with one component behind
it; and that component is no double dot. -/
def NamesEntry (settings : ReportSettings) : Prop :=
  ∃ name : Text, name ≠ ".." ∧
    if Anchor.ofText settings.directoryName = .relative then
      Path.components settings.directoryName = [name]
    else
      Anchor.ofText settings.directoryName = Anchor.ofText settings.outputRoot ∧
        Path.components settings.directoryName = Path.components settings.outputRoot ++ [name]

/-- The spelling that a review asks for is enough. -/
theorem namesEntry_of_isComponent {settings : ReportSettings}
    (hname : Config.isComponent settings.directoryName = true) : settings.NamesEntry := by
  obtain ⟨hrelative, hparts⟩ := Path.components_of_isComponent hname
  obtain ⟨_, _, _, hdots⟩ := Config.isComponent_iff.mp hname
  exact ⟨settings.directoryName, hdots, by rw [if_pos hrelative, hparts]⟩

end ReportSettings

namespace Config

/-- In every state of the files, a reset of the report directory changes nothing but what stands
strictly below the place that the output root leads to. -/
def ConfinesReset (config : Config) : Prop :=
  ∀ w loc, (Report.reset config.reportDir w).2.files.tree.get? loc ≠ w.files.tree.get? loc →
    ∃ place, w.files.locate true config.outputRoot.text = .ok place ∧ Tree.isBelow place loc = true

private theorem confinesReset_of_isEntryOf {config : Config}
    (hentry : config.reportDir.IsEntryOf config.outputRoot) : config.ConfinesReset := by
  intro w loc hchange
  obtain ⟨there, hthere, hbelow⟩ := (Report.reset_pruned config.reportDir w).at_path loc hchange
  obtain ⟨place, name, hplace, rfl⟩ := hentry.locate (Path.isProper_ofText _) hthere
  obtain ⟨rest, rfl⟩ := hbelow
  refine ⟨place, hplace, ?_⟩
  simp [Tree.isBelow]

/-- The spelling that makes the report directory one entry of the output root. -/
theorem isEntryOf_iff_namesEntry (config : Config) :
    config.reportDir.IsEntryOf config.outputRoot ↔ config.reports.NamesEntry := by
  have hname {name : Text} (hmem : name ∈ Path.components config.reports.directoryName) :=
    Path.isComponent_iff_of_mem hmem
  unfold Path.IsEntryOf ReportSettings.NamesEntry
  by_cases hrelative : Anchor.ofText config.reports.directoryName = .relative
  · have hdir : config.reportDir = ⟨config.outputRoot.anchor,
        config.outputRoot.parts ++ Path.components config.reports.directoryName⟩ := by
      simp [reportDir, HDiv.hDiv, Div.div, Path.join, Path.isAbsolute, Path.ofText, hrelative]
    simp only [hdir, hrelative, if_true, Path.mk.injEq, true_and, List.append_cancel_left_eq]
    constructor
    · rintro ⟨name, hcomponent, hparts⟩
      exact ⟨name, (hname (by simp [hparts])).mp hcomponent, hparts⟩
    · rintro ⟨name, hdots, hparts⟩
      exact ⟨name, (hname (by simp [hparts])).mpr hdots, hparts⟩
  · have hdir : config.reportDir = .ofText config.reports.directoryName := by
      simp [reportDir, HDiv.hDiv, Div.div, Path.join, Path.isAbsolute, Path.ofText, hrelative]
    simp only [hdir, hrelative, if_false, Path.ofText, outputRoot, Path.mk.injEq]
    constructor
    · rintro ⟨name, hcomponent, hanchor, hparts⟩
      exact ⟨name, (hname (by simp [hparts])).mp hcomponent, hanchor, hparts⟩
    · rintro ⟨name, hdots, hanchor, hparts⟩
      exact ⟨name, (hname (by simp [hparts])).mpr hdots, hanchor, hparts⟩

/-- A loaded configuration keeps every reset strictly below its output root, in one entry of it,
exactly if its report settings are spelled so. The spelling that a review asks for would do, but the
loader does not ask for it: with another command line it loads any report settings. -/
theorem load_confines_iff {root : Path} {custom : Option Path} {overrides : Entries} {w : World}
    {config : Config} (hload : (load root custom overrides w).1 = .ok config) :
    (config.reportDir.IsEntryOf config.outputRoot ∧ config.ConfinesReset ↔
        config.reports.NamesEntry) ∧
      (isComponent config.reports.directoryName = true → config.reports.NamesEntry) ∧
      ∀ settings, ∃ config',
        (load root custom (withReports overrides settings) w).1 = .ok config' ∧
          config'.reports = settings ∧ config'.tool = config.tool ∧
          config'.server = config.server := by
  refine ⟨⟨fun h => config.isEntryOf_iff_namesEntry.mp h.1, fun h => ?_⟩,
    ReportSettings.namesEntry_of_isComponent, load_withReports hload⟩
  have hentry := config.isEntryOf_iff_namesEntry.mpr h
  exact ⟨hentry, confinesReset_of_isEntryOf hentry⟩

/-- An output root, a directory beside it and an empty configuration file. -/
def sharedWorld : World where
  files :=
    { tree := ⟨[(["out"], .directory), (["etc"], .directory), (["c"], .file [] false)]⟩
      cwd := [] }
  env := [("YUGAWEB_HOME", "h")]

/-- The configuration file of `sharedWorld`. -/
def sharedFile : Path := ⟨.relative, ["c"]⟩

theorem load_sharedWorld :
    ∃ config, (load .here (some sharedFile) [] sharedWorld).1 = .ok config ∧
      config.reports = {} := by
  have hlayers : (lowerLayers .here (some sharedFile) sharedWorld).1 =
      .ok [⟨[], "custom:c"⟩] := by cbv
  have hreports : (ofEntries []).toOption.map Config.reports = some {} := by decide +kernel
  cases hfound : ofEntries [] with
  | error rejection => simp [hfound, Except.toOption] at hreports
  | ok found =>
    refine ⟨_, load_eq_ok.mpr ⟨_, found, hlayers, ?_, rfl⟩, ?_⟩
    · rw [← hfound]
      simp [mergeLayers, merge]
    · simpa [hfound, Except.toOption] using hreports

/-- The built-in report settings confine a reset. -/
theorem load_confines_sharedWorld :
    ∃ config, (load .here (some sharedFile) [] sharedWorld).1 = .ok config ∧
      config.ConfinesReset := by
  obtain ⟨config, hload, hreports⟩ := load_sharedWorld
  obtain ⟨hiff, hname, _⟩ := load_confines_iff hload
  refine ⟨config, hload, (hiff.mpr (hname ?_)).2⟩
  rw [hreports]
  decide +kernel

/-- Report settings that a review would complain about. -/
def upwardReports : ReportSettings := { outputRoot := "/out", directoryName := ".." }

private theorem not_namesEntry_upwardReports : ¬ upwardReports.NamesEntry := by
  rintro ⟨name, hdots, hname⟩
  have hparts : Path.components ".." = [(".." : Text)] := by decide +kernel
  rw [if_pos (by decide +kernel)] at hname
  exact hdots (List.singleton_inj.mp (hparts.symm.trans hname)).symm

/-- The loader takes a double dot for the directory's name, and the reset then takes away the output
root and all that is beside it. -/
theorem load_not_confined :
    ∃ config,
      (load .here (some sharedFile) (withReports [] upwardReports) sharedWorld).1 = .ok config ∧
        ¬ config.reportDir.IsEntryOf config.outputRoot ∧ ¬ config.ConfinesReset ∧
        (Report.reset config.reportDir sharedWorld).2.files.tree.entries = [] := by
  obtain ⟨_, hload, _⟩ := load_sharedWorld
  obtain ⟨config, hload', hreports, _⟩ := load_withReports hload upwardReports
  have hroot : config.outputRoot = ⟨.root, ["out"]⟩ := by
    rw [outputRoot, hreports]
    decide +kernel
  have hdir : config.reportDir = ⟨.root, ["out", ".."]⟩ := by
    rw [reportDir, hroot, hreports]
    decide +kernel
  have hreset : (Report.reset ⟨.root, ["out", ".."]⟩ sharedWorld).2.files.tree.entries = [] := by
    cbv
  refine ⟨config, hload', ?_, fun hconfined => ?_, by rw [hdir, hreset]⟩
  · rw [isEntryOf_iff_namesEntry, hreports]
    exact not_namesEntry_upwardReports
  · have hplace : sharedWorld.files.locate true (⟨.root, ["out"]⟩ : Path).text = .ok ["out"] := by
      cbv
    have hchange : (Report.reset config.reportDir sharedWorld).2.files.tree.get? ["out"] ≠
        sharedWorld.files.tree.get? ["out"] := by
      rw [hdir, Tree.get?, hreset]
      intro hsame
      cases hsame
    obtain ⟨place, hat, hbelow⟩ := hconfined sharedWorld ["out"] hchange
    rw [hroot, hplace] at hat
    obtain rfl := Except.ok.inj hat
    simp [Tree.isBelow] at hbelow

end Config

end ScanLauncher
