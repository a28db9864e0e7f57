import ScanLauncher.Cli.Program
import ScanLauncher.Proofs.Config.Reading

namespace ScanLauncher

/-- The configuration is at fault. -/
def Failure.IsConfig (failure : Failure) : Prop := ∃ message, failure = .config message

namespace Config

section Files

variable (files : FileSystem) (env : Environment) (root : Path) (custom : Option Path)
  (overrides : Entries)

/-- The ways in which a load fails although the configuration is not at fault. -/
inductive Escape : Failure → Prop where
  /-- Nobody knows where the user's own file would be. -/
  | homeless (h : env.settingsHome? = none) : Escape (.misuse .homeUnknown)
  /-- The system does not tell whether the user's own file is there. -/
  | globalUnseen {home : Path} {e : Errno} (hhome : env.settingsHome? = some home)
      (h : files.exists? (globalPath home).text = .error e) :
      Escape (.os (.about e (globalPath home).text))
  /-- The user's own file is there, and its trouble is none of those that are only noted. -/
  | globalFile {home : Path} {failure : Failure} (hhome : env.settingsHome? = some home)
      (hthere : files.exists? (globalPath home).text = .ok true)
      (h : FileReading files env (globalPath home) (.error failure))
      (htrouble : globalTrouble? failure = none) : Escape failure
  /-- The system does not tell whether the chosen file is there. -/
  | chosenUnseen {own : Option Entries} {error : OsError} (hown : GlobalReading files env (.ok own))
      (h : Choice files root custom (.error (.os error))) : Escape (.os error)
  /-- The chosen file is there, but cannot be read for another reason than that it is no YAML or
  holds no mapping. -/
  | chosenFile {own : Option Entries} {path : Path} {failure : Failure}
      (hown : GlobalReading files env (.ok own)) (hpath : Choice files root custom (.ok (some path)))
      (h : FileReading files env path (.error failure)) (hmalformed : failure ≠ .document .malformed)
      (hother : ¬ failure.IsConfig) : Escape failure
  /-- A number is too large for its setting. -/
  | largeNumber {own file : Option Entries} (hown : GlobalReading files env (.ok own))
      (hfile : ChosenReading files env root custom (.ok file))
      (h : ofEntries (layered own file overrides) = .error (.number .tooLarge)) : Escape .tooLarge
  /-- A chunk size is out of range, and too long to be shown. -/
  | longChunkSize {own file : Option Entries} {n : Int} (hown : GlobalReading files env (.ok own))
      (hfile : ChosenReading files env root custom (.ok file))
      (h : ofEntries (layered own file overrides) = .error (.chunkSize n))
      (hlong : Numeral.ofInt? n = none) : Escape .longNumber
  /-- A text of the report settings is an integer that is too long to be shown. -/
  | longReports {own file : Option Entries} (hown : GlobalReading files env (.ok own))
      (hfile : ChosenReading files env root custom (.ok file))
      (h : ofEntries (layered own file overrides) = .error .reports) : Escape .longNumber

end Files

section Escaping

variable {files : FileSystem} {env : Environment} {root : Path} {custom : Option Path}
  {overrides : Entries} {failure : Failure}

private theorem exists_os_of_firstExisting {paths : List Path} {result : Except Failure (Option Path)}
    (h : FirstExisting files paths result) (hfailure : result = .error failure) :
    ∃ error, failure = .os error := by
  induction h with
  | none => cases hfailure
  | here h => cases hfailure
  | unseen h => exact ⟨_, (Except.error.inj hfailure).symm⟩
  | later h _ ih => exact ih hfailure

private theorem isConfig_or_os_of_choice (h : Choice files root custom (.error failure)) :
    failure.IsConfig ∨ ∃ error, failure = .os error := by
  cases h with
  | notFound h => exact .inl ⟨_, rfl⟩
  | unseen h => exact .inr ⟨_, rfl⟩
  | project h => exact .inr (exists_os_of_firstExisting h rfl)

/-- A chunk size that is out of range is a fault of the configuration, if it can be shown. -/
theorem failure_chunkSize (n : Int) :
    (∃ shown, Numeral.ofInt? n = some shown ∧ (Rejection.failure (.chunkSize n)).IsConfig) ∨
      Numeral.ofInt? n = none ∧ Rejection.failure (.chunkSize n) = .longNumber := by
  -- The limit on digits must not be evaluated, so the rejection is not put in place at once.
  generalize hrejection : Rejection.chunkSize n = rejection
  unfold Rejection.failure
  split
  case h_3 m =>
    obtain rfl := Rejection.chunkSize.inj hrejection
    cases hshown : Numeral.ofInt? n with
    | some shown => exact .inl ⟨shown, rfl, _, rfl⟩
    | none => exact .inr ⟨rfl, rfl⟩
  all_goals cases hrejection

private theorem not_isConfig_of_trouble (h : globalTrouble? failure = none) : ¬ failure.IsConfig := by
  rintro ⟨message, rfl⟩
  cases h

private theorem escape_of_loading (h : Loading files env root custom overrides (.error failure))
    (hother : ¬ failure.IsConfig) : Escape files env root custom overrides failure := by
  cases h with
  | globalFailed h =>
    cases h with
    | homeless h => exact .homeless h
    | unseen hhome h => exact .globalUnseen hhome h
    | failed hhome hthere h htrouble => exact .globalFile hhome hthere h htrouble
  | chosenFailed hown h =>
    cases h with
    | notChosen h =>
      rcases isConfig_or_os_of_choice h with hconfig | ⟨error, rfl⟩
      · exact absurd hconfig hother
      · exact .chosenUnseen hown h
    | malformed hpath h => exact absurd ⟨_, rfl⟩ hother
    | failed hpath h hmalformed => exact .chosenFile hown hpath h hmalformed hother
  | @rejected own file rejection hown hfile h =>
    cases rejection with
    | number fault =>
      cases fault with
      | tooLarge => exact .largeNumber hown hfile h
      | _ => exact absurd ⟨_, rfl⟩ hother
    | chunkSize n =>
      rcases failure_chunkSize n with ⟨_, _, hconfig⟩ | ⟨hlong, hfailure⟩
      · exact absurd hconfig hother
      · rw [hfailure]
        exact .longChunkSize hown hfile h hlong
    | timeout s => exact absurd ⟨_, rfl⟩ hother
    | busyWait s => exact absurd ⟨_, rfl⟩ hother
    | reports => exact .longReports hown hfile h

/-- What escapes is a failure of the load, and not of the configuration. -/
theorem loading_of_escape (h : Escape files env root custom overrides failure) :
    Loading files env root custom overrides (.error failure) ∧ ¬ failure.IsConfig := by
  cases h with
  | homeless h => exact ⟨.globalFailed (.homeless h), nofun⟩
  | globalUnseen hhome h => exact ⟨.globalFailed (.unseen hhome h), nofun⟩
  | globalFile hhome hthere h htrouble =>
    exact ⟨.globalFailed (.failed hhome hthere h htrouble), not_isConfig_of_trouble htrouble⟩
  | chosenUnseen hown h => exact ⟨.chosenFailed hown (.notChosen h), nofun⟩
  | chosenFile hown hpath h hmalformed hother =>
    exact ⟨.chosenFailed hown (.failed hpath h hmalformed), hother⟩
  | largeNumber hown hfile h => exact ⟨.rejected hown hfile h, nofun⟩
  | @longChunkSize own file n hown hfile h hlong =>
    have hfailed := Loading.rejected hown hfile h
    rcases failure_chunkSize n with ⟨shown, hshown, _⟩ | ⟨_, hfailure⟩
    · rw [hlong] at hshown
      cases hshown
    · rw [hfailure] at hfailed
      exact ⟨hfailed, nofun⟩
  | longReports hown hfile h => exact ⟨.rejected hown hfile h, nofun⟩

end Escaping

end Config

namespace Cli

open Config

private theorem loadConfig_of_config {root : Path} {arguments : Arguments} {w : World} {message : Text}
    (hload : (load root arguments.configPath arguments.overrides w).1 = .error (.config message)) :
    (loadConfig root arguments w).1 = .ok none := by
  simp only [loadConfig, Act.bind_apply, Act.attempt_apply, hload]
  rfl

private theorem loadConfig_of_other {root : Path} {arguments : Arguments} {w : World} {failure : Failure}
    (hload : (load root arguments.configPath arguments.overrides w).1 = .error failure)
    (hother : ¬ failure.IsConfig) : (loadConfig root arguments w).1 = .error failure := by
  simp only [loadConfig, Act.bind_apply, Act.attempt_apply, hload]
  cases failure with
  | config message => exact absurd ⟨message, rfl⟩ hother
  | _ => rfl

section Run

variable {line : List Text} {arguments : Arguments} {command : Command} {w : World}

/-- A command that needs a configuration goes no further than to load it, where none is loaded. -/
theorem run_of_loadConfig (hread : Arguments.read line = .ok arguments)
    (hversion : arguments.version = false) (hcommand : arguments.command = some command)
    (hneeds : command.needsConfig = true) (terminal : Terminal)
    {result : Except Failure (Option Config)} (hloaded : (loadConfig w.files.currentPath arguments w).1 = result)
    (hnone : ∀ config, result ≠ .ok (some config)) :
    (run line terminal w).1.1 = result.map fun _ => .invalidUsage := by
  rw [run, hread]
  simp only [obey, hversion, hcommand, hneeds, ActOn.bind_apply, ActOn.modify_apply,
    ActOn.lift_apply, Act.get_apply, Bool.false_eq_true, if_false, if_true, hloaded]
  cases result with
  | error failure => rfl
  | ok loaded =>
    cases loaded with
    | none => rfl
    | some config => exact absurd rfl (hnone config)

end Run

/-- A load gives a configuration or finds it at fault, unless it escapes; and where it escapes, it
fails in that way. A command that needs a configuration is answered as invalid usage where the
configuration is at fault, and fails itself where the load escapes. -/
theorem only_config_failures_iff (root : Path) (custom : Option Path) (overrides : Entries)
    (w : World) :
    ((∃ config, (load root custom overrides w).1 = .ok config) ∨
        (∃ message, (load root custom overrides w).1 = .error (.config message)) ↔
      ∀ failure, ¬ Escape w.files w.env root custom overrides failure) ∧
    (∀ failure, Escape w.files w.env root custom overrides failure →
      (load root custom overrides w).1 = .error failure) ∧
    ∀ line arguments command terminal, Arguments.read line = .ok arguments →
      arguments.version = false → arguments.command = some command → command.needsConfig = true →
      w.files.currentPath = root → arguments.configPath = custom → arguments.overrides = overrides →
      (∀ message, (load root custom overrides w).1 = .error (.config message) →
        (run line terminal w).1.1 = .ok .invalidUsage) ∧
      ∀ failure, Escape w.files w.env root custom overrides failure →
        (run line terminal w).1.1 = .error failure := by
  have hfails (failure : Failure) (h : Escape w.files w.env root custom overrides failure) :
      (load root custom overrides w).1 = .error failure :=
    load_eq_error_iff.mpr (loading_of_escape h).1
  refine ⟨⟨fun h failure hescape => ?_, fun h => ?_⟩, hfails, ?_⟩
  · have hload := hfails failure hescape
    rcases h with ⟨config, hok⟩ | ⟨message, hconfig⟩
    · rw [hload] at hok
      cases hok
    · rw [hload] at hconfig
      exact (loading_of_escape hescape).2 ⟨message, Except.error.inj hconfig⟩
  · cases hload : (load root custom overrides w).1 with
    | ok config => exact .inl ⟨config, rfl⟩
    | error failure =>
      by_cases hconfig : failure.IsConfig
      · obtain ⟨message, rfl⟩ := hconfig
        exact .inr ⟨message, rfl⟩
      · exact absurd (escape_of_loading (load_eq_error_iff.mp hload) hconfig) (h failure)
  · rintro line arguments command terminal hread hversion hcommand hneeds rfl rfl rfl
    refine ⟨fun message hload => ?_, fun failure hescape => ?_⟩
    · exact run_of_loadConfig hread hversion hcommand hneeds terminal (loadConfig_of_config hload)
        fun _ hsome => by cases hsome
    · have hfailed := loadConfig_of_other (hfails failure hescape) (loading_of_escape hescape).2
      exact run_of_loadConfig hread hversion hcommand hneeds terminal hfailed
        fun _ hsome => by cases hsome

/-- A world in which the configuration file is a directory. -/
def directoryWorld : World where
  files := { tree := ⟨[(["c.yml"], .directory)]⟩, cwd := [] }
  env := [("YUGAWEB_HOME", "h")]

/-- The path of the directory. -/
def directoryPath : Path := ⟨.relative, ["c.yml"]⟩

theorem escape_directoryWorld (root : Path) (overrides : Entries) :
    Escape directoryWorld.files directoryWorld.env root (some directoryPath) overrides
      (.os (.about .isDirectory directoryPath.text)) := by
  have hhome : directoryWorld.env.settingsHome? = some ⟨.relative, ["h"]⟩ := by decide +kernel
  have htext : (globalPath ⟨.relative, ["h"]⟩).text = "h/config.yml" := by decide +kernel
  have hmissing : directoryWorld.files.exists? (globalPath ⟨.relative, ["h"]⟩).text = .ok false := by
    rw [htext]
    cbv
  have hthere : directoryWorld.files.exists? directoryPath.text = .ok true := by cbv
  have hread : directoryWorld.files.read directoryPath.text = .error (.errno .isDirectory) := by cbv
  refine .chosenFile (.missing hhome hmissing) (.named hthere) (.unreadable hread) ?_ ?_
  · intro h
    cases h
  · rintro ⟨message, h⟩
    cases h

/-- Not every failure of a load is a fault of the configuration: a directory cannot be read. -/
theorem load_directory_not_config :
    ¬ ∀ root custom overrides w, (∃ config, (load root custom overrides w).1 = .ok config) ∨
      ∃ message, (load root custom overrides w).1 = .error (.config message) := by
  intro h
  have hload := load_eq_error_iff.mpr (loading_of_escape (escape_directoryWorld .here [])).1
  rcases h .here (some directoryPath) [] directoryWorld with ⟨config, hok⟩ | ⟨message, hconfig⟩
  · rw [hload] at hok
    cases hok
  · rw [hload] at hconfig
    cases hconfig

/-- A command line that names the directory. -/
def directoryLine : List Text := ["status", "--config", "c.yml"]

/-- The program fails on a directory. -/
theorem only_config_failures_iff_directory :
    (∃ arguments, Arguments.read directoryLine = .ok arguments ∧
      arguments.configPath = some directoryPath) ∧
    (run directoryLine {} directoryWorld).1.1 =
      .error (.os (.about .isDirectory directoryPath.text)) := by
  have hread : (Arguments.read directoryLine).toOption.map (fun arguments =>
      (arguments.version, arguments.command, arguments.text? "config")) =
        some (false, some Command.status, some (Text.ofString "c.yml")) := by decide +kernel
  have hpath : Path.ofText "c.yml" = directoryPath := by decide +kernel
  cases harguments : Arguments.read directoryLine with
  | error refusal => simp [harguments, Except.toOption] at hread
  | ok arguments =>
    simp only [harguments, Except.toOption, Option.map_some, Option.some.injEq,
      Prod.mk.injEq] at hread
    obtain ⟨hversion, hcommand, hconfig⟩ := hread
    have hcustom : arguments.configPath = some directoryPath := by
      rw [Arguments.configPath, hconfig, Option.map_some, hpath]
    refine ⟨⟨arguments, rfl, hcustom⟩, ?_⟩
    obtain ⟨_, _, hrun⟩ := only_config_failures_iff directoryWorld.files.currentPath
      (some directoryPath) arguments.overrides directoryWorld
    exact (hrun directoryLine arguments .status {} harguments hversion hcommand rfl rfl hcustom rfl).2
      _ (escape_directoryWorld _ _)

end Cli

end ScanLauncher
