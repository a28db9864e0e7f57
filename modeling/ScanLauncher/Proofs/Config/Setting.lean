import ScanLauncher.Config.Convert
import ScanLauncher.Config.Schema
import ScanLauncher.Proofs.Action

namespace ScanLauncher.Config

/-- The keys that are known, in all sections. -/
inductive Key where
  | executable
  | interpreter
  | workingDir
  | timeout
  | chunkSize
  | outputRoot
  | directoryName
  | host
  | port
  | busyWait
deriving DecidableEq, Repr

/-- The setting of a key, of whatever kind it is. -/
inductive Setting where
  | text (t : Text)
  | program (value : Option Value)
  | seconds (s : Seconds)
  | int (n : Int)

/-- The setting of a key in a configuration. -/
def settingAt (config : Config) : Key → Setting
  | .executable => .text config.tool.executable
  | .interpreter => .program config.tool.interpreter
  | .workingDir => .text config.tool.workingDir
  | .timeout => .seconds config.tool.timeout
  | .chunkSize => .int config.tool.chunkSize
  | .outputRoot => .text config.reports.outputRoot
  | .directoryName => .text config.reports.directoryName
  | .host => .text config.server.host
  | .port => .int config.server.port
  | .busyWait => .seconds config.server.busyWait

namespace Key

/-- The section of a key. -/
def place : Key → Section
  | executable | interpreter | workingDir | timeout | chunkSize => .tool
  | outputRoot | directoryName => .reports
  | host | port | busyWait => .server

/-- A key as it is written in its section. -/
def name : Key → Text
  | executable => "executable"
  | interpreter => "interpreter"
  | workingDir => "working_dir"
  | timeout => "timeout"
  | chunkSize => "chunk_size"
  | outputRoot => "output_root"
  | directoryName => "directory_name"
  | host => "host"
  | port => "port"
  | busyWait => "busy_wait"

/-- The kinds of values that a key takes. -/
def kinds : Key → List SettingKind
  | interpreter => [.text, .null]
  | timeout | busyWait => [.int, .float]
  | chunkSize | port => [.int]
  | _ => [.text]

/-- What is made of a value. -/
def convert : Key → Value → Except NumberFault Setting
  | interpreter, value => .ok (.program (if value.isGiven then some value else none))
  | timeout, value | busyWait, value => (toFloat value).map (.seconds ∘ .real)
  | chunkSize, value | port, value => (toInt value).map .int
  | _, value =>
    match value.plain? with
    | some shown => .ok (.text shown)
    | none => .error .longText

/-- The setting where no value is given: the built-in one. A duration is a double all the same. -/
def fallback (key : Key) : Setting :=
  match ({} : Config).settingAt key with
  | .seconds s => .seconds (.real s.toBinary64)
  | setting => setting

/-- The setting that a value or its absence makes. -/
def setting (key : Key) : Option Value → Except NumberFault Setting
  | some value => key.convert value
  | none => .ok key.fallback

/-- The value under a key in some data, where its section is a mapping that has the key. -/
def value? (key : Key) (data : Entries) : Option Value :=
  (Config.sectionOf data key.place.name).field? key.name

/-- The known keys are those of the sections. -/
theorem lookup_settings_iff {s : Section} {name : Text} {kinds : List SettingKind} :
    s.settings.lookup name = some kinds ↔
      ∃ key : Key, key.place = s ∧ key.name = name ∧ key.kinds = kinds := by
  constructor
  · intro h
    obtain ⟨before, behind, hsettings, _⟩ := List.lookup_eq_some_iff.mp h
    have hmem : (name, kinds) ∈ s.settings := by simp [hsettings]
    cases s with
    | tool =>
      simp only [Section.settings, List.mem_cons, List.not_mem_nil, or_false, Prod.mk.injEq] at hmem
      obtain ⟨rfl, rfl⟩ | ⟨rfl, rfl⟩ | ⟨rfl, rfl⟩ | ⟨rfl, rfl⟩ | ⟨rfl, rfl⟩ := hmem
      · exact ⟨executable, rfl, rfl, rfl⟩
      · exact ⟨interpreter, rfl, rfl, rfl⟩
      · exact ⟨workingDir, rfl, rfl, rfl⟩
      · exact ⟨timeout, rfl, rfl, rfl⟩
      · exact ⟨chunkSize, rfl, rfl, rfl⟩
    | reports =>
      simp only [Section.settings, List.mem_cons, List.not_mem_nil, or_false, Prod.mk.injEq] at hmem
      obtain ⟨rfl, rfl⟩ | ⟨rfl, rfl⟩ := hmem
      · exact ⟨outputRoot, rfl, rfl, rfl⟩
      · exact ⟨directoryName, rfl, rfl, rfl⟩
    | server =>
      simp only [Section.settings, List.mem_cons, List.not_mem_nil, or_false, Prod.mk.injEq] at hmem
      obtain ⟨rfl, rfl⟩ | ⟨rfl, rfl⟩ | ⟨rfl, rfl⟩ := hmem
      · exact ⟨host, rfl, rfl, rfl⟩
      · exact ⟨port, rfl, rfl, rfl⟩
      · exact ⟨busyWait, rfl, rfl, rfl⟩
  · rintro ⟨key, rfl, rfl, rfl⟩
    cases key <;> decide

end Key

theorem isComponent_iff {name : Text} :
    isComponent name = true ↔
      name ≠ "" ∧ Glyph.char '/' ∉ name.glyphs ∧ name ≠ "." ∧ name ≠ ".." := by
  simp [isComponent, Text.contains, and_assoc]

/-- What data that makes settings comes to: the settings of its sections, which are in range. -/
theorem ofEntries_eq_ok {data : Entries} {config : Config} (h : ofEntries data = .ok config) :
    toolSettings (sectionOf data "tool") = .ok config.tool ∧
      serverSettings (sectionOf data "server") = .ok config.server ∧
      reportSettings (sectionOf data "reports") = .ok config.reports ∧
      0 < config.tool.chunkSize ∧ isBelowZero config.tool.timeout = false ∧
      isBelowZero config.server.busyWait = false := by
  obtain ⟨tool, htool, h⟩ := Except.exists_of_bind h
  obtain ⟨server, hserver, h⟩ := Except.exists_of_bind h
  split at h
  · cases h
  split at h
  · cases h
  split at h
  · cases h
  rename_i hchunk htimeout hwait
  obtain ⟨reports, hreports, h⟩ := Except.exists_of_bind h
  obtain rfl := Except.ok.inj h
  exact ⟨Except.eq_ok_of_mapError htool, Except.eq_ok_of_mapError hserver,
    Except.eq_ok_of_mapError hreports, Int.not_le.mp hchunk, eq_false_of_ne_true htimeout,
    eq_false_of_ne_true hwait⟩

section Made

variable {entries : Entries} {name : Text}

private theorem textSetting_eq_ok {fallback text : Text} (h : textSetting entries name fallback = .ok text) :
    (entries.field? name = none ∧ text = fallback) ∨
      ∃ value, entries.field? name = some value ∧ value.plain? = some text := by
  unfold textSetting at h
  cases hvalue : entries.field? name with
  | none =>
    rw [hvalue] at h
    exact .inl ⟨rfl, (Except.ok.inj h).symm⟩
  | some value =>
    cases hshown : value.plain? with
    | none => simp [hvalue, hshown] at h
    | some shown =>
      simp only [hvalue, Option.map_some, hshown, Except.ok.injEq] at h
      exact .inr ⟨value, rfl, h ▸ hshown⟩

theorem secondsSetting_eq_ok {fallback s : Seconds} (h : secondsSetting entries name fallback = .ok s) :
    (entries.field? name = none ∧ s = .real fallback.toBinary64) ∨
      ∃ value x, entries.field? name = some value ∧ toFloat value = .ok x ∧ s = .real x := by
  unfold secondsSetting at h
  cases hvalue : entries.field? name with
  | none =>
    rw [hvalue] at h
    exact .inl ⟨rfl, (Except.ok.inj h).symm⟩
  | some value =>
    cases hx : toFloat value with
    | error fault => simp [hvalue, hx, Except.map] at h
    | ok x =>
      simp only [hvalue, Option.map_some, hx, Option.getD_some, Except.map, Except.ok.injEq] at h
      exact .inr ⟨value, x, rfl, hx, h.symm⟩

private theorem intSetting_eq_ok {fallback n : Int} (h : intSetting entries name fallback = .ok n) :
    (entries.field? name = none ∧ n = fallback) ∨
      ∃ value, entries.field? name = some value ∧ toInt value = .ok n := by
  unfold intSetting at h
  cases hvalue : entries.field? name with
  | none =>
    rw [hvalue] at h
    exact .inl ⟨rfl, (Except.ok.inj h).symm⟩
  | some value =>
    rw [hvalue] at h
    exact .inr ⟨value, rfl, h⟩

end Made

theorem toolSettings_eq_ok {entries : Entries} {tool : ToolSettings}
    (h : toolSettings entries = .ok tool) :
    textSetting entries "executable" ({} : ToolSettings).executable = .ok tool.executable ∧
      tool.interpreter = interpreterSetting entries ({} : ToolSettings).interpreter ∧
      textSetting entries "working_dir" ({} : ToolSettings).workingDir = .ok tool.workingDir ∧
      secondsSetting entries "timeout" ({} : ToolSettings).timeout = .ok tool.timeout ∧
      intSetting entries "chunk_size" ({} : ToolSettings).chunkSize = .ok tool.chunkSize := by
  obtain ⟨_, hexecutable, h⟩ := Except.exists_of_bind h
  obtain ⟨_, hworkingDir, h⟩ := Except.exists_of_bind h
  obtain ⟨_, htimeout, h⟩ := Except.exists_of_bind h
  obtain ⟨_, hchunkSize, h⟩ := Except.exists_of_bind h
  obtain rfl := Except.ok.inj h
  exact ⟨hexecutable, rfl, hworkingDir, htimeout, hchunkSize⟩

theorem serverSettings_eq_ok {entries : Entries} {server : ServerSettings}
    (h : serverSettings entries = .ok server) :
    textSetting entries "host" ({} : ServerSettings).host = .ok server.host ∧
      intSetting entries "port" ({} : ServerSettings).port = .ok server.port ∧
      secondsSetting entries "busy_wait" ({} : ServerSettings).busyWait = .ok server.busyWait := by
  obtain ⟨_, hhost, h⟩ := Except.exists_of_bind h
  obtain ⟨_, hport, h⟩ := Except.exists_of_bind h
  obtain ⟨_, hbusyWait, h⟩ := Except.exists_of_bind h
  obtain rfl := Except.ok.inj h
  exact ⟨hhost, hport, hbusyWait⟩

private theorem reportSettings_eq_ok {entries : Entries} {reports : ReportSettings}
    (h : reportSettings entries = .ok reports) :
    textSetting entries "output_root" ({} : ReportSettings).outputRoot = .ok reports.outputRoot ∧
      textSetting entries "directory_name" ({} : ReportSettings).directoryName =
        .ok reports.directoryName := by
  obtain ⟨_, houtputRoot, h⟩ := Except.exists_of_bind h
  obtain ⟨_, hdirectoryName, h⟩ := Except.exists_of_bind h
  obtain rfl := Except.ok.inj h
  exact ⟨houtputRoot, hdirectoryName⟩

namespace Key

variable {key : Key}

theorem convert_text (hkinds : key.kinds = [.text]) (value : Value) :
    key.convert value = match value.plain? with
      | some shown => .ok (.text shown)
      | none => .error .longText := by
  cases key <;> first | rfl | cases hkinds

theorem convert_seconds (hkinds : key.kinds = [.int, .float]) (value : Value) :
    key.convert value = (toFloat value).map (.seconds ∘ .real) := by
  cases key <;> first | rfl | cases hkinds

theorem convert_int (hkinds : key.kinds = [.int]) (value : Value) :
    key.convert value = (toInt value).map .int := by
  cases key <;> first | rfl | cases hkinds

variable {data : Entries}

theorem setting_of_text {fallback text : Text} (hkinds : key.kinds = [.text])
    (hfallback : key.fallback = .text fallback)
    (h : textSetting (sectionOf data key.place.name) key.name fallback = .ok text) :
    key.setting (key.value? data) = .ok (.text text) := by
  rcases textSetting_eq_ok h with ⟨hvalue, rfl⟩ | ⟨value, hvalue, hshown⟩
  · rw [value?, hvalue, setting, hfallback]
  · rw [value?, hvalue, setting, convert_text hkinds, hshown]

theorem setting_of_seconds {fallback s : Seconds} (hkinds : key.kinds = [.int, .float])
    (hfallback : key.fallback = .seconds (.real fallback.toBinary64))
    (h : secondsSetting (sectionOf data key.place.name) key.name fallback = .ok s) :
    key.setting (key.value? data) = .ok (.seconds s) := by
  rcases secondsSetting_eq_ok h with ⟨hvalue, rfl⟩ | ⟨value, x, hvalue, hx, rfl⟩
  · rw [value?, hvalue, setting, hfallback]
  · rw [value?, hvalue, setting, convert_seconds hkinds, hx]
    rfl

theorem setting_of_int {fallback n : Int} (hkinds : key.kinds = [.int])
    (hfallback : key.fallback = .int fallback)
    (h : intSetting (sectionOf data key.place.name) key.name fallback = .ok n) :
    key.setting (key.value? data) = .ok (.int n) := by
  rcases intSetting_eq_ok h with ⟨hvalue, rfl⟩ | ⟨value, hvalue, hn⟩
  · rw [value?, hvalue, setting, hfallback]
  · rw [value?, hvalue, setting, convert_int hkinds, hn]
    rfl

end Key

/-- Every setting that data makes is made of the value under its key. -/
theorem setting_of_ofEntries {data : Entries} {config : Config} (h : ofEntries data = .ok config)
    (key : Key) : key.setting (key.value? data) = .ok (config.settingAt key) := by
  obtain ⟨htool, hserver, hreports, _⟩ := ofEntries_eq_ok h
  obtain ⟨hexecutable, hinterpreter, hworkingDir, htimeout, hchunkSize⟩ := toolSettings_eq_ok htool
  obtain ⟨hhost, hport, hbusyWait⟩ := serverSettings_eq_ok hserver
  obtain ⟨houtputRoot, hdirectoryName⟩ := reportSettings_eq_ok hreports
  cases key with
  | executable => exact Key.setting_of_text rfl rfl hexecutable
  | interpreter =>
    have hvalue : Key.value? .interpreter data = (sectionOf data "tool").field? "interpreter" := rfl
    rw [hvalue, settingAt, hinterpreter, interpreterSetting]
    cases (sectionOf data "tool").field? "interpreter" with
    | none => rfl
    | some value => rfl
  | workingDir => exact Key.setting_of_text rfl rfl hworkingDir
  | timeout => exact Key.setting_of_seconds rfl rfl htimeout
  | chunkSize => exact Key.setting_of_int rfl rfl hchunkSize
  | outputRoot => exact Key.setting_of_text rfl rfl houtputRoot
  | directoryName => exact Key.setting_of_text rfl rfl hdirectoryName
  | host => exact Key.setting_of_text rfl rfl hhost
  | port => exact Key.setting_of_int rfl rfl hport
  | busyWait => exact Key.setting_of_seconds rfl rfl hbusyWait

end ScanLauncher.Config
