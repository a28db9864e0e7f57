import ScanLauncher.Proofs.Config.Conforming

namespace ScanLauncher

namespace Binary64

theorem isNegative_finite (significand : Nat) (exponent : Int) :
    (finite false significand exponent).isNegative = false := by
  have hcompare (num : Nat) : compare (num : Int) 0 ≠ .lt := by
    rw [ne_eq, Int.compare_eq_lt]
    omega
  simp [isNegative, compareInt?, signedRatio?, hcompare]

private theorem isNegative_ofRatio (num den : Nat) : (ofRatio false num den).isNegative = false := by
  have hbounded (rounded : Nat × Int) :
      (if rounded.2 > greatestExponent then infinity false
        else finite false rounded.1 rounded.2).isNegative = false := by
    split
    · rfl
    · exact isNegative_finite _ _
  unfold ofRatio
  split
  · exact isNegative_finite 0 _
  · exact hbounded _

theorem isNegative_ofInt {n : Int} (hn : 0 ≤ n) : (ofInt n).isNegative = false := by
  have hsign : decide (n < 0) = false := decide_eq_false (Int.not_lt.mpr hn)
  rw [ofInt, hsign]
  exact isNegative_ofRatio _ _

end Binary64

namespace Config

variable {data : Entries}

private theorem fits_of_checkData {source : Text} {w : World} {problems : List Problem}
    (hcheck : (checkData source (.map data) w).1 = .ok problems)
    (hunknown : ∀ p ∈ problems, p.isUnknownKey = true) : Fits data := by
  obtain ⟨hsearched, hport, rfl⟩ := searched_of_checkData hcheck
  apply (fits_iff hport).mpr
  intro p hp
  exact hunknown p ((mem_problems_review hsearched hport).mpr hp)

/-- In data that fits, the value of every key is of a kind that the key takes. -/
theorem Fits.accepts (h : Fits data) {key : Key} {value : Value} (hvalue : key.value? data = some value) :
    key.kinds.any (·.accepts value) = true :=
  Key.takes_iff.mpr (h.kinds key value (hasEntry_of_value? hvalue))

/-- A setting is the value that was given for it: a text, a number, the double nearest to a number, or
a program, where null and the empty text stand for none. -/
inductive Setting.IsOf : Value → Setting → Prop
  | text (t : Text) : IsOf (.text t) (.text t)
  | program (t : Text) (h : t.isEmpty = false) : IsOf (.text t) (.program (some (.text t)))
  | emptyProgram (t : Text) (h : t.isEmpty = true) : IsOf (.text t) (.program none)
  | noProgram : IsOf .null (.program none)
  | whole (n : Int) : IsOf (.int n) (.seconds (.real (.ofInt n)))
  | real (x : Binary64) (label : Nat) : IsOf (.float x label) (.seconds (.real x))
  | int (n : Int) : IsOf (.int n) (.int n)

section Accepted

variable {value : Value}

theorem eq_text_of_accepts (h : [SettingKind.text].any (·.accepts value) = true) :
    ∃ t, value = .text t := by
  cases value <;> first | exact ⟨_, rfl⟩ | cases h

theorem eq_int_of_accepts (h : [SettingKind.int].any (·.accepts value) = true) :
    ∃ n, value = .int n := by
  cases value <;> first | exact ⟨_, rfl⟩ | cases h

theorem eq_number_of_accepts
    (h : [SettingKind.int, SettingKind.float].any (·.accepts value) = true) :
    (∃ n, value = .int n) ∨ ∃ x label, value = .float x label := by
  cases value <;> first | exact .inl ⟨_, rfl⟩ | exact .inr ⟨_, _, rfl⟩ | cases h

/-- The double of a whole number, unless it is beyond all doubles. -/
theorem toFloat_int (n : Int) :
    toFloat (.int n) = .ok (.ofInt n) ∨ toFloat (.int n) = .error .tooLarge := by
  unfold toFloat
  simp only
  split
  · exact .inr rfl
  · exact .inl rfl

private theorem Key.kinds_cases (key : Key) :
    key = .interpreter ∨ key.kinds = [.text] ∨ key.kinds = [.int, .float] ∨ key.kinds = [.int] := by
  cases key <;> decide

private theorem Key.isOf_of_accepts {key : Key} {setting : Setting}
    (h : key.kinds.any (·.accepts value) = true) (hsetting : key.convert value = .ok setting) :
    setting.IsOf value := by
  rcases key.kinds_cases with rfl | hkinds | hkinds | hkinds
  · obtain rfl := Except.ok.inj hsetting
    cases value with
    | null => exact .noProgram
    | text t =>
      cases hempty : t.isEmpty with
      | true => simpa [Value.isGiven, hempty] using Setting.IsOf.emptyProgram t hempty
      | false => simpa [Value.isGiven, hempty] using Setting.IsOf.program t hempty
    | _ => cases h
  · rw [hkinds] at h
    obtain ⟨t, rfl⟩ := eq_text_of_accepts h
    rw [convert_text hkinds] at hsetting
    obtain rfl := Except.ok.inj hsetting
    exact .text t
  · rw [hkinds] at h
    rw [convert_seconds hkinds] at hsetting
    obtain ⟨n, rfl⟩ | ⟨x, label, rfl⟩ := eq_number_of_accepts h
    · rcases toFloat_int n with hx | hx
      · rw [hx] at hsetting
        obtain rfl := Except.ok.inj hsetting
        exact .whole n
      · rw [hx] at hsetting
        cases hsetting
    · obtain rfl := Except.ok.inj hsetting
      exact .real x label
  · rw [hkinds] at h
    obtain ⟨n, rfl⟩ := eq_int_of_accepts h
    rw [convert_int hkinds] at hsetting
    obtain rfl := Except.ok.inj hsetting
    exact .int n

end Accepted

section Settings

variable (h : Fits data)

include h

theorem textSetting_of_fits (key : Key) (hkinds : key.kinds = [.text]) (fallback : Text) :
    ∃ t, textSetting (sectionOf data key.place.name) key.name fallback = .ok t := by
  unfold textSetting
  cases hvalue : (sectionOf data key.place.name).field? key.name with
  | none => exact ⟨fallback, rfl⟩
  | some value =>
    obtain ⟨t, rfl⟩ := eq_text_of_accepts (hkinds ▸ h.accepts hvalue)
    exact ⟨t, rfl⟩

theorem intSetting_of_fits (key : Key) (hkinds : key.kinds = [.int]) (fallback : Int) :
    ∃ n, intSetting (sectionOf data key.place.name) key.name fallback = .ok n ∧
      (n = fallback ∨ key.value? data = some (.int n)) := by
  unfold intSetting
  cases hvalue : (sectionOf data key.place.name).field? key.name with
  | none => exact ⟨fallback, rfl, .inl rfl⟩
  | some value =>
    obtain ⟨n, rfl⟩ := eq_int_of_accepts (hkinds ▸ h.accepts hvalue)
    exact ⟨n, rfl, .inr hvalue⟩

/-- A duration is below zero only if the value that was given for it is. -/
theorem secondsSetting_of_fits (key : Key) (hkinds : key.kinds = [.int, .float]) {fallback : Seconds}
    (hfallback : isBelowZero (.real fallback.toBinary64) = false)
    (hwhole : ∀ n, key.value? data = some (.int n) → 0 ≤ n)
    (hreal : ∀ x label, key.value? data = some (.float x label) → x.isNegative = false) :
    secondsSetting (sectionOf data key.place.name) key.name fallback = .error .tooLarge ∨
      ∃ s, secondsSetting (sectionOf data key.place.name) key.name fallback = .ok s ∧
        isBelowZero s = false := by
  unfold secondsSetting
  cases hvalue : (sectionOf data key.place.name).field? key.name with
  | none => exact .inr ⟨_, rfl, hfallback⟩
  | some value =>
    simp only [Option.map_some, Option.getD_some]
    obtain ⟨n, rfl⟩ | ⟨x, label, rfl⟩ := eq_number_of_accepts (hkinds ▸ h.accepts hvalue)
    · rcases toFloat_int n with hx | hx
      · rw [hx]
        exact .inr ⟨_, rfl, Binary64.isNegative_ofInt (hwhole n hvalue)⟩
      · rw [hx]
        exact .inl rfl
    · exact .inr ⟨.real x, rfl, hreal x label hvalue⟩

end Settings

private theorem toolSettings_of_fits (h : Fits data) :
    toolSettings (sectionOf data "tool") = .error .tooLarge ∨
      ∃ tool, toolSettings (sectionOf data "tool") = .ok tool ∧ 0 < tool.chunkSize ∧
        isBelowZero tool.timeout = false := by
  let fallback : ToolSettings := {}
  obtain ⟨executable, hexecutable⟩ :=
    textSetting_of_fits h .executable rfl fallback.executable
  obtain ⟨workingDir, hworkingDir⟩ :=
    textSetting_of_fits h .workingDir rfl fallback.workingDir
  obtain ⟨chunkSize, hchunkSize, hgiven⟩ :=
    intSetting_of_fits h .chunkSize rfl fallback.chunkSize
  have hpositive : 0 < chunkSize := by
    rcases hgiven with rfl | hvalue
    · decide
    · exact h.ranges .chunkSize _ hvalue
  have hbuiltIn : isBelowZero (.real fallback.timeout.toBinary64) = false :=
    Binary64.isNegative_ofInt (n := 3600) (by decide)
  have htimeout :=
    secondsSetting_of_fits h .timeout rfl hbuiltIn (fun n => h.ranges .timeout (.int n))
      fun x label => h.ranges .timeout (.float x label)
  simp only [fallback, Key.place, Key.name, Section.name] at hexecutable hworkingDir hchunkSize htimeout
  simp only [toolSettings, hexecutable, hworkingDir, hchunkSize]
  rcases htimeout with htimeout | ⟨timeout, htimeout, hnotBelow⟩
  · rw [htimeout]
    exact .inl rfl
  · rw [htimeout]
    exact .inr ⟨_, rfl, hpositive, hnotBelow⟩

private theorem serverSettings_of_fits (h : Fits data) :
    serverSettings (sectionOf data "server") = .error .tooLarge ∨
      ∃ server, serverSettings (sectionOf data "server") = .ok server ∧
        isBelowZero server.busyWait = false := by
  let fallback : ServerSettings := {}
  obtain ⟨host, hhost⟩ := textSetting_of_fits h .host rfl fallback.host
  obtain ⟨port, hport, _⟩ := intSetting_of_fits h .port rfl fallback.port
  have hbuiltIn : isBelowZero (.real fallback.busyWait.toBinary64) = false :=
    Binary64.isNegative_ofInt (n := 0) (by decide)
  have hwait :=
    secondsSetting_of_fits h .busyWait rfl hbuiltIn (fun n => h.ranges .busyWait (.int n))
      fun x label => h.ranges .busyWait (.float x label)
  simp only [fallback, Key.place, Key.name, Section.name] at hhost hport hwait
  simp only [serverSettings, hhost, hport]
  rcases hwait with hwait | ⟨busyWait, hwait, hnotBelow⟩
  · rw [hwait]
    exact .inl rfl
  · rw [hwait]
    exact .inr ⟨_, rfl, hnotBelow⟩

private theorem reportSettings_of_fits (h : Fits data) :
    ∃ reports, reportSettings (sectionOf data "reports") = .ok reports := by
  let fallback : ReportSettings := {}
  obtain ⟨outputRoot, houtputRoot⟩ :=
    textSetting_of_fits h .outputRoot rfl fallback.outputRoot
  obtain ⟨directoryName, hdirectoryName⟩ :=
    textSetting_of_fits h .directoryName rfl fallback.directoryName
  simp only [fallback, Key.place, Key.name, Section.name] at houtputRoot hdirectoryName
  simp only [reportSettings, houtputRoot, hdirectoryName]
  exact ⟨_, rfl⟩

private theorem ofEntries_of_fits (h : Fits data) :
    ofEntries data = .error (.number .tooLarge) ∨ ∃ config, ofEntries data = .ok config := by
  obtain ⟨reports, hreports⟩ := reportSettings_of_fits h
  rcases toolSettings_of_fits h with htool | ⟨tool, htool, hpositive, htimeout⟩
  · rw [ofEntries, htool]
    exact .inl rfl
  rcases serverSettings_of_fits h with hserver | ⟨server, hserver, hwait⟩
  · rw [ofEntries, htool, hserver]
    exact .inl rfl
  · rw [ofEntries, htool, hserver, hreports]
    refine .inr ⟨{ tool, server, reports }, ?_⟩
    simp [Except.mapError, bind, Except.bind, Int.not_le.mpr hpositive, htimeout, hwait, pure,
      Except.pure]

/-- What a key of such data is set to. -/
theorem settingAt_of_fits (h : Fits data) {config : Config}
    (hconfig : ofEntries data = .ok config) (key : Key) :
    match key.value? data with
    | some value => (config.settingAt key).IsOf value
    | none => config.settingAt key = key.fallback := by
  have hsetting := setting_of_ofEntries hconfig key
  cases hvalue : key.value? data with
  | none =>
    rw [hvalue] at hsetting
    exact (Except.ok.inj hsetting).symm
  | some value =>
    rw [hvalue] at hsetting
    exact Key.isOf_of_accepts (h.accepts hvalue) hsetting

private theorem port_of_fits (h : Fits data) {config : Config}
    (hconfig : ofEntries data = .ok config) : 0 < config.server.port ∧ config.server.port < 65536 := by
  have hport := settingAt_of_fits h hconfig .port
  rw [settingAt] at hport
  cases hvalue : Key.port.value? data with
  | none =>
    rw [hvalue] at hport
    have hbuiltIn : config.server.port = 8080 := Setting.int.inj hport
    rw [hbuiltIn]
    decide
  | some value =>
    rw [hvalue] at hport
    cases hport
    have hrange : 1 ≤ config.server.port ∧ config.server.port ≤ 65535 := h.ranges .port _ hvalue
    omega

private theorem directoryName_of_fits (h : Fits data) {config : Config}
    (hconfig : ofEntries data = .ok config) : isComponent config.reports.directoryName = true := by
  have hname := settingAt_of_fits h hconfig .directoryName
  rw [settingAt] at hname
  cases hvalue : Key.directoryName.value? data with
  | none =>
    rw [hvalue] at hname
    have hbuiltIn : config.reports.directoryName = "yuga_reports" := Setting.text.inj hname
    rw [hbuiltIn]
    decide
  | some value =>
    rw [hvalue] at hname
    cases hname
    exact isComponent_iff.mpr (h.ranges .directoryName _ hvalue)

/-- The review and the conversion agree. Where a check of some data finds nothing but keys that are
not known, the data is not refused as a configuration; and if it makes one, then every known key that
a section has is set to the value given there, every other one to its built-in value, and the numbers
and the directory's name are in range. -/
theorem reviewed_data_agrees {source : Text} {w : World} {problems : List Problem}
    (hcheck : (checkData source (.map data) w).1 = .ok problems)
    (hunknown : ∀ p ∈ problems, p.isUnknownKey = true) (w' : World) :
    (∀ message, (convert data w').1 ≠ .error (.config message)) ∧
      ∀ config, (convert data w').1 = .ok config →
        (∀ key : Key, match key.value? data with
          | some value => (config.settingAt key).IsOf value
          | none => config.settingAt key = key.fallback) ∧
        0 < config.tool.chunkSize ∧ 0 < config.server.port ∧ config.server.port < 65536 ∧
        isComponent config.reports.directoryName = true := by
  have hfits : Fits data := fits_of_checkData hcheck hunknown
  rcases ofEntries_of_fits hfits with hlarge | ⟨found, hfound⟩
  · have hconvert : (convert data w').1 = .error .tooLarge := by rw [convert, hlarge]; rfl
    rw [hconvert]
    refine ⟨fun message h => ?_, fun config h => ?_⟩
    · cases h
    · cases h
  · have hconvert : (convert data w').1 = .ok found := by rw [convert, hfound]; rfl
    rw [hconvert]
    refine ⟨fun message h => ?_, fun config hconfig => ?_⟩
    · cases h
    · obtain rfl := Except.ok.inj hconfig
      obtain ⟨hlow, hhigh⟩ := port_of_fits hfits hfound
      exact ⟨settingAt_of_fits hfits hfound, (ofEntries_eq_ok hfound).2.2.2.1, hlow, hhigh,
        directoryName_of_fits hfits hfound⟩

/-- A time limit, no interpreter, and a section that is misspelled. -/
def misspelledData : Entries :=
  [(.text "tool", .map [(.text "timeout", .int 60), (.text "interpreter", .text "")]),
    (.text "servers", .map [(.text "port", .int 80)])]

/-- The misspelled section is complained about, and has no effect. -/
theorem reviewed_data_agrees_misspelledData :
    ∃ problems config, (checkData "c" (.map misspelledData) World.bare).1 = .ok problems ∧
      problems.length = 1 ∧ (convert misspelledData World.bare).1 = .ok config ∧
      (config.settingAt .timeout).IsOf (.int 60) ∧ (config.settingAt .interpreter).IsOf (.text "") ∧
      config.settingAt .port = Key.port.fallback := by
  have hflags : (checkData "c" (.map misspelledData) World.bare).1.toOption.map
      (·.map Problem.isUnknownKey) = some [true] := by decide +kernel
  have hmade : (convert misspelledData World.bare).1.toOption.isSome = true := by decide +kernel
  cases hcheck : (checkData "c" (.map misspelledData) World.bare).1 with
  | error failure => simp [hcheck, Except.toOption] at hflags
  | ok problems =>
    cases hconvert : (convert misspelledData World.bare).1 with
    | error failure => simp [hconvert, Except.toOption] at hmade
    | ok config =>
      rw [hcheck] at hflags
      have hflags : problems.map Problem.isUnknownKey = [true] := Option.some.inj hflags
      have hlength : problems.length = 1 := by simpa using congrArg List.length hflags
      have hunknown (p : Problem) (hp : p ∈ problems) : p.isUnknownKey = true := by
        have hflag := List.mem_map_of_mem (f := Problem.isUnknownKey) hp
        rw [hflags] at hflag
        exact List.mem_singleton.mp hflag
      obtain ⟨_, hagrees⟩ := reviewed_data_agrees hcheck hunknown World.bare
      obtain ⟨hkeys, _⟩ := hagrees config hconvert
      exact ⟨problems, config, rfl, hlength, rfl, hkeys .timeout, hkeys .interpreter, hkeys .port⟩

end Config

end ScanLauncher
