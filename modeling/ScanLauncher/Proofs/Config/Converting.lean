import ScanLauncher.Proofs.Cli.ConfigFailure
import ScanLauncher.Proofs.Config.Setting
import ScanLauncher.Proofs.Number.Overflow

namespace ScanLauncher

namespace Binary64

private theorem isZero_or_isPositive {x : Binary64} (hnegative : x.isNegative = false) (hnan : x ≠ .nan) :
    (x.isZero || x.isPositive) = true := by
  cases x with
  | nan => exact absurd rfl hnan
  | infinity negative =>
    cases negative with
    | false => rfl
    | true => cases hnegative
  | finite negative significand exponent =>
    have hcompare : (finite negative significand exponent).compareInt? 0 =
        some (compare (if negative then -((ratio significand exponent).1 : Int)
          else (ratio significand exponent).1) 0) := by
      simp [compareInt?, signedRatio?]
    have hratio : (ratio significand exponent).1 = significand * powerOfTwo exponent.toNat := rfl
    have hpower : 0 < powerOfTwo exponent.toNat := Nat.two_pow_pos _
    by_cases hzero : significand = 0
    · simp [isZero, hzero]
    · have hpositive : 0 < (ratio significand exponent).1 := by
        rw [hratio]
        exact Nat.mul_pos (Nat.pos_of_ne_zero hzero) hpower
      cases negative with
      | true =>
        have hbelow : compare (-((ratio significand exponent).1 : Int)) 0 = .lt := by
          rw [Int.compare_eq_lt]
          omega
        simp [isNegative, hcompare, hbelow] at hnegative
      | false =>
        have habove : compare ((ratio significand exponent).1 : Int) 0 = .gt := by
          rw [Int.compare_eq_gt]
          omega
        simp [isPositive, hcompare, habove]

end Binary64

namespace Seconds

/-- Whether a duration is at least zero; a NaN is not. -/
def isAtLeastZero (s : Seconds) : Bool := s.isZero || s.isPositive

end Seconds

namespace Config

/-- What a computation fails with. -/
def faultOf {α : Type} : Except NumberFault α → Option NumberFault
  | .ok _ => none
  | .error fault => some fault

namespace Key

/-- The keys of the tool, as they are converted. -/
def ofTool : List Key := [.executable, .interpreter, .workingDir, .timeout, .chunkSize]

/-- The keys of the server, as they are converted. -/
def ofServer : List Key := [.host, .port, .busyWait]

/-- The keys of the reports, whose values are converted last. -/
def ofReports : List Key := [.outputRoot, .directoryName]

/-- The keys whose values are converted before any range is checked. -/
def early : List Key := ofTool ++ ofServer

/-- The fault of the value that some data has for a key, if it has one. -/
def fault? (data : Entries) (key : Key) : Option NumberFault :=
  faultOf (key.setting (key.value? data))

/-- The values that are too large for a key: for a duration the integers beyond all doubles, for a
whole number the infinities. -/
def Overflows : Key → Value → Prop
  | timeout, value | busyWait, value =>
    ∃ n : Int, value = .int n ∧ Binary64.overflowBound ≤ n.natAbs
  | chunkSize, value | port, value => ∃ negative label, value = .float (.infinity negative) label
  | _, _ => False

variable {data : Entries} {key : Key}

theorem fault?_text (hkinds : key.kinds = [.text]) (fallback : Text) :
    faultOf (textSetting (sectionOf data key.place.name) key.name fallback) = key.fault? data := by
  unfold fault? value? textSetting
  cases (sectionOf data key.place.name).field? key.name with
  | none => rfl
  | some value =>
    rw [setting, convert_text hkinds]
    cases hshown : value.plain? with
    | none => simp [hshown, faultOf]
    | some shown => simp [hshown, faultOf]

theorem fault?_seconds (hkinds : key.kinds = [.int, .float]) (fallback : Seconds) :
    faultOf (secondsSetting (sectionOf data key.place.name) key.name fallback) =
      key.fault? data := by
  unfold fault? value? secondsSetting
  cases (sectionOf data key.place.name).field? key.name with
  | none => rfl
  | some value =>
    rw [setting, convert_seconds hkinds]
    cases h : toFloat value with
    | error fault => simp [h, faultOf, Except.map]
    | ok x => simp [h, faultOf, Except.map]

theorem fault?_int (hkinds : key.kinds = [.int]) (fallback : Int) :
    faultOf (intSetting (sectionOf data key.place.name) key.name fallback) = key.fault? data := by
  unfold fault? value? intSetting
  cases (sectionOf data key.place.name).field? key.name with
  | none => rfl
  | some value =>
    rw [setting, convert_int hkinds]
    cases h : toInt value with
    | error fault => simp [h, faultOf, Except.map]
    | ok x => simp [h, faultOf, Except.map]

theorem fault?_interpreter : fault? data .interpreter = none := by
  unfold fault?
  cases value? .interpreter data <;> rfl

theorem fault?_of_value {value : Value} (hvalue : key.value? data = some value) :
    key.fault? data = faultOf (key.convert value) := by
  rw [fault?, hvalue, setting]

theorem isSome_fault?_text (hkinds : key.kinds = [.text]) :
    (key.fault? data).isSome = true ↔ ∃ value, key.value? data = some value ∧ value.plain? = none := by
  cases hvalue : key.value? data with
  | none => simp [fault?, hvalue, setting, faultOf]
  | some value =>
    rw [fault?_of_value hvalue, convert_text hkinds]
    cases hshown : value.plain? <;> simp [faultOf, hshown]

end Key

section TooLarge

variable {value : Value}

theorem intOfChars_ne_tooLarge (chars : List Char) (shown : Text) :
    intOfChars chars shown ≠ .error .tooLarge := by
  unfold intOfChars
  cases Numeral.readInt chars <;> exact nofun

theorem floatOfChars_ne_tooLarge (chars : List Char) (shown : Text) :
    floatOfChars chars shown ≠ .error .tooLarge := by
  unfold floatOfChars
  cases Numeral.readFloat? chars <;> exact nofun

private theorem toInt_eq_tooLarge_iff :
    toInt value = .error .tooLarge ↔ ∃ negative label, value = .float (.infinity negative) label := by
  cases value with
  | float x label =>
    cases x with
    | nan => exact ⟨nofun, nofun⟩
    | infinity negative => exact ⟨fun _ => ⟨negative, label, rfl⟩, fun _ => rfl⟩
    | finite negative significand exponent => exact ⟨nofun, nofun⟩
  | text s => exact ⟨fun h => absurd h (intOfChars_ne_tooLarge _ _), nofun⟩
  | bytes content => exact ⟨fun h => absurd h (intOfChars_ne_tooLarge _ _), nofun⟩
  | _ => exact ⟨nofun, nofun⟩

private theorem toFloat_eq_tooLarge_iff :
    toFloat value = .error .tooLarge ↔
      ∃ n : Int, value = .int n ∧ Binary64.overflowBound ≤ n.natAbs := by
  cases value with
  | int n =>
    simp only [Value.int.injEq, exists_eq_left', ← Binary64.ofInt_eq_infinity_iff]
    cases hrounded : Binary64.ofInt n <;> simp [toFloat, hrounded]
  | text s => exact ⟨fun h => absurd h (floatOfChars_ne_tooLarge _ _), nofun⟩
  | bytes content => exact ⟨fun h => absurd h (floatOfChars_ne_tooLarge _ _), nofun⟩
  | _ => exact ⟨nofun, nofun⟩

theorem map_eq_error_iff {ε α β : Type} {f : α → β} {result : Except ε α} {e : ε} :
    result.map f = .error e ↔ result = .error e := by
  cases result <;> simp [Except.map]

/-- The values that a key finds too large are those told. -/
theorem Key.convert_eq_tooLarge_iff {key : Key} :
    key.convert value = .error .tooLarge ↔ key.Overflows value := by
  cases key with
  | timeout | busyWait => exact map_eq_error_iff.trans toFloat_eq_tooLarge_iff
  | chunkSize | port => exact map_eq_error_iff.trans toInt_eq_tooLarge_iff
  | interpreter => exact ⟨nofun, nofun⟩
  | _ =>
    refine ⟨fun h => ?_, nofun⟩
    rw [convert_text rfl] at h
    split at h <;> cases h

end TooLarge

section Faults

variable {α β : Type}

private theorem faultOf_eq_some_iff {result : Except NumberFault α} {fault : NumberFault} :
    faultOf result = some fault ↔ result = .error fault := by
  cases result <;> simp [faultOf]

theorem faultOf_bind {result : Except NumberFault α} {f : α → Except NumberFault β}
    {rest : Option NumberFault} (hrest : ∀ a, faultOf (f a) = rest) :
    faultOf (result >>= f) = (faultOf result).or rest := by
  cases result with
  | error fault => rfl
  | ok a => exact hrest a

end Faults

/-- The fault of the first faulty key. -/
def firstFault? (data : Entries) (keys : List Key) : Option NumberFault :=
  keys.findSome? (Key.fault? data)

section Sections

variable (data : Entries)

theorem firstFault?_cons (key : Key) (keys : List Key) :
    firstFault? data (key :: keys) = (key.fault? data).or (firstFault? data keys) := by
  unfold firstFault?
  rw [List.findSome?_cons]
  cases key.fault? data <;> rfl

private theorem faultOf_toolSettings :
    faultOf (toolSettings (sectionOf data "tool")) =
      firstFault? data Key.ofTool := by
  simp only [Key.ofTool, firstFault?_cons, Key.fault?_interpreter, Option.none_or]
  rw [← @Key.fault?_text data .executable rfl ({} : ToolSettings).executable,
    ← @Key.fault?_text data .workingDir rfl ({} : ToolSettings).workingDir,
    ← @Key.fault?_seconds data .timeout rfl ({} : ToolSettings).timeout,
    ← @Key.fault?_int data .chunkSize rfl ({} : ToolSettings).chunkSize]
  -- What comes of one value does not depend on the values before it, so the faults come one by one.
  apply faultOf_bind
  intro executable
  apply faultOf_bind
  intro workingDir
  apply faultOf_bind
  intro timeout
  apply faultOf_bind
  intro chunkSize
  rfl

private theorem faultOf_serverSettings :
    faultOf (serverSettings (sectionOf data "server")) = firstFault? data Key.ofServer := by
  simp only [Key.ofServer, firstFault?_cons]
  rw [← @Key.fault?_text data .host rfl ({} : ServerSettings).host,
    ← @Key.fault?_int data .port rfl ({} : ServerSettings).port,
    ← @Key.fault?_seconds data .busyWait rfl ({} : ServerSettings).busyWait]
  apply faultOf_bind
  intro host
  apply faultOf_bind
  intro port
  apply faultOf_bind
  intro busyWait
  rfl

private theorem faultOf_reportSettings :
    faultOf (reportSettings (sectionOf data "reports")) =
      firstFault? data Key.ofReports := by
  simp only [Key.ofReports, firstFault?_cons]
  rw [← @Key.fault?_text data .outputRoot rfl ({} : ReportSettings).outputRoot,
    ← @Key.fault?_text data .directoryName rfl ({} : ReportSettings).directoryName]
  apply faultOf_bind
  intro outputRoot
  apply faultOf_bind
  intro directoryName
  rfl

theorem isSome_faultOf_reportSettings :
    (faultOf (reportSettings (sectionOf data "reports"))).isSome = true ↔
      ∃ key ∈ Key.ofReports, ∃ value, key.value? data = some value ∧ value.plain? = none := by
  rw [faultOf_reportSettings, firstFault?, List.findSome?_isSome_iff]
  have hkinds (key : Key) (hkey : key ∈ Key.ofReports) : key.kinds = [.text] := by
    simp only [Key.ofReports, List.mem_cons, List.not_mem_nil, or_false] at hkey
    obtain rfl | rfl := hkey <;> rfl
  exact exists_congr fun key => and_congr_right fun hkey => Key.isSome_fault?_text (hkinds key hkey)

end Sections

/-- The settings that are made before any range is checked. -/
structure Converted (data : Entries) (tool : ToolSettings) (server : ServerSettings) : Prop where
  tool : toolSettings (sectionOf data "tool") = .ok tool
  server : serverSettings (sectionOf data "server") = .ok server

/-- The settings that pass the checks of their ranges. -/
structure Passes (tool : ToolSettings) (server : ServerSettings) : Prop where
  chunkSize : 0 < tool.chunkSize
  timeout : isBelowZero tool.timeout = false
  busyWait : isBelowZero server.busyWait = false

section Outcome

variable {data : Entries} {tool : ToolSettings} {server : ServerSettings}

theorem firstFault?_early : firstFault? data Key.early =
    (faultOf (toolSettings (sectionOf data "tool"))).or
      (faultOf (serverSettings (sectionOf data "server"))) := by
  rw [faultOf_toolSettings, faultOf_serverSettings]
  exact List.findSome?_append

/-- A faulty key rejects the data; where there is none, tool and server have their settings. -/
theorem fault_or_converted (data : Entries) :
    (∃ fault, firstFault? data Key.early = some fault ∧
      ofEntries data = .error (.number fault)) ∨
    firstFault? data Key.early = none ∧ ∃ tool server, Converted data tool server := by
  rw [firstFault?_early]
  unfold ofEntries
  cases htool : toolSettings (sectionOf data "tool") with
  | error fault => exact .inl ⟨fault, rfl, rfl⟩
  | ok tool =>
    cases hserver : serverSettings (sectionOf data "server") with
    | error fault => exact .inl ⟨fault, rfl, rfl⟩
    | ok server => exact .inr ⟨rfl, tool, server, htool, hserver⟩

section Converted

variable (h : Converted data tool server)
include h

theorem Converted.ofEntries_chunkSize (hrange : tool.chunkSize ≤ 0) :
    ofEntries data = .error (.chunkSize tool.chunkSize) := by
  simp only [ofEntries, h.tool, h.server, Except.mapError, bind, Except.bind, if_pos hrange]

theorem Converted.ofEntries_passes (hpasses : Passes tool server) :
    ofEntries data = match reportSettings (sectionOf data "reports") with
      | .ok reports => .ok { tool, server, reports }
      | .error _ => .error .reports := by
  simp only [ofEntries, h.tool, h.server, Except.mapError, bind, Except.bind,
    if_neg (Int.not_le.mpr hpasses.chunkSize), hpasses.timeout, hpasses.busyWait,
    Bool.false_eq_true, if_false]
  cases reportSettings (sectionOf data "reports") <;> rfl

private theorem Converted.refused_or_passes :
    tool.chunkSize ≤ 0 ∨ ofEntries data = .error (.timeout tool.timeout) ∨
      ofEntries data = .error (.busyWait server.busyWait) ∨ Passes tool server := by
  by_cases hchunk : tool.chunkSize ≤ 0
  · exact .inl hchunk
  simp only [ofEntries, h.tool, h.server, Except.mapError, bind, Except.bind, if_neg hchunk]
  cases htimeout : isBelowZero tool.timeout with
  | true => exact .inr (.inl rfl)
  | false =>
    cases hwait : isBelowZero server.busyWait with
    | true => exact .inr (.inr (.inl rfl))
    | false => exact .inr (.inr (.inr ⟨Int.not_le.mp hchunk, htimeout, hwait⟩))

end Converted

end Outcome

/-- The settings are in their ranges. -/
structure IsInRange (config : Config) : Prop where
  chunkSize : 1 ≤ config.tool.chunkSize
  timeout : config.tool.timeout.isAtLeastZero = true
  busyWait : config.server.busyWait.isAtLeastZero = true

/-- Data is converted to settings that are in range, or refused as a faulty configuration. -/
def IsProper (result : Except Failure Config) : Prop :=
  (∃ config, result = .ok config ∧ config.IsInRange) ∨ ∃ message, result = .error (.config message)

/-- The slips of a conversion. -/
inductive Slip (data : Entries) : Except Failure Config → Prop where
  /-- The first faulty value is too large for its key. -/
  | overflow {before behind : List Key} {key : Key} {value : Value}
      (hkeys : Key.early = before ++ key :: behind) (hbefore : ∀ k ∈ before, k.fault? data = none)
      (hvalue : key.value? data = some value) (hoverflow : key.Overflows value) :
      Slip data (.error .tooLarge)
  /-- The chunk size is out of range, and too long to be shown. -/
  | longChunkSize {tool : ToolSettings} {server : ServerSettings} (h : Converted data tool server)
      (hrange : tool.chunkSize ≤ 0)
      (hlong : powerOfTen Numeral.digitLimit ≤ tool.chunkSize.natAbs) :
      Slip data (.error .longNumber)
  /-- A report setting holds an integer that is too long to be shown. -/
  | longReports {tool : ToolSettings} {server : ServerSettings} {key : Key} {value : Value}
      (h : Converted data tool server) (hpasses : Passes tool server) (hkey : key ∈ Key.ofReports)
      (hvalue : key.value? data = some value) (hlong : value.plain? = none) :
      Slip data (.error .longNumber)
  /-- A duration is a NaN, which is below nothing. -/
  | nan {tool : ToolSettings} {server : ServerSettings} {reports : ReportSettings}
      (h : Converted data tool server) (hpasses : Passes tool server)
      (hreports : reportSettings (sectionOf data "reports") = .ok reports)
      (hnan : tool.timeout = .real .nan ∨ server.busyWait = .real .nan) :
      Slip data (.ok { tool, server, reports })

section Slips

variable {data : Entries} {result : Except Failure Config}

theorem convert_apply (data : Entries) (w : World) :
    convert data w = ((ofEntries data).mapError Rejection.failure, w) := by
  unfold convert
  cases ofEntries data <;> rfl

theorem Slip.not_isProper (h : Slip data result) : ¬ IsProper result := by
  -- A NaN is all that is let through; the other slips are failures of another kind.
  rintro (⟨config, rfl, hrange⟩ | ⟨message, rfl⟩)
  · cases h with
    | nan h hpasses hreports hnan =>
      rcases hnan with hnan | hnan
      · have htimeout := hrange.timeout
        rw [hnan] at htimeout
        cases htimeout
      · have hwait := hrange.busyWait
        rw [hnan] at hwait
        cases hwait
  · cases h

/-- Data that slips comes to what its slip says. -/
theorem Slip.mapError_ofEntries (h : Slip data result) :
    (ofEntries data).mapError Rejection.failure = result := by
  cases h with
  | overflow hkeys hbefore hvalue hoverflow =>
    have hfault : firstFault? data Key.early = some .tooLarge := by
      rw [firstFault?, List.findSome?_eq_some_iff]
      refine ⟨_, _, _, hkeys, ?_, hbefore⟩
      rw [Key.fault?_of_value hvalue, Key.convert_eq_tooLarge_iff.mpr hoverflow, faultOf]
    rcases fault_or_converted data with ⟨fault, hfirst, hresult⟩ | ⟨hnone, _⟩
    · rw [hfault] at hfirst
      obtain rfl := Option.some.inj hfirst
      rw [hresult]
      rfl
    · rw [hfault] at hnone
      cases hnone
  | @longChunkSize tool server h hrange hlong =>
    rw [h.ofEntries_chunkSize hrange]
    rcases failure_chunkSize tool.chunkSize with ⟨shown, hshown, _⟩ | ⟨_, hfailure⟩
    · rw [Numeral.ofInt?, if_neg (Nat.not_lt.mpr hlong)] at hshown
      cases hshown
    · exact congrArg Except.error hfailure
  | longReports h hpasses hkey hvalue hlong =>
    have hfailed := (isSome_faultOf_reportSettings data).mpr ⟨_, hkey, _, hvalue, hlong⟩
    rw [h.ofEntries_passes hpasses]
    cases hreports : reportSettings (sectionOf data "reports") with
    | error fault => rfl
    | ok reports =>
      rw [hreports] at hfailed
      cases hfailed
  | nan h hpasses hreports hnan =>
    rw [h.ofEntries_passes hpasses, hreports]
    rfl

theorem isAtLeastZero_of_secondsSetting {entries : Entries} {name : Text} {fallback s : Seconds}
    (h : secondsSetting entries name fallback = .ok s) (hrange : isBelowZero s = false)
    (hnan : s ≠ .real .nan) : s.isAtLeastZero = true := by
  obtain ⟨x, rfl⟩ : ∃ x, s = .real x := by
    rcases secondsSetting_eq_ok h with ⟨_, hs⟩ | ⟨_, x, _, _, hs⟩
    · exact ⟨_, hs⟩
    · exact ⟨x, hs⟩
  exact Binary64.isZero_or_isPositive hrange fun hx => hnan (congrArg _ hx)

private theorem Converted.isInRange {tool : ToolSettings} {server : ServerSettings}
    (h : Converted data tool server) (hpasses : Passes tool server)
    (htimeout : tool.timeout ≠ .real .nan) (hwait : server.busyWait ≠ .real .nan)
    (reports : ReportSettings) : IsInRange { tool, server, reports } := by
  obtain ⟨_, _, _, hseconds, _⟩ := toolSettings_eq_ok h.tool
  obtain ⟨_, _, hwaiting⟩ := serverSettings_eq_ok h.server
  exact ⟨hpasses.chunkSize, isAtLeastZero_of_secondsSetting hseconds hpasses.timeout htimeout,
    isAtLeastZero_of_secondsSetting hwaiting hpasses.busyWait hwait⟩

private theorem isProper_or_slip_of_fault {fault : NumberFault}
    (hfirst : firstFault? data Key.early = some fault) :
    IsProper (.error (Rejection.number fault).failure) ∨
      Slip data (.error (Rejection.number fault).failure) := by
  obtain ⟨before, key, behind, hkeys, hfault, hbefore⟩ := List.findSome?_eq_some_iff.mp hfirst
  cases fault with
  | tooLarge =>
    cases hvalue : key.value? data with
    | none => simp [Key.fault?, hvalue, Key.setting, faultOf] at hfault
    | some value =>
      rw [Key.fault?_of_value hvalue, faultOf_eq_some_iff, Key.convert_eq_tooLarge_iff] at hfault
      exact .inr (.overflow hkeys hbefore hvalue hfault)
  | _ => exact .inl (.inr ⟨_, rfl⟩)

private theorem isProper_or_slip_of_passes {tool : ToolSettings} {server : ServerSettings}
    (h : Converted data tool server) (hpasses : Passes tool server) :
    IsProper ((ofEntries data).mapError Rejection.failure) ∨
      Slip data ((ofEntries data).mapError Rejection.failure) := by
  rw [h.ofEntries_passes hpasses]
  cases hreports : reportSettings (sectionOf data "reports") with
  | error fault =>
    have hfailed : (faultOf (reportSettings (sectionOf data "reports"))).isSome = true := by
      rw [hreports]
      rfl
    obtain ⟨key, hkey, value, hvalue, hlong⟩ := (isSome_faultOf_reportSettings data).mp hfailed
    exact .inr (.longReports h hpasses hkey hvalue hlong)
  | ok reports =>
    by_cases htimeout : tool.timeout = .real .nan
    · exact .inr (.nan h hpasses hreports (.inl htimeout))
    by_cases hwait : server.busyWait = .real .nan
    · exact .inr (.nan h hpasses hreports (.inr hwait))
    exact .inl (.inl ⟨_, rfl, h.isInRange hpasses htimeout hwait reports⟩)

private theorem isProper_or_slip (data : Entries) :
    IsProper ((ofEntries data).mapError Rejection.failure) ∨
      Slip data ((ofEntries data).mapError Rejection.failure) := by
  -- The cases are in the order of the conversion: early keys, ranges, and the report settings.
  rcases fault_or_converted data with ⟨fault, hfirst, hresult⟩ | ⟨_, tool, server, h⟩
  · rw [hresult]
    exact isProper_or_slip_of_fault hfirst
  rcases h.refused_or_passes with hrange | hrefused | hrefused | hpasses
  · rw [h.ofEntries_chunkSize hrange, Except.mapError]
    rcases failure_chunkSize tool.chunkSize with ⟨_, _, message, hconfig⟩ | ⟨hlong, hfailure⟩
    · exact .inl (.inr ⟨message, congrArg _ hconfig⟩)
    · rw [hfailure]
      refine .inr (.longChunkSize h hrange ?_)
      unfold Numeral.ofInt? at hlong
      split at hlong
      · cases hlong
      · omega
  · rw [hrefused]
    exact .inl (.inr ⟨_, rfl⟩)
  · rw [hrefused]
    exact .inl (.inr ⟨_, rfl⟩)
  · exact isProper_or_slip_of_passes h hpasses

end Slips

/-- Any data is converted to settings in range or refused as a faulty configuration, unless it
slips; and then it comes to what the slip says. -/
theorem converts_properly_iff (data : Entries) (w : World) :
    ∃ result, convert data w = (result, w) ∧
      (IsProper result ↔ ∀ other, ¬ Slip data other) ∧ ∀ other, Slip data other → result = other := by
  refine ⟨_, convert_apply data w, ⟨fun hproper other hslip => ?_, fun hnone => ?_⟩,
    fun other hslip => hslip.mapError_ofEntries⟩
  · rw [hslip.mapError_ofEntries] at hproper
    exact hslip.not_isProper hproper
  · exact (isProper_or_slip data).resolve_right (hnone _)

/-- Data with one value in the section of the tool. -/
def toolData (name : Text) (value : Value) : Entries := [(.text "tool", .map [(.text name, value)])]

/-- Not all data is converted properly: an infinite chunk size is an overflow, and a timeout that is
a NaN is kept. -/
theorem convert_not_proper :
    (∀ w, (convert (toolData "chunk_size" (.float (.infinity false) 0)) w).1 = .error .tooLarge) ∧
      (∀ w, ∃ config, (convert (toolData "timeout" (.float .nan 0)) w).1 = .ok config ∧
        config.tool.timeout = .real .nan) ∧
      ¬ ∀ data w, IsProper (convert data w).1 := by
  have hinfinite : Slip (toolData "chunk_size" (.float (.infinity false) 0)) (.error .tooLarge) := by
    have hkeys : Key.early = [Key.executable, Key.interpreter, Key.workingDir, Key.timeout] ++
        Key.chunkSize :: Key.ofServer := rfl
    have hvalue : Key.value? .chunkSize (toolData "chunk_size" (.float (.infinity false) 0)) =
        some (.float (.infinity false) 0) := by cbv
    refine .overflow hkeys ?_ hvalue ⟨false, 0, rfl⟩
    intro key hkey
    simp only [List.mem_cons, List.not_mem_nil, or_false] at hkey
    obtain rfl | rfl | rfl | rfl := hkey <;> rfl
  have hnan : Slip (toolData "timeout" (.float .nan 0))
      (.ok { tool := { timeout := .real .nan }, server := { busyWait := .real (.ofInt 0) } }) := by
    have hwait : isBelowZero (.real (.ofInt 0)) = false := by decide +kernel
    exact .nan ⟨rfl, rfl⟩ ⟨by decide, rfl, hwait⟩ rfl (.inl rfl)
  refine ⟨fun w => ?_, fun w => ?_, fun h => hinfinite.not_isProper ?_⟩
  · rw [convert_apply, hinfinite.mapError_ofEntries]
  · rw [convert_apply, hnan.mapError_ofEntries]
    exact ⟨_, rfl, rfl⟩
  · have hproper := h (toolData "chunk_size" (.float (.infinity false) 0))
      { files := { tree := ⟨[]⟩, cwd := [] } }
    rwa [convert_apply, hinfinite.mapError_ofEntries] at hproper

end Config

end ScanLauncher
