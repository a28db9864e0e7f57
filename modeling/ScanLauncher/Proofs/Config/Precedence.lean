import Mathlib.Data.List.Induction
import ScanLauncher.Cli.Usage
import ScanLauncher.Proofs.Config.Reading
import ScanLauncher.Proofs.Config.Setting
import ScanLauncher.Proofs.Yaml.Tidy

namespace ScanLauncher

namespace Config

/-- What a layer says about a key. -/
inductive Verdict where
  /-- The layer has no such section, or no such key in it. -/
  | silent
  /-- The layer has something else than a mapping in place of the section. -/
  | reset
  | value (v : Value)
deriving Repr

/-- What some data says about a key. -/
def Key.verdict (key : Key) (data : Entries) : Verdict :=
  match data.field? key.place.name with
  | none => .silent
  | some (.map entries) =>
    match Entries.field? entries key.name with
    | some value => .value value
    | none => .silent
  | some _ => .reset

/-- The value that layers give a key, the first of them on top. -/
def Key.scan (key : Key) : List Entries → Option Value
  | [] => none
  | data :: below =>
    match key.verdict data with
    | .silent => key.scan below
    | .reset => none
    | .value value => some value

/-- The value under a key is a mapping in none of some layers. -/
def NoMapping (key : Key) (layers : List Entries) : Prop :=
  ∀ data ∈ layers, ∀ entries, key.verdict data ≠ .value (.map entries)

/-- A mapping that is laid over a section adds to it what it has. -/
theorem field?_mergeValue_map (base : Entries) (place : Text) {entries : Entries}
    (hnames : entries.NamesOnce) {name : Text}
    (hplain : ∀ inner, entries.field? name ≠ some (.map inner)) :
    ∃ merged : Entries, mergeValue (base.field? place) (.map entries) = .map merged ∧
      merged.field? name = (entries.field? name).or ((sectionOf base place).field? name) := by
  unfold sectionOf
  cases base.field? place with
  | none => exact ⟨entries, by simp [mergeValue], by simp [Entries.field?, Entries.get?]⟩
  | some value =>
    cases value with
    | map below =>
      refine ⟨merge below entries, by simp [mergeValue], ?_⟩
      rw [field?_merge_of_namesOnce below hnames]
      cases hvalue : entries.field? name with
      | none => rfl
      | some value =>
        have hother (inner : Entries) : value ≠ .map inner := fun h => hplain inner (h ▸ hvalue)
        simp [mergeValue_of_not_both fun _ inner _ => hother inner]
    | _ => exact ⟨entries, by simp [mergeValue], by simp [Entries.field?, Entries.get?]⟩

/-- Of two layers the upper one decides, unless it is silent. -/
theorem value?_merge {base overlay : Entries} (htidy : (Value.map overlay).IsTidy) {key : Key}
    (hplain : ∀ entries, key.verdict overlay ≠ .value (.map entries)) :
    key.value? (merge base overlay) = match key.verdict overlay with
      | .silent => key.value? base
      | .reset => none
      | .value value => some value := by
  obtain ⟨hnames, hinner⟩ := htidy overlay rfl
  rw [Key.value?, sectionOf, field?_merge_of_namesOnce base hnames]
  unfold Key.verdict at hplain ⊢
  cases hsection : overlay.field? key.place.name with
  | none => rfl
  | some value =>
    rw [hsection] at hplain
    cases value with
    | map entries =>
      obtain ⟨entry, hmem, _, hentry⟩ := Entries.exists_mem_of_get? hsection
      have hvalue (inner : Entries) : Entries.field? entries key.name ≠ some (.map inner) :=
        fun h => hplain inner (by simp [h])
      obtain ⟨merged, hmerged, hfield⟩ := field?_mergeValue_map base key.place.name
        (hinner entry hmem entries hentry) hvalue
      simp only [hmerged, hfield]
      cases Entries.field? entries key.name with
      | some value => rfl
      | none => rfl
    | _ => simp [mergeValue, Entries.field?, Entries.get?]

/-- Layers laid over each other say what the scan from the top finds. -/
theorem value?_foldl_merge {key : Key} (layers : List Entries)
    (htidy : ∀ data ∈ layers, (Value.map data).IsTidy) (hplain : NoMapping key layers) :
    key.value? (layers.foldl merge []) = key.scan layers.reverse := by
  -- The last layer is merged last and asked first.
  induction layers using List.reverseRecOn with
  | nil =>
    rw [List.foldl_nil, Key.value?, sectionOf]
    rfl
  | append_singleton layers data ih =>
    have hlast : data ∈ layers ++ [data] := by simp
    have hlayers := ih (fun d hd => htidy d (by simp [hd])) fun d hd => hplain d (by simp [hd])
    rw [List.foldl_append, List.foldl_cons, List.foldl_nil,
      value?_merge (htidy data hlast) (hplain data hlast), hlayers, List.reverse_append]
    rfl

section Layers

variable {files : FileSystem} {env : Environment}

private theorem isTidy_of_spells {path : Path} {data : Entries} (h : Spells files env path data) :
    (Value.map data).IsTidy := by
  cases h with
  | empty h =>
    rintro _ ⟨⟩
    exact ⟨fun _ => Nat.zero_le 1, nofun⟩
  | mapping h hnotices =>
    obtain ⟨bytes, chars, _, _, hload⟩ := h
    exact isTidy_expandEntries env (Yaml.isTidy_load hload)

theorem isTidy_of_fileReading {path : Path} {data : Entries}
    (h : FileReading files env path (.ok data)) : (Value.map data).IsTidy := by
  cases h with
  | taken h hstop => exact isTidy_of_spells h

private theorem isTidy_of_globalReading {own : Option Entries} (h : GlobalReading files env (.ok own)) :
    ∀ data ∈ own.toList, (Value.map data).IsTidy := by
  cases h with
  | taken hhome hthere h =>
    intro data hdata
    obtain rfl := List.mem_singleton.mp hdata
    exact isTidy_of_fileReading h
  | _ => exact nofun

private theorem isTidy_of_chosenReading {root : Path} {custom : Option Path} {file : Option Entries}
    (h : ChosenReading files env root custom (.ok file)) :
    ∀ data ∈ file.toList, (Value.map data).IsTidy := by
  cases h with
  | taken hpath h =>
    intro data hdata
    obtain rfl := List.mem_singleton.mp hdata
    exact isTidy_of_fileReading h
  | none h => exact nofun

/-- The layers of a load, the topmost first. -/
def layersOf (own file : Option Entries) (overrides : Entries) : List Entries :=
  overrides :: (file.toList ++ own.toList)

theorem value?_layered {own file : Option Entries} {overrides : Entries} {key : Key}
    (htidy : ∀ data ∈ layersOf own file overrides, (Value.map data).IsTidy)
    (hplain : NoMapping key (layersOf own file overrides)) :
    key.value? (layered own file overrides) = key.scan (layersOf own file overrides) := by
  have hreverse (data : Option Entries) : data.toList.reverse = data.toList := by cases data <;> rfl
  have hlayers : (own.toList ++ file.toList ++ [overrides]).reverse =
      layersOf own file overrides := by
    simp [layersOf, hreverse]
  have hmem {data : Entries} (h : data ∈ own.toList ++ file.toList ++ [overrides]) :
      data ∈ layersOf own file overrides := by
    rw [← hlayers]
    exact List.mem_reverse.mpr h
  have hfold := value?_foldl_merge (own.toList ++ file.toList ++ [overrides])
    (fun data h => htidy data (hmem h)) fun data h => hplain data (hmem h)
  rw [hlayers, List.foldl_append] at hfold
  exact hfold

end Layers

end Config

namespace Cli.Arguments

open Config

/-- The name of the setting of the command line that stands over a key. -/
def flagOf : Key → Option String
  | .host => some "host"
  | .port => some "port"
  | .executable => some "executable"
  | .timeout => some "timeout"
  | .outputRoot => some "output_root"
  | _ => none

/-- The value that the command line gives a key. -/
def flag? (arguments : Arguments) (key : Key) : Option Value :=
  (flagOf key).bind arguments.settings.get?

/-- Data as the command line makes it: tidy, and with mappings only at its top. -/
def IsFlagData (data : Entries) : Prop :=
  (Value.map data).IsTidy ∧
    ∀ name value, data.field? name = some value → ∃ entries, value = .map entries

theorem isFlagData_nil : IsFlagData [] := by
  refine ⟨?_, nofun⟩
  rintro _ ⟨⟩
  exact ⟨fun _ => Nat.zero_le 1, nofun⟩

theorem IsFlagData.sectionOf_cases {data : Entries} (h : IsFlagData data) (name : Text) :
    (sectionOf data name).NamesOnce ∧
      (data.field? name = none ∧ sectionOf data name = [] ∨
        data.field? name = some (.map (sectionOf data name))) := by
  unfold sectionOf
  cases hfield : data.field? name with
  | none => exact ⟨fun _ => Nat.zero_le 1, .inl ⟨rfl, rfl⟩⟩
  | some value =>
    obtain ⟨entries, rfl⟩ := h.2 name value hfield
    obtain ⟨entry, hmem, _, hentry⟩ := Entries.exists_mem_of_get? hfield
    exact ⟨(h.1 data rfl).2 entry hmem entries hentry, .inr rfl⟩

private theorem isFlagData_addToSection {data : Entries} (h : IsFlagData data) (name field : String)
    (value : Value) : IsFlagData (addToSection data name field value) := by
  obtain ⟨hnames, hinner⟩ := h.1 data rfl
  refine ⟨?_, fun other found hfound => ?_⟩
  · rintro _ ⟨⟩
    refine ⟨hnames.insert _ _, fun entry hentry inner hmap => ?_⟩
    rcases Entries.mem_insert hentry with hold | hnew
    · exact hinner entry hold inner hmap
    · rw [hnew, Value.map.injEq] at hmap
      exact hmap ▸ (h.sectionOf_cases name).1.insert (.text field) value
  · rw [addToSection, Entries.field?_insert] at hfound
    split at hfound
    · exact ⟨_, (Option.some.inj hfound).symm⟩
    · exact h.2 other found hfound

private theorem verdict_addToSection {data : Entries} (h : IsFlagData data) (name field : String)
    (value : Value) (key : Key) :
    key.verdict (addToSection data name field value) =
      if key.place.name = name ∧ key.name = field then .value value else key.verdict data := by
  have hadded : addToSection data name field value =
      data.insert (.text name) (.map ((sectionOf data name).insert (.text field) value)) := rfl
  have htext (a b : Text) : (Value.text a).sameKey (.text b) = true ↔ b = a :=
    Value.text_sameKey.trans (by rw [Value.text.injEq])
  rw [hadded, Key.verdict, Entries.field?_insert]
  simp only [htext]
  by_cases hplace : key.place.name = name
  · simp only [hplace, if_true, true_and, Entries.field?_insert, htext]
    by_cases hname : key.name = field
    · simp only [hname, if_true]
    · simp only [hname, if_false, Key.verdict, hplace]
      rcases (h.sectionOf_cases name).2 with ⟨hnone, hempty⟩ | hsome
      · rw [hnone, hempty]
        rfl
      · rw [hsome]
  · simp only [hplace, if_false, false_and, Key.verdict]

/-- One more setting of the command line. -/
def addFlag (arguments : Arguments) (data : Entries) (flag : String × String × String) : Entries :=
  match arguments.settings.get? flag.1 with
  | some value => addToSection data flag.2.1 flag.2.2 value
  | none => data

private theorem isFlagData_addFlag {arguments : Arguments} {data : Entries} (h : IsFlagData data)
    (flag : String × String × String) : IsFlagData (arguments.addFlag data flag) := by
  unfold addFlag
  split
  · exact isFlagData_addToSection h _ _ _
  · exact h

/-- Whether a setting of the command line stands over a key. -/
def concerns (key : Key) (flag : String × String × String) : Bool :=
  key.place.name = flag.2.1 ∧ key.name = flag.2.2

/-- What is said of a key, after settings that stand over it. -/
def afterFlags (arguments : Arguments) (said : Verdict) (names : List String) : Verdict :=
  names.foldl (fun said name =>
    match arguments.settings.get? name with
    | some value => .value value
    | none => said) said

theorem foldl_addFlag (arguments : Arguments) (flags : List (String × String × String))
    {data : Entries} (h : IsFlagData data) (key : Key) :
    IsFlagData (flags.foldl arguments.addFlag data) ∧
      key.verdict (flags.foldl arguments.addFlag data) =
        arguments.afterFlags (key.verdict data) ((flags.filter (concerns key)).map Prod.fst) := by
  induction flags generalizing data with
  | nil => exact ⟨h, rfl⟩
  | cons flag rest ih =>
    obtain ⟨hdata, hverdict⟩ := ih (isFlagData_addFlag h flag)
    refine ⟨hdata, hverdict.trans ?_⟩
    rw [List.filter_cons, addFlag]
    cases hvalue : arguments.settings.get? flag.1 with
    | none => cases concerns key flag <;> simp [afterFlags, hvalue]
    | some value =>
      dsimp only
      rw [verdict_addToSection h]
      by_cases hkey : key.place.name = flag.2.1 ∧ key.name = flag.2.2
      · simp [concerns, hkey, afterFlags, hvalue]
      · simp [concerns, hkey]

private theorem filter_concerns (key : Key) :
    (overrideKeys.filter (concerns key)).map Prod.fst = (flagOf key).toList := by
  cases key <;> decide +kernel

private theorem isFlagData_overrides (arguments : Arguments) : IsFlagData arguments.overrides :=
  (arguments.foldl_addFlag overrideKeys isFlagData_nil .host).1

private theorem verdict_overrides (arguments : Arguments) (key : Key) :
    key.verdict arguments.overrides = match arguments.flag? key with
      | some value => .value value
      | none => .silent := by
  have hflags := (arguments.foldl_addFlag overrideKeys isFlagData_nil key).2
  rw [filter_concerns] at hflags
  refine Eq.trans hflags ?_
  unfold flag?
  cases flagOf key <;> rfl

end Cli.Arguments

namespace Config

/-- What the files contribute: this the user's own one, and this the chosen one. -/
structure Contributes (files : FileSystem) (env : Environment) (root : Path) (custom : Option Path)
    (own file : Option Entries) : Prop where
  own_iff : ∀ other, GlobalReading files env (.ok other) ↔ other = own
  file_iff : ∀ other, ChosenReading files env root custom (.ok other) ↔ other = file

private theorem contributes_of_reading {files : FileSystem} {env : Environment} {root : Path}
    {custom : Option Path} {own file : Option Entries} (hown : GlobalReading files env (.ok own))
    (hfile : ChosenReading files env root custom (.ok file)) :
    Contributes files env root custom own file where
  own_iff := fun _ => ⟨fun hother => hother.eq hown, fun heq => heq ▸ hown⟩
  file_iff := fun _ => ⟨fun hother => hother.eq hfile, fun heq => heq ▸ hfile⟩

private theorem settingAt_with_sources (config : Config) (sources : List Text) (key : Key) :
    ({ config with sources } : Config).settingAt key = config.settingAt key := by
  cases key <;> rfl

/-- Each setting that is loaded is made of what the layers decide. -/
theorem setting_of_load {root : Path} {custom : Option Path} {overrides : Entries} {w : World}
    {config : Config} (htidy : (Value.map overrides).IsTidy)
    (hload : (load root custom overrides w).1 = .ok config) :
    ∃ own file, Contributes w.files w.env root custom own file ∧
      ∀ key, NoMapping key (layersOf own file overrides) →
        key.setting (key.scan (layersOf own file overrides)) = .ok (config.settingAt key) := by
  obtain ⟨found, hloading, hconfig⟩ := exists_loading_of_load hload
  cases hloading with
  | @loaded own file _ hown hfile h =>
    refine ⟨own, file, contributes_of_reading hown hfile, fun key hplain => ?_⟩
    have hlayers : ∀ data ∈ layersOf own file overrides, (Value.map data).IsTidy := by
      intro data hdata
      rcases List.mem_cons.mp hdata with rfl | hfiles
      · exact htidy
      · rcases List.mem_append.mp hfiles with hfile' | hown'
        · exact isTidy_of_chosenReading hfile data hfile'
        · exact isTidy_of_globalReading hown data hown'
    rw [hconfig, settingAt_with_sources, ← value?_layered hlayers hplain]
    exact setting_of_ofEntries h key

/-- Each setting of a configuration that is loaded is decided by the layers, from the overrides
down. A flag that was given wins whatever its value is, and one that was not changes nothing. -/
theorem layers_decide_settings (root : Path) (custom : Option Path) (w : World) :
    (∀ overrides config, (Value.map overrides).IsTidy →
      (load root custom overrides w).1 = .ok config →
      ∃ own file, Contributes w.files w.env root custom own file ∧
        ∀ key, NoMapping key (layersOf own file overrides) →
          key.setting (key.scan (layersOf own file overrides)) = .ok (config.settingAt key)) ∧
    ∀ (arguments : Cli.Arguments) config,
      (load root custom arguments.overrides w).1 = .ok config →
      ∃ own file, Contributes w.files w.env root custom own file ∧
        ∀ key, NoMapping key (layersOf own file arguments.overrides) →
          (∀ value, arguments.flag? key = some value →
            key.convert value = .ok (config.settingAt key)) ∧
          (arguments.flag? key = none →
            key.setting (key.scan (file.toList ++ own.toList)) = .ok (config.settingAt key)) := by
  refine ⟨fun overrides config htidy hload => setting_of_load htidy hload,
    fun arguments config hload => ?_⟩
  obtain ⟨own, file, hcontributes, hsettings⟩ :=
    setting_of_load arguments.isFlagData_overrides.1 hload
  refine ⟨own, file, hcontributes, fun key hplain => ?_⟩
  have hsetting := hsettings key hplain
  rw [layersOf, Key.scan, arguments.verdict_overrides] at hsetting
  constructor
  · intro value hvalue
    rw [hvalue] at hsetting
    exact hsetting
  · intro hnone
    rw [hnone] at hsetting
    exact hsetting

/-- The text of a user's own file. -/
def ownText : String := "'server':\n 'port': '80'"

/-- The text of a chosen file, which has no mapping for the server. -/
def chosenText : String := "'server': ''"

/-- Both files. -/
def layeredWorld : World where
  files :=
    { tree := ⟨[(["h"], .directory), (["h", "config.yml"], .file ownText.toUTF8.toList false),
        (["c"], .file chosenText.toUTF8.toList false)]⟩
      cwd := [] }
  env := [("YUGAWEB_HOME", "h")]

/-- A command line with no time limit. -/
def promptArguments : Cli.Arguments where
  command := some .status
  settings := { settings := [("timeout", .int 0)] }

/-- What the user's own file holds. -/
def ownData : Entries :=
  [(.text "server", .map [(.text "port", .text "80")])]

/-- What the chosen file holds. -/
def chosenData : Entries := [(.text "server", .text "")]

private theorem load_ownText :
    Yaml.load (.ofChars (Yaml.unifyLines ownText.toList)) = .ok (.map ownData) := by
  have htokens : Yaml.TokenStream.ofSource (.ofChars (Yaml.unifyLines ownText.toList)) =
      ⟨#[.blockMappingStart, .key, .scalar "server" false, .value, .blockMappingStart, .key,
        .scalar "port" false, .value, .scalar "80" false, .blockEnd, .blockEnd, .streamEnd],
        none⟩ := by cbv
  rw [Yaml.load, htokens]
  rfl

private theorem load_chosenText :
    Yaml.load (.ofChars (Yaml.unifyLines chosenText.toList)) = .ok (.map chosenData) := by
  have htokens : Yaml.TokenStream.ofSource (.ofChars (Yaml.unifyLines chosenText.toList)) =
      ⟨#[.blockMappingStart, .key, .scalar "server" false, .value, .scalar "" false, .blockEnd,
        .streamEnd], none⟩ := by cbv
  rw [Yaml.load, htokens]
  rfl

theorem globalReading_layeredWorld :
    GlobalReading layeredWorld.files layeredWorld.env (.ok (some ownData)) := by
  have htext : (globalPath ⟨.relative, ["h"]⟩).text = "h/config.yml" := by decide +kernel
  have hthere : layeredWorld.files.exists? "h/config.yml" = .ok true := by cbv
  have hread : layeredWorld.files.read "h/config.yml" = .ok ownText.toUTF8.toList := by cbv
  rw [← htext] at hthere hread
  have hspells : Spells layeredWorld.files layeredWorld.env (globalPath ⟨.relative, ["h"]⟩)
      ownData := by
    have hexpanded : expandEntries layeredWorld.env ownData = ownData := by cbv
    have hnotices : notices layeredWorld.env (.map ownData) = [] := by decide +kernel
    rw [← hexpanded]
    refine .mapping ⟨_, ownText.toList, hread, by decide +kernel, load_ownText⟩ ?_
    simp [hnotices]
  have hhome : layeredWorld.env.settingsHome? = some ⟨.relative, ["h"]⟩ := by decide +kernel
  exact .taken hhome hthere (.taken hspells (by decide +kernel))

theorem chosenReading_layeredWorld :
    ChosenReading layeredWorld.files layeredWorld.env .here (some ⟨.relative, ["c"]⟩)
      (.ok (some chosenData)) := by
  have hspells : Spells layeredWorld.files layeredWorld.env ⟨.relative, ["c"]⟩ chosenData := by
    have hexpanded : expandEntries layeredWorld.env chosenData = chosenData := by cbv
    have hnotices : notices layeredWorld.env (.map chosenData) = [] := by decide +kernel
    rw [← hexpanded]
    refine .mapping ⟨_, chosenText.toList, by cbv, by cbv, load_chosenText⟩ ?_
    simp [hnotices]
  exact .taken (.named (by cbv)) (.taken hspells (by decide +kernel))

/-- The flag wins although it is zero, and the chosen file takes the port back to its built-in
value. -/
theorem layers_decide_settings_layeredWorld :
    ∃ config,
      (load .here (some ⟨.relative, ["c"]⟩) promptArguments.overrides layeredWorld).1 = .ok config ∧
        Key.timeout.convert (.int 0) = .ok (config.settingAt .timeout) ∧
        config.settingAt .port = Key.port.fallback := by
  have hmade : (ofEntries (layered (some ownData) (some chosenData)
      promptArguments.overrides)).toOption.isSome = true := by decide +kernel
  cases h : ofEntries (layered (some ownData) (some chosenData) promptArguments.overrides) with
  | error rejection => simp [h, Except.toOption] at hmade
  | ok found =>
    have hloading := Loading.loaded globalReading_layeredWorld chosenReading_layeredWorld h
    obtain ⟨sources, hends⟩ := endsIn_load_ok hloading
    obtain ⟨w', hload, _⟩ := hends layeredWorld rfl rfl
    refine ⟨{ found with sources }, by rw [hload], ?_⟩
    obtain ⟨own, file, hcontributes, hkeys⟩ :=
      (layers_decide_settings .here (some ⟨.relative, ["c"]⟩) layeredWorld).2 promptArguments
        { found with sources } (by rw [hload])
    obtain rfl := (hcontributes.own_iff _).mp globalReading_layeredWorld
    obtain rfl := (hcontributes.file_iff _).mp chosenReading_layeredWorld
    have hplain (key : Key) : NoMapping key
        (layersOf (some ownData) (some chosenData) promptArguments.overrides) := by
      intro data hdata entries h
      have hmem : data = promptArguments.overrides ∨ data = chosenData ∨ data = ownData := by
        simpa [layersOf] using hdata
      rcases hmem with rfl | rfl | rfl <;> cases key <;> cases h
    exact ⟨(hkeys .timeout (hplain _)).1 _ rfl,
      (Except.ok.inj ((hkeys .port (hplain _)).2 rfl)).symm⟩

end Config

end ScanLauncher
