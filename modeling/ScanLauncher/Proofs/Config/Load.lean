import Mathlib
import ScanLauncher.Config.Load
import ScanLauncher.Proofs.Action
import ScanLauncher.Proofs.Config.Merge

namespace ScanLauncher.Config

/-- The layer of the command line, if there is one. -/
def overrideLayers (overrides : Entries) : List Layer :=
  if overrides.isEmpty then [] else [⟨overrides, "cli"⟩]

private theorem overrideLayer_apply (overrides : Entries) (w : World) :
    ∃ w', overrideLayer overrides w = (.ok (overrideLayers overrides), w') := by
  cases overrides with
  | nil => exact ⟨w, rfl⟩
  | cons entry rest => exact ⟨_, rfl⟩

theorem mergeLayers_append_overrides (layers : List Layer) (overrides : Entries) :
    mergeLayers (layers ++ overrideLayers overrides) = merge (mergeLayers layers) overrides := by
  unfold mergeLayers
  rw [List.foldl_append]
  cases overrides with
  | nil => simp only [overrideLayers, List.isEmpty_nil, if_true, List.foldl_nil, merge]
  | cons entry rest => rfl

/-- The layers below the command line. -/
def lowerLayers (root : Path) (custom : Option Path) : Act (List Layer) := do
  return (← globalLayer) ++ (← fileLayer root custom)

/-- A configuration is what the layers of both files and of the command line spell. -/
theorem load_eq_ok {root : Path} {custom : Option Path} {overrides : Entries} {w : World}
    {config : Config} :
    (load root custom overrides w).1 = .ok config ↔
      ∃ layers found, (lowerLayers root custom w).1 = .ok layers ∧
        ofEntries (merge (mergeLayers layers) overrides) = .ok found ∧
        config = { found with
          sources := (layers ++ overrideLayers overrides).map Layer.source } := by
  rw [load, lowerLayers, Act.bind_apply, Act.bind_apply]
  rcases globalLayer w with ⟨failure | bottom, w'⟩
  · constructor
    · intro h
      cases h
    · rintro ⟨_, _, h, _⟩
      cases h
  simp only [Act.bind_apply]
  rcases fileLayer root custom w' with ⟨failure | middle, w''⟩
  · constructor
    · intro h
      cases h
    · rintro ⟨_, _, h, _⟩
      cases h
  obtain ⟨w₃, htop⟩ := overrideLayer_apply overrides w''
  simp only [htop, mergeLayers_append_overrides, convert]
  cases hfound : ofEntries (merge (mergeLayers (bottom ++ middle)) overrides) with
  | error rejection =>
    refine ⟨nofun, ?_⟩
    rintro ⟨_, _, hlayers, hok, _⟩
    obtain rfl := Except.ok.inj hlayers
    rw [hfound] at hok
    cases hok
  | ok found =>
    constructor
    · intro h
      exact ⟨_, found, rfl, hfound, (Except.ok.inj h).symm⟩
    · rintro ⟨_, _, hlayers, hok, rfl⟩
      obtain rfl := Except.ok.inj hlayers
      rw [hfound] at hok
      obtain rfl := Except.ok.inj hok
      rfl

private theorem ofEntries_of_sections {data data' : Entries} {found : Config} {settings : ReportSettings}
    (htool : sectionOf data' "tool" = sectionOf data "tool")
    (hserver : sectionOf data' "server" = sectionOf data "server")
    (hreports : reportSettings (sectionOf data' "reports") = .ok settings)
    (h : ofEntries data = .ok found) : ofEntries data' = .ok { found with reports := settings } := by
  unfold ofEntries at h ⊢
  rw [htool, hserver, hreports]
  cases htoolOf : toolSettings (sectionOf data "tool") with
  | error fault => simp [htoolOf, Except.mapError, bind, Except.bind] at h
  | ok tool =>
    cases hserverOf : serverSettings (sectionOf data "server") with
    | error fault => simp [htoolOf, hserverOf, Except.mapError, bind, Except.bind] at h
    | ok server =>
      simp only [htoolOf, hserverOf, Except.mapError, bind, Except.bind, pure, Except.pure] at h ⊢
      split at h
      · cases h
      split at h
      · cases h
      split at h
      · cases h
      rename_i hchunk htimeout hwait
      simp only [hchunk, htimeout, hwait, Bool.false_eq_true, if_false]
      split at h
      · cases h
      · obtain rfl := Except.ok.inj h
        rfl

/-- Report settings as entries. -/
def reportEntries (settings : ReportSettings) : Entries :=
  [(.text "output_root", .text settings.outputRoot),
    (.text "directory_name", .text settings.directoryName)]

/-- A command line that names other report settings. -/
def withReports (overrides : Entries) (settings : ReportSettings) : Entries :=
  overrides.filter (fun entry => !entry.1.sameKey (.text "reports")) ++
    [(.text "reports", .map (reportEntries settings))]

private theorem under_withReports_other (overrides : Entries) (settings : ReportSettings) {name : Text}
    (hname : name ≠ "reports") : (withReports overrides settings).under name = overrides.under name := by
  rw [withReports, Entries.under, Entries.under, List.filter_append, List.filter_filter]
  have hlast := Value.sameKey_text_of_ne hname.symm
  simp only [List.filter_cons, hlast, Bool.false_eq_true, if_false, List.filter_nil, List.append_nil]
  refine List.filter_congr fun entry _ => ?_
  cases hkey : entry.1.sameKey (.text name) with
  | false => rfl
  | true =>
    rw [Value.sameKey_text.mp hkey, Value.sameKey_text_of_ne hname]
    rfl

private theorem under_withReports (overrides : Entries) (settings : ReportSettings) :
    (withReports overrides settings).under "reports" =
      [(.text "reports", .map (reportEntries settings))] := by
  rw [withReports, Entries.under, List.filter_append, List.filter_filter]
  simp

/-- The loader takes any report settings: what it loads with some command line it loads with one that
names other report settings, and with just these. -/
theorem load_withReports {root : Path} {custom : Option Path} {overrides : Entries} {w : World}
    {config : Config} (hload : (load root custom overrides w).1 = .ok config)
    (settings : ReportSettings) :
    ∃ config', (load root custom (withReports overrides settings) w).1 = .ok config' ∧
      config'.reports = settings ∧ config'.tool = config.tool ∧ config'.server = config.server := by
  obtain ⟨layers, found, hlayers, hfound, rfl⟩ := load_eq_ok.mp hload
  have hsame {name : Text} (hname : name ≠ "reports") :
      sectionOf (merge (mergeLayers layers) (withReports overrides settings)) name =
        sectionOf (merge (mergeLayers layers) overrides) name := by
    simp only [sectionOf, field?_merge, under_withReports_other overrides settings hname]
  have hreports : reportSettings
      (sectionOf (merge (mergeLayers layers) (withReports overrides settings)) "reports") =
        .ok settings := by
    obtain ⟨merged, hmerged, htexts⟩ :=
      mergeValue_map ((mergeLayers layers).field? "reports") (reportEntries settings)
    simp only [sectionOf, field?_merge, under_withReports, List.foldl_cons, List.foldl_nil, hmerged]
    have hroot := htexts "output_root" settings.outputRoot rfl
    have hname := htexts "directory_name" settings.directoryName rfl
    simp only [reportSettings, textSetting, hroot, hname, Option.map_some, Value.plain?]
    rfl
  have hfound' := ofEntries_of_sections (hsame (by decide)) (hsame (by decide)) hreports hfound
  exact ⟨_, load_eq_ok.mpr ⟨layers, _, hlayers, hfound', rfl⟩, rfl, rfl, rfl⟩

end ScanLauncher.Config
