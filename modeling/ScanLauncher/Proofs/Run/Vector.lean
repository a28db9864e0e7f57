import ScanLauncher.Proofs.Config.Converting
import ScanLauncher.Proofs.Run.Grammar

namespace ScanLauncher

/-- The slots of an argument vector. -/
structure Slots where
  interpreter : Option Value
  executable : Text
  source : Text
  outputRoot : Text
  revision : Text
  subdir : Text

namespace Slots

/-- The items in their order. -/
def vector (s : Slots) : List Value :=
  s.interpreter.toList ++
    [s.executable, s.source, s.outputRoot, s.revision, s.subdir].map Value.text

theorem length_vector (s : Slots) : s.vector.length = if s.interpreter.isSome then 6 else 5 := by
  cases hinterpreter : s.interpreter <;> simp [vector, hinterpreter]

theorem isText_vector_iff (s : Slots) :
    (∀ item ∈ s.vector, ∃ t, item = .text t) ↔ ∀ value, s.interpreter = some value → ∃ t, value = .text t := by
  simp [vector, or_imp, forall_and]

/-- What a caller has given is in the slots of the request, and made safe in that of the source. -/
structure Carries (s : Slots) (url revision subdir : Option Text) : Prop where
  source_chars : ∀ g ∈ s.source.glyphs, ∃ c, g = .char c ∧ isUrlChar c = true
  source_sublist : s.source.glyphs.Sublist (url.getD "").glyphs
  source_stable : ∀ revision subdir,
    (ScanRequest.normalize (some s.source) revision subdir).sourceUrl = s.source
  revision_given : ∀ t, revision = some t → t ≠ "" → s.revision = t
  revision_missing : revision = none ∨ revision = some "" → s.revision = "HEAD"
  subdir_given : ∀ t, subdir = some t → t ≠ "" → s.subdir = t
  subdir_missing : subdir = none ∨ subdir = some "" → s.subdir = "."

end Slots

private theorem isUrlChar_of_mem_sanitizeUrl {raw : Text} {g : Glyph} (hg : g ∈ (sanitizeUrl raw).glyphs) :
    ∃ c, g = .char c ∧ isUrlChar c = true := by
  have hallowed := (List.mem_filter.mp hg).2
  cases g with
  | char c => exact ⟨c, rfl, hallowed⟩
  | surrogate offset => cases hallowed

private theorem sanitizeUrl_sublist (raw : Text) : (sanitizeUrl raw).glyphs.Sublist raw.glyphs :=
  List.filter_sublist

private theorem sanitizeUrl_sanitizeUrl (raw : Text) : sanitizeUrl (sanitizeUrl raw) = sanitizeUrl raw := by
  simp [sanitizeUrl]

namespace ScanRequest

theorem orElse_given {given : Option Text} {t : Text} (hgiven : given = some t) (ht : t ≠ "")
    (fallback : Text) : orElse given fallback = t := by
  have hfull : t.isEmpty = false := by
    obtain ⟨glyphs⟩ := t
    cases glyphs with
    | nil => exact absurd rfl ht
    | cons g rest => rfl
  simp [orElse, hgiven, hfull]

theorem orElse_missing {given : Option Text} (hgiven : given = none ∨ given = some "")
    (fallback : Text) : orElse given fallback = fallback := by
  rcases hgiven with rfl | rfl <;> rfl

end ScanRequest

namespace Run

/-- The slots of a request under a configuration. -/
def slotsOf (config : Config) (request : ScanRequest) : Slots where
  interpreter := config.tool.interpreter.filter Value.isGiven
  executable := config.tool.executable
  source := request.sourceUrl
  outputRoot := config.reports.outputRoot
  revision := request.revision
  subdir := request.subdirFilter

theorem commandOf_eq (config : Config) (request : ScanRequest) :
    commandOf config request = (slotsOf config request).vector := by
  unfold commandOf ScanRequest.command Slots.vector slotsOf
  cases config.tool.interpreter with
  | none => rfl
  | some program => cases hgiven : program.isGiven <;> simp [hgiven, Option.filter]

theorem carries_slotsOf (config : Config) (url revision subdir : Option Text) :
    (slotsOf config (.normalize url revision subdir)).Carries url revision subdir where
  source_chars _ hg := isUrlChar_of_mem_sanitizeUrl hg
  source_sublist := sanitizeUrl_sublist _
  source_stable _ _ := sanitizeUrl_sanitizeUrl _
  revision_given _ hgiven ht := ScanRequest.orElse_given hgiven ht _
  revision_missing hgiven := ScanRequest.orElse_missing hgiven _
  subdir_given _ hgiven ht := ScanRequest.orElse_given hgiven ht _
  subdir_missing hgiven := ScanRequest.orElse_missing hgiven _

/-- A start hands a vector over: it asks for one child, with this vector for its command. -/
def HandsOver (config : Config) (url revision subdir : Option Text) (w : World)
    (vector : List Value) : Prop :=
  (start url revision subdir { config } w).2.spawned =
    w.spawned ++ [.spawn vector config.tool.workingDir]

theorem handsOver_iff {config : Config} {url revision subdir : Option Text} {w : World}
    {vector : List Value} :
    HandsOver config url revision subdir w vector ↔
      vector = (slotsOf config (.normalize url revision subdir)).vector ∧
        let result := (start url revision subdir { config } w).1.1
        result = .ok () ∨ ∃ failure, result = .error failure ∧ failure.FollowsSpawn := by
  unfold HandsOver
  rw [← commandOf_eq]
  rcases spawned_start_cases config url revision subdir w with
    ⟨hlaunched, hspawned⟩ | ⟨⟨failure, hfailed, hbefore⟩, hspawned⟩
  · rw [hspawned, List.append_cancel_left_eq, spawnOf]
    simp only [List.cons.injEq, TraceEvent.spawn.injEq, and_true]
    exact ⟨fun h => ⟨h.symm, hlaunched⟩, fun h => h.1.symm⟩
  · -- Nothing was asked for, and no list is itself with an item more.
    rw [hspawned]
    constructor
    · intro h
      simp at h
    · rintro ⟨_, hok | ⟨other, herror, hfollows⟩⟩
      · rw [hfailed] at hok
        cases hok
      · rw [hfailed] at herror
        exact absurd (Except.error.inj herror ▸ hfollows) hbefore

/-- The interpreter of accepted data: the value that was given for it, unless that stands for none. -/
theorem interpreter_of_ofEntries {data : Entries} {config : Config}
    (h : Config.ofEntries data = .ok config) :
    config.tool.interpreter = match Config.Key.value? .interpreter data with
      | some value => if value.isGiven then some value else none
      | none => some (.text "bash") := by
  have hsetting := Config.setting_of_ofEntries h .interpreter
  cases hvalue : Config.Key.value? .interpreter data with
  | none =>
    rw [hvalue] at hsetting
    exact (Config.Setting.program.inj (Except.ok.inj hsetting)).symm
  | some value =>
    rw [hvalue] at hsetting
    exact (Config.Setting.program.inj (Except.ok.inj hsetting)).symm

/-- Accepted data gives every start one vector, of five items or, with an interpreter, of six. They are
texts exactly if the value given for the interpreter is one or stands for none. -/
theorem accepted_vector_isText_iff {data : Entries} {config : Config}
    (h : Config.ofEntries data = .ok config) (url revision subdir : Option Text) (w : World) :
    let vector := commandOf config (.normalize url revision subdir)
    vector.length = (if config.tool.interpreter.isSome then 6 else 5) ∧
      ((∀ item ∈ vector, ∃ t, item = .text t) ↔
        ∀ value, Config.Key.value? .interpreter data = some value → value.isGiven = true →
          ∃ t, value = .text t) ∧
      (∀ handed, HandsOver config url revision subdir w handed → handed = vector) ∧
      ((start url revision subdir { config } w).1.1 = .ok () →
        HandsOver config url revision subdir w vector) := by
  intro vector
  have hvector : vector = (slotsOf config (.normalize url revision subdir)).vector :=
    commandOf_eq config _
  -- An interpreter that stands for none was dropped when the data was read.
  have hslot : (slotsOf config (.normalize url revision subdir)).interpreter =
      config.tool.interpreter := by
    rw [slotsOf, interpreter_of_ofEntries h]
    cases Config.Key.value? .interpreter data with
    | none => rfl
    | some value => cases hgiven : value.isGiven <;> simp [hgiven, Option.filter]
  refine ⟨?_, ?_, fun handed hhanded => ?_, fun hok => ?_⟩
  · rw [hvector, Slots.length_vector, hslot]
  · rw [hvector, Slots.isText_vector_iff, hslot, interpreter_of_ofEntries h]
    cases Config.Key.value? .interpreter data with
    | none => simp
    | some value => cases hgiven : value.isGiven <;> simp [hgiven]
  · rw [hvector]
    exact (handsOver_iff.mp hhanded).1
  · rw [hvector]
    exact handsOver_iff.mpr ⟨rfl, .inl hok⟩

/-- Data that names a number for the interpreter. -/
def numberedData : Entries :=
  [(.text "tool", .map [(.text "interpreter", .int 5)]),
    (.text "reports", .map [(.text "output_root", .text "/o"), (.text "directory_name", .text "r")])]

/-- The configuration that `numberedData` makes. -/
def numberedConfig : Config where
  tool := { interpreter := some (.int 5), timeout := .real (.ofInt 3600) }
  reports := { outputRoot := "/o", directoryName := "r" }
  server := { busyWait := .real (.ofInt 0) }

theorem ofEntries_numberedData : Config.ofEntries numberedData = .ok numberedConfig := by
  have hconverted : Config.Converted numberedData numberedConfig.tool numberedConfig.server :=
    ⟨rfl, rfl⟩
  have hpasses : Config.Passes numberedConfig.tool numberedConfig.server :=
    ⟨by decide, by decide +kernel, by decide +kernel⟩
  rw [hconverted.ofEntries_passes hpasses]
  rfl

/-- The number is handed on as it is. -/
theorem accepted_vector_not_text :
    Config.ofEntries numberedData = .ok numberedConfig ∧
      commandOf numberedConfig (.normalize (some "u") none none) =
        [.int 5, .text "./run-yuga.sh", .text "u", .text "/o", .text "HEAD", .text "."] ∧
      ¬ ∀ data config url revision subdir, Config.ofEntries data = .ok config →
        ∀ item ∈ commandOf config (.normalize url revision subdir), ∃ t, item = .text t := by
  have hcommand : commandOf numberedConfig (.normalize (some "u") none none) =
      [.int 5, .text "./run-yuga.sh", .text "u", .text "/o", .text "HEAD", .text "."] := rfl
  refine ⟨ofEntries_numberedData, hcommand, fun h => ?_⟩
  obtain ⟨t, ht⟩ := h numberedData numberedConfig (some "u") none none ofEntries_numberedData
    (.int 5) (by rw [hcommand]; exact List.mem_cons_self)
  cases ht

theorem accepted_vector_isText_iff_numberedData :
    Config.ofEntries numberedData = .ok numberedConfig ∧
      (commandOf numberedConfig (.normalize (some "u") none none)).length = 6 ∧
      ¬ ∀ item ∈ commandOf numberedConfig (.normalize (some "u") none none), ∃ t, item = .text t := by
  obtain ⟨hlength, htexts, _⟩ :=
    accepted_vector_isText_iff ofEntries_numberedData (some "u") none none plainScript
  refine ⟨ofEntries_numberedData, hlength, fun h => ?_⟩
  obtain ⟨t, ht⟩ := htexts.mp h (.int 5) rfl rfl
  cases ht

/-- Two starts under one configuration hand over vectors of one length, with the same interpreter,
program and output directory. Each of the other slots depends on nothing but what was given for it,
and carries that. -/
theorem caller_input_stays_in_slot {config : Config}
    {url revision subdir url' revision' subdir' : Option Text} {w w' : World}
    {vector vector' : List Value} (h : HandsOver config url revision subdir w vector)
    (h' : HandsOver config url' revision' subdir' w' vector') :
    ∃ s s' : Slots, vector = s.vector ∧ vector' = s'.vector ∧ vector.length = vector'.length ∧
      s.interpreter = s'.interpreter ∧ s.executable = s'.executable ∧ s.outputRoot = s'.outputRoot ∧
      (url = url' → s.source = s'.source) ∧ (revision = revision' → s.revision = s'.revision) ∧
      (subdir = subdir' → s.subdir = s'.subdir) ∧
      s.Carries url revision subdir ∧ s'.Carries url' revision' subdir' := by
  obtain ⟨rfl, _⟩ := handsOver_iff.mp h
  obtain ⟨rfl, _⟩ := handsOver_iff.mp h'
  refine ⟨_, _, rfl, rfl, ?_, rfl, rfl, rfl, ?_, ?_, ?_, carries_slotsOf _ _ _ _,
    carries_slotsOf _ _ _ _⟩
  · rw [Slots.length_vector, Slots.length_vector]
    rfl
  · rintro rfl
    rfl
  · rintro rfl
    rfl
  · rintro rfl
    rfl

theorem isSome_nestedItems?_of_texts {items : List Value}
    (htexts : ∀ item ∈ items, ∃ t, item = .text t) : (Value.nestedItems? items).isSome = true := by
  induction items with
  | nil => rfl
  | cons item rest ih =>
    obtain ⟨t, rfl⟩ := htexts item List.mem_cons_self
    obtain ⟨shown, hshown⟩ := Option.isSome_iff_exists.mp
      (ih fun other hother => htexts other (List.mem_cons_of_mem _ hother))
    simp [Value.nestedItems?, Value.nested?, hshown]

/-- A command of texts can always be shown, so what the caller asks for decides whether a start succeeds
only where the system would not take it. -/
theorem start_ok_of_texts {config : Config} {url revision subdir : Option Text} {run : Run}
    {w w' : World} (h : start url revision subdir { config } w = ((.ok (), run), w'))
    (hinterpreter : ∀ value, config.tool.interpreter = some value → ∃ t, value = .text t)
    (url' revision' subdir' : Option Text)
    (hfit : Session.fault? (w.specs.headD {}) (commandOf config (.normalize url' revision' subdir'))
      config.tool.workingDir = none) :
    (start url' revision' subdir' { config } w).1.1 = .ok () := by
  refine start_ok_of_start_ok h url' revision' subdir' ?_ hfit
  have hslot (value : Value)
      (hvalue : (slotsOf config (.normalize url' revision' subdir')).interpreter = some value) :
      ∃ t, value = .text t :=
    hinterpreter value (Option.filter_eq_some_iff.mp hvalue).1
  rw [commandOf_eq]
  have hitems := isSome_nestedItems?_of_texts ((Slots.isText_vector_iff _).mpr hslot)
  obtain ⟨shown, hshown⟩ := Option.isSome_iff_exists.mp hitems
  simp [Value.nested?, hshown]

/-- An address that tries to get out of its slot. -/
def smuggledUrl : Text := "u; rm -rf $(x) /y"

theorem caller_input_stays_in_slot_smuggled :
    HandsOver plainConfig (some smuggledUrl) (some "v w") none plainScript
        [.text "bash", .text "./run-yuga.sh", .text "u;rm-rf$(x)/y", .text "/o", .text "v w",
          .text "."] ∧
      HandsOver plainConfig none (some "") (some "--all") plainScript
        [.text "bash", .text "./run-yuga.sh", .text "", .text "/o", .text "HEAD", .text "--all"] ∧
      ∃ s s' : Slots, s.interpreter = s'.interpreter ∧
        s.Carries (some smuggledUrl) (some "v w") none ∧ s'.Carries none (some "") (some "--all") := by
  obtain ⟨_, _, hstart, _⟩ := exists_start_plainConfig none none none (w := plainScript)
    rfl rfl rfl rfl rfl
  have hinterpreter (value : Value) (hvalue : plainConfig.tool.interpreter = some value) :
      ∃ t, value = .text t :=
    ⟨"bash", (Option.some.inj hvalue).symm⟩
  have hfirst : HandsOver plainConfig (some smuggledUrl) (some "v w") none plainScript
      [.text "bash", .text "./run-yuga.sh", .text "u;rm-rf$(x)/y", .text "/o", .text "v w",
        .text "."] :=
    handsOver_iff.mpr ⟨rfl, .inl (start_ok_of_texts hstart hinterpreter _ _ _ rfl)⟩
  have hsecond : HandsOver plainConfig none (some "") (some "--all") plainScript
      [.text "bash", .text "./run-yuga.sh", .text "", .text "/o", .text "HEAD", .text "--all"] :=
    handsOver_iff.mpr ⟨rfl, .inl (start_ok_of_texts hstart hinterpreter _ _ _ rfl)⟩
  obtain ⟨s, s', _, _, _, hsame, _, _, _, _, _, hcarries, hcarries'⟩ :=
    caller_input_stays_in_slot hfirst hsecond
  exact ⟨hfirst, hsecond, s, s', hsame, hcarries, hcarries'⟩

end Run

end ScanLauncher
