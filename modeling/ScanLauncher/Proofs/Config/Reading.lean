import ScanLauncher.Config.Load
import ScanLauncher.Proofs.Action
import ScanLauncher.Proofs.Config.Expanding
import ScanLauncher.Proofs.Config.Load

namespace ScanLauncher

namespace Act

variable {α β : Type} {files : FileSystem} {env : Environment}

/-- Wherever the files and the environment are these, an action ends with a result, and leaves both
as they are. -/
def EndsIn (files : FileSystem) (env : Environment) (act : Act α) (result : Except Failure α) : Prop :=
  ∀ w : World, w.files = files → w.env = env →
    ∃ w', act w = (result, w') ∧ w'.files = files ∧ w'.env = env

theorem endsIn_pure (a : α) : EndsIn files env (pure a) (.ok a) :=
  fun w hfiles henv => ⟨w, rfl, hfiles, henv⟩

theorem endsIn_throw (failure : Failure) : EndsIn files env (throw failure : Act α) (.error failure) :=
  fun w hfiles henv => ⟨w, rfl, hfiles, henv⟩

theorem endsIn_log (level : LogLevel) (origin : Origin) (message : Text) :
    EndsIn files env (log level origin message) (.ok ()) :=
  fun w hfiles henv => ⟨w.note level origin message, rfl, hfiles, henv⟩

theorem endsIn_ofExcept {ε : Type} (toFailure : ε → Failure) (result : Except ε α) :
    EndsIn files env (ofExcept toFailure result) (result.mapError toFailure) := by
  cases result with
  | ok a => exact endsIn_pure a
  | error e => exact endsIn_throw _

variable {act : Act α} {f : α → Act β} {result : Except Failure β}

theorem EndsIn.bind {a : α} (hact : EndsIn files env act (.ok a))
    (hf : EndsIn files env (f a) result) : EndsIn files env (act >>= f) result := by
  intro w hfiles henv
  obtain ⟨w', hact, hfiles, henv⟩ := hact w hfiles henv
  rw [bind_apply, hact]
  exact hf w' hfiles henv

theorem EndsIn.bind_error {failure : Failure} (hact : EndsIn files env act (.error failure)) :
    EndsIn files env (act >>= f) (.error failure) := by
  intro w hfiles henv
  obtain ⟨w', hact, hfiles, henv⟩ := hact w hfiles henv
  rw [bind_apply, hact]
  exact ⟨w', rfl, hfiles, henv⟩

theorem endsIn_get {f : World → Act β}
    (hf : ∀ w, w.files = files → w.env = env → EndsIn files env (f w) result) :
    EndsIn files env (get >>= f) result :=
  fun w hfiles henv => hf w hfiles henv w hfiles henv

theorem EndsIn.attempt {result : Except Failure α} (hact : EndsIn files env act result) :
    EndsIn files env act.attempt (.ok result) := by
  intro w hfiles henv
  obtain ⟨w', hact, hfiles, henv⟩ := hact w hfiles henv
  exact ⟨w', by rw [attempt_apply, hact], hfiles, henv⟩

theorem endsIn_forM {act : α → Act PUnit} {items : List α}
    (hact : ∀ item ∈ items, EndsIn files env (act item) (.ok ())) :
    EndsIn files env (items.forM act) (.ok ()) := by
  induction items with
  | nil => exact endsIn_pure ()
  | cons item rest ih =>
    exact (hact item (.head _)).bind (ih fun other hother => hact other (.tail _ hother))

private theorem endsIn_forM_error {act : α → Act PUnit} {failure? : α → Option Failure}
    (hact : ∀ item, EndsIn files env (act item) (match failure? item with
      | some failure => .error failure
      | none => .ok ())) {items : List α} {failure : Failure}
    (h : items.findSome? failure? = some failure) :
    EndsIn files env (items.forM act) (.error failure) := by
  induction items with
  | nil => cases h
  | cons item rest ih =>
    have hitem := hact item
    rw [List.findSome?_cons] at h
    cases hfails : failure? item with
    | some other =>
      rw [hfails] at h hitem
      obtain rfl := Option.some.inj h
      exact hitem.bind_error
    | none =>
      rw [hfails] at h hitem
      exact hitem.bind (ih h)

end Act

namespace Config

open Act

/-- The failure that a notice is, if it is one. -/
def Notice.failure? : Notice → Option Failure
  | .missing _ => none
  | .impossibleName => some .notEncodable
  | .endless => some .tooDeep

/-- The failure of a review that could not be completed. -/
def ReviewStop.failure : ReviewStop → Failure
  | .wrongKind => .wrongKind
  | .longNumber => .longNumber

section Files

variable (files : FileSystem) (env : Environment)

/-- A file holds text, and this comes of reading the text as a document. -/
def Contains (path : Path) (result : Except Yaml.Fault Value) : Prop :=
  ∃ bytes chars, files.read path.text = .ok bytes ∧ Utf8.decode? bytes = some chars ∧
    Yaml.load (.ofChars (Yaml.unifyLines chars)) = result

/-- A file holds a mapping, and this comes of replacing the variables in it. An empty file holds no
entries. -/
inductive Spells (path : Path) : Entries → Prop where
  | empty (h : Contains files path (.ok .null)) : Spells path []
  | mapping {entries : Entries} (h : Contains files path (.ok (.map entries)))
      (hnotices : ∀ notice ∈ notices env (.map entries), notice.failure? = none) :
      Spells path (expandEntries env entries)

/-- How the reading of a file ends. -/
inductive FileReading (path : Path) : Except Failure Entries → Prop where
  | unreadable {fault : PathFault} (h : files.read path.text = .error fault) :
      FileReading path (.error (.ofPathFault path.text fault))
  | notUtf8 {bytes : List UInt8} (hread : files.read path.text = .ok bytes)
      (h : Utf8.decode? bytes = none) : FileReading path (.error .notUtf8)
  | notYaml {fault : Yaml.Fault} (h : Contains files path (.error fault)) :
      FileReading path (.error (.document fault))
  | notMapping {value : Value} (h : Contains files path (.ok value)) (hnull : value ≠ .null)
      (hmap : ∀ entries, value ≠ .map entries) :
      FileReading path (.error (.config ("Config file must be a YAML mapping, got " ++ value.kind)))
  | notExpanded {entries : Entries} {failure : Failure} (h : Contains files path (.ok (.map entries)))
      (hfails : (notices env (.map entries)).findSome? Notice.failure? = some failure) :
      FileReading path (.error failure)
  | notReviewed {data : Entries} {stop : ReviewStop} (h : Spells files env path data)
      (hstop : (review (.map data)).stop = some stop) : FileReading path (.error stop.failure)
  | taken {data : Entries} (h : Spells files env path data)
      (hstop : (review (.map data)).stop = none) : FileReading path (.ok data)

/-- The path of the user's own file, by its directory. -/
def globalPath (home : Path) : Path := home / .ofText globalName

/-- What the user's own file contributes. It counts as absent where it is not there, cannot be opened,
is no YAML or holds no mapping. -/
inductive GlobalReading : Except Failure (Option Entries) → Prop where
  | homeless (h : env.settingsHome? = none) : GlobalReading (.error (.misuse .homeUnknown))
  | unseen {home : Path} {e : Errno} (hhome : env.settingsHome? = some home)
      (h : files.exists? (globalPath home).text = .error e) :
      GlobalReading (.error (.os (.about e (globalPath home).text)))
  | missing {home : Path} (hhome : env.settingsHome? = some home)
      (h : files.exists? (globalPath home).text = .ok false) : GlobalReading (.ok none)
  | notOpened {home : Path} {error : OsError} (hhome : env.settingsHome? = some home)
      (hthere : files.exists? (globalPath home).text = .ok true)
      (h : FileReading files env (globalPath home) (.error (.os error))) : GlobalReading (.ok none)
  | malformed {home : Path} (hhome : env.settingsHome? = some home)
      (hthere : files.exists? (globalPath home).text = .ok true)
      (h : FileReading files env (globalPath home) (.error (.document .malformed))) :
      GlobalReading (.ok none)
  | notMapping {home : Path} {message : Text} (hhome : env.settingsHome? = some home)
      (hthere : files.exists? (globalPath home).text = .ok true)
      (h : FileReading files env (globalPath home) (.error (.config message))) :
      GlobalReading (.ok none)
  | failed {home : Path} {failure : Failure} (hhome : env.settingsHome? = some home)
      (hthere : files.exists? (globalPath home).text = .ok true)
      (h : FileReading files env (globalPath home) (.error failure))
      (htrouble : globalTrouble? failure = none) : GlobalReading (.error failure)
  | taken {home : Path} {data : Entries} (hhome : env.settingsHome? = some home)
      (hthere : files.exists? (globalPath home).text = .ok true)
      (h : FileReading files env (globalPath home) (.ok data)) : GlobalReading (.ok (some data))

/-- The first of some paths that leads to anything, unless the system fails before. -/
inductive FirstExisting : List Path → Except Failure (Option Path) → Prop where
  | none : FirstExisting [] (.ok none)
  | here {path : Path} {rest : List Path} (h : files.exists? path.text = .ok true) :
      FirstExisting (path :: rest) (.ok (some path))
  | unseen {path : Path} {rest : List Path} {e : Errno} (h : files.exists? path.text = .error e) :
      FirstExisting (path :: rest) (.error (.os (.about e path.text)))
  | later {path : Path} {rest : List Path} {result : Except Failure (Option Path)}
      (h : files.exists? path.text = .ok false) (hrest : FirstExisting rest result) :
      FirstExisting (path :: rest) result

/-- The file that is chosen: the one that was named, which must be there, or else the project's. -/
inductive Choice (root : Path) : Option Path → Except Failure (Option Path) → Prop where
  | named {path : Path} (h : files.exists? path.text = .ok true) :
      Choice root (some path) (.ok (some path))
  | notFound {path : Path} (h : files.exists? path.text = .ok false) :
      Choice root (some path) (.error (.config ("Config file not found: " ++ path.text)))
  | unseen {path : Path} {e : Errno} (h : files.exists? path.text = .error e) :
      Choice root (some path) (.error (.os (.about e path.text)))
  | project {result : Except Failure (Option Path)}
      (h : FirstExisting files (projectNames.map fun name => root / .ofText name) result) :
      Choice root none result

/-- What the chosen file contributes. -/
inductive ChosenReading (root : Path) (custom : Option Path) :
    Except Failure (Option Entries) → Prop where
  | notChosen {failure : Failure} (h : Choice files root custom (.error failure)) :
      ChosenReading root custom (.error failure)
  | none (h : Choice files root custom (.ok none)) : ChosenReading root custom (.ok none)
  | malformed {path : Path} (hpath : Choice files root custom (.ok (some path)))
      (h : FileReading files env path (.error (.document .malformed))) :
      ChosenReading root custom
        (.error (.config ("Invalid YAML in " ++ path.text ++ ": " ++ Yaml.malformedText)))
  | failed {path : Path} {failure : Failure} (hpath : Choice files root custom (.ok (some path)))
      (h : FileReading files env path (.error failure)) (hother : failure ≠ .document .malformed) :
      ChosenReading root custom (.error failure)
  | taken {path : Path} {data : Entries} (hpath : Choice files root custom (.ok (some path)))
      (h : FileReading files env path (.ok data)) : ChosenReading root custom (.ok (some data))

/-- Data laid over each other, the first at the bottom. -/
def layered (own file : Option Entries) (overrides : Entries) : Entries :=
  merge ((own.toList ++ file.toList).foldl merge []) overrides

/-- How the loading of a configuration ends; where the data came from is not told. -/
inductive Loading (root : Path) (custom : Option Path) (overrides : Entries) :
    Except Failure Config → Prop where
  | globalFailed {failure : Failure} (h : GlobalReading files env (.error failure)) :
      Loading root custom overrides (.error failure)
  | chosenFailed {own : Option Entries} {failure : Failure} (hown : GlobalReading files env (.ok own))
      (h : ChosenReading files env root custom (.error failure)) :
      Loading root custom overrides (.error failure)
  | rejected {own file : Option Entries} {rejection : Rejection}
      (hown : GlobalReading files env (.ok own))
      (hfile : ChosenReading files env root custom (.ok file))
      (h : ofEntries (layered own file overrides) = .error rejection) :
      Loading root custom overrides (.error rejection.failure)
  | loaded {own file : Option Entries} {config : Config} (hown : GlobalReading files env (.ok own))
      (hfile : ChosenReading files env root custom (.ok file))
      (h : ofEntries (layered own file overrides) = .ok config) :
      Loading root custom overrides (.ok config)

end Files

section Reading

variable {files : FileSystem} {env : Environment} {path : Path}

theorem endsIn_readBytes {result : Except PathFault (List UInt8)}
    (h : files.read path.text = result) :
    EndsIn files env (readBytes path) (result.mapError (Failure.ofPathFault path.text)) := by
  refine endsIn_get fun w hfiles henv => ?_
  rw [hfiles, h]
  exact endsIn_ofExcept _ _

theorem endsIn_readDocument {result : Except Yaml.Fault Value} (h : Contains files path result) :
    EndsIn files env (readDocument path) (result.mapError .document) := by
  obtain ⟨bytes, chars, hread, hchars, rfl⟩ := h
  refine (endsIn_readBytes hread).bind ?_
  rw [hchars]
  exact endsIn_ofExcept _ _

private theorem exists_contains_or (files : FileSystem) (path : Path) :
    (∃ fault, files.read path.text = .error fault) ∨
      (∃ bytes, files.read path.text = .ok bytes ∧ Utf8.decode? bytes = none) ∨
      ∃ result, Contains files path result := by
  cases hread : files.read path.text with
  | error fault => exact .inl ⟨fault, rfl⟩
  | ok bytes =>
    cases hchars : Utf8.decode? bytes with
    | none => exact .inr (.inl ⟨bytes, rfl, hchars⟩)
    | some chars => exact .inr (.inr ⟨_, bytes, chars, hread, hchars, rfl⟩)

theorem endsIn_notice (files : FileSystem) (env : Environment) (notice : Notice) :
    EndsIn files env notice.note (match notice.failure? with
      | some failure => .error failure
      | none => .ok ()) := by
  cases notice with
  | missing name => exact endsIn_log _ _ _
  | impossibleName => exact endsIn_throw _
  | endless => exact endsIn_throw _

private theorem endsIn_noteMissing_error {value : Value} {failure : Failure}
    (h : (notices env value).findSome? Notice.failure? = some failure) :
    EndsIn files env (noteMissing value) (.error failure) := by
  refine endsIn_get fun w hfiles henv => ?_
  rw [henv]
  exact endsIn_forM_error (endsIn_notice files env) h

private theorem endsIn_noteMissing {value : Value}
    (h : ∀ notice ∈ notices env value, notice.failure? = none) :
    EndsIn files env (noteMissing value) (.ok ()) := by
  refine endsIn_get fun w hfiles henv => ?_
  rw [henv]
  refine endsIn_forM fun notice hnotice => ?_
  have hends := endsIn_notice files env notice
  rw [h notice hnotice] at hends
  exact hends

theorem endsIn_readEntries {data : Entries} (h : Spells files env path data) :
    EndsIn files env (readEntries path) (.ok data) := by
  cases h with
  | empty h => exact (endsIn_readDocument h).bind (endsIn_pure [])
  | mapping h hnotices =>
    refine (endsIn_readDocument h).bind ((endsIn_noteMissing hnotices).bind ?_)
    refine endsIn_get fun w hfiles henv => ?_
    rw [henv]
    exact endsIn_pure _

theorem endsIn_checkData {source : Text} {data : Value} (hstop : (review data).stop = none) :
    EndsIn files env (checkData source data) (.ok (review data).problems) := by
  refine (endsIn_forM fun problem _ => endsIn_log _ _ _).bind ?_
  rw [hstop]
  exact endsIn_pure _

theorem endsIn_checkData_error {source : Text} {data : Value} {stop : ReviewStop}
    (hstop : (review data).stop = some stop) :
    EndsIn files env (checkData source data) (.error stop.failure) := by
  refine (endsIn_forM fun problem _ => endsIn_log _ _ _).bind ?_
  rw [hstop]
  cases stop with
  | wrongKind => exact endsIn_throw _
  | longNumber => exact endsIn_throw _

/-- The reading of a file ends as it is told. -/
theorem endsIn_readLayer {result : Except Failure Entries} (h : FileReading files env path result)
    (label : Text) :
    EndsIn files env (readLayer label path)
      (result.map fun data => ⟨data, label ++ ":" ++ path.text⟩) := by
  -- All but the last two ways end before the entries are there.
  have hearly {failure : Failure} (h : EndsIn files env (readEntries path) (.error failure)) :
      EndsIn files env (readLayer label path) (.error failure) := h.bind_error
  cases h with
  | unreadable h => exact hearly (EndsIn.bind_error (EndsIn.bind_error (endsIn_readBytes h)))
  | notUtf8 hread h =>
    refine hearly (EndsIn.bind_error ((endsIn_readBytes hread).bind ?_))
    rw [h]
    exact endsIn_throw _
  | notYaml h => exact hearly (endsIn_readDocument h).bind_error
  | @notMapping value h hnull hmap =>
    refine hearly ((endsIn_readDocument h).bind ?_)
    cases value with
    | null => exact absurd rfl hnull
    | map entries => exact absurd rfl (hmap entries)
    | _ => exact endsIn_throw _
  | notExpanded h hfails =>
    exact hearly ((endsIn_readDocument h).bind (endsIn_noteMissing_error hfails).bind_error)
  | notReviewed h hstop => exact (endsIn_readEntries h).bind (endsIn_checkData_error hstop).bind_error
  | taken h hstop =>
    exact (endsIn_readEntries h).bind ((endsIn_checkData hstop).bind (endsIn_pure _))

theorem exists_fileReading_of_spells {data : Entries} (h : Spells files env path data) :
    ∃ result, FileReading files env path result := by
  cases hstop : (review (.map data)).stop with
  | none => exact ⟨_, .taken h hstop⟩
  | some stop => exact ⟨_, .notReviewed h hstop⟩

theorem exists_fileReading (files : FileSystem) (env : Environment) (path : Path) :
    ∃ result, FileReading files env path result := by
  rcases exists_contains_or files path with ⟨fault, hread⟩ | ⟨bytes, hread, hchars⟩ | ⟨result, h⟩
  · exact ⟨_, .unreadable hread⟩
  · exact ⟨_, .notUtf8 hread hchars⟩
  cases result with
  | error fault => exact ⟨_, .notYaml h⟩
  | ok value =>
    cases value with
    | null => exact exists_fileReading_of_spells (.empty h)
    | map entries =>
      cases hfails : (notices env (.map entries)).findSome? Notice.failure? with
      | some failure => exact ⟨_, .notExpanded h hfails⟩
      | none => exact exists_fileReading_of_spells (.mapping h (List.findSome?_eq_none_iff.mp hfails))
    | _ => exact ⟨_, .notMapping h nofun nofun⟩

theorem endsIn_pathExists {result : Except Errno Bool} (h : files.exists? path.text = result) :
    EndsIn files env (pathExists path) (result.mapError fun e => .os (.about e path.text)) := by
  refine endsIn_get fun w hfiles henv => ?_
  rw [hfiles, h]
  exact endsIn_ofExcept _ _

private theorem endsIn_firstExisting {paths : List Path} {result : Except Failure (Option Path)}
    (h : FirstExisting files paths result) : EndsIn files env (firstExisting paths) result := by
  induction h with
  | none => exact endsIn_pure none
  | here h => exact (endsIn_pathExists h).bind (endsIn_pure _)
  | unseen h => exact (endsIn_pathExists h).bind_error
  | later h _ ih => exact (endsIn_pathExists h).bind ih

private theorem exists_firstExisting (files : FileSystem) (paths : List Path) :
    ∃ result, FirstExisting files paths result := by
  induction paths with
  | nil => exact ⟨_, .none⟩
  | cons path rest ih =>
    obtain ⟨result, hrest⟩ := ih
    cases h : files.exists? path.text with
    | error e => exact ⟨_, .unseen h⟩
    | ok there =>
      cases there with
      | true => exact ⟨_, .here h⟩
      | false => exact ⟨_, .later h hrest⟩

theorem endsIn_chosenFile (env : Environment) {root : Path} {custom : Option Path}
    {result : Except Failure (Option Path)} (h : Choice files root custom result) :
    ∃ label : Text, EndsIn files env (chosenFile root custom) (result.map (·.map (label, ·))) := by
  cases h with
  | named h => exact ⟨"custom", (endsIn_pathExists h).bind (endsIn_pure _)⟩
  | notFound h => exact ⟨"custom", (endsIn_pathExists h).bind (endsIn_throw _)⟩
  | unseen h => exact ⟨"custom", (endsIn_pathExists h).bind_error⟩
  | project h =>
    have hfirst : EndsIn files env (findProject root) result := endsIn_firstExisting h
    cases result with
    | error failure => exact ⟨"project", hfirst.bind_error⟩
    | ok path => exact ⟨"project", hfirst.bind (endsIn_pure _)⟩

private theorem exists_choice (files : FileSystem) (root : Path) (custom : Option Path) :
    ∃ result, Choice files root custom result := by
  cases custom with
  | none =>
    obtain ⟨result, h⟩ := exists_firstExisting files (projectNames.map fun name => root / .ofText name)
    exact ⟨result, .project h⟩
  | some path =>
    cases h : files.exists? path.text with
    | error e => exact ⟨_, .unseen h⟩
    | ok there =>
      cases there with
      | true => exact ⟨_, .named h⟩
      | false => exact ⟨_, .notFound h⟩

/-- The layers that an action gives hold this data, or it fails in this way. -/
def EndsWith (files : FileSystem) (env : Environment) (act : Act (List Layer))
    (result : Except Failure (Option Entries)) : Prop :=
  match result with
  | .error failure => EndsIn files env act (.error failure)
  | .ok data => ∃ layers, EndsIn files env act (.ok layers) ∧ layers.map Layer.data = data.toList

theorem endsIn_findGlobal {home : Path} {result : Except Errno Bool}
    (hhome : env.settingsHome? = some home) (h : files.exists? (globalPath home).text = result) :
    EndsIn files env findGlobal
      ((result.mapError fun e => .os (.about e (globalPath home).text)).map fun there =>
        if there then some (globalPath home) else none) := by
  have hsettings : EndsIn files env settingsHome (.ok home) := by
    refine endsIn_get fun w hfiles henv => ?_
    rw [henv, hhome]
    exact endsIn_pure home
  refine hsettings.bind ?_
  have hexists : EndsIn files env (pathExists (globalPath home)) _ := endsIn_pathExists h
  cases result with
  | error e => exact hexists.bind_error
  | ok there =>
    cases there with
    | true => exact hexists.bind (endsIn_pure _)
    | false => exact hexists.bind (endsIn_pure none)

/-- A file that is there, but whose trouble is only noted. -/
theorem endsIn_globalLayer_of_trouble {home : Path} {failure : Failure} {text : Text}
    (hhome : env.settingsHome? = some home) (hthere : files.exists? (globalPath home).text = .ok true)
    (h : FileReading files env (globalPath home) (.error failure))
    (htrouble : globalTrouble? failure = some text) : EndsIn files env globalLayer (.ok []) := by
  refine (endsIn_findGlobal hhome hthere).bind ((endsIn_readLayer h "global").attempt.bind ?_)
  simp only [Except.map, htrouble]
  exact (endsIn_log _ _ _).bind (endsIn_pure [])

/-- What the user's own file contributes is what is told. -/
theorem endsWith_globalLayer {result : Except Failure (Option Entries)}
    (h : GlobalReading files env result) : EndsWith files env globalLayer result := by
  cases h with
  | homeless h =>
    have hsettings : EndsIn files env settingsHome (.error (.misuse .homeUnknown)) := by
      refine endsIn_get fun w hfiles henv => ?_
      rw [henv, h]
      exact endsIn_throw _
    exact EndsIn.bind_error (EndsIn.bind_error hsettings)
  | unseen hhome h => exact (endsIn_findGlobal hhome h).bind_error
  | missing hhome h => exact ⟨[], (endsIn_findGlobal hhome h).bind (endsIn_pure []), rfl⟩
  | notOpened hhome hthere h => exact ⟨[], endsIn_globalLayer_of_trouble hhome hthere h rfl, rfl⟩
  | malformed hhome hthere h => exact ⟨[], endsIn_globalLayer_of_trouble hhome hthere h rfl, rfl⟩
  | notMapping hhome hthere h => exact ⟨[], endsIn_globalLayer_of_trouble hhome hthere h rfl, rfl⟩
  | failed hhome hthere h htrouble =>
    refine (endsIn_findGlobal hhome hthere).bind ((endsIn_readLayer h "global").attempt.bind ?_)
    simp only [Except.map, htrouble]
    exact endsIn_throw _
  | taken hhome hthere h =>
    exact ⟨_, (endsIn_findGlobal hhome hthere).bind ((endsIn_readLayer h "global").attempt.bind
      ((endsIn_log _ _ _).bind (endsIn_pure _))), rfl⟩

private theorem exists_globalReading (files : FileSystem) (env : Environment) :
    ∃ result, GlobalReading files env result := by
  cases hhome : env.settingsHome? with
  | none => exact ⟨_, .homeless hhome⟩
  | some home =>
    cases hthere : files.exists? (globalPath home).text with
    | error e => exact ⟨_, .unseen hhome hthere⟩
    | ok there =>
      cases there with
      | false => exact ⟨_, .missing hhome hthere⟩
      | true =>
        obtain ⟨result, h⟩ := exists_fileReading files env (globalPath home)
        cases result with
        | ok data => exact ⟨_, .taken hhome hthere h⟩
        | error failure =>
          cases htrouble : globalTrouble? failure with
          | none => exact ⟨_, .failed hhome hthere h htrouble⟩
          | some text =>
            cases failure with
            | config message => exact ⟨_, .notMapping hhome hthere h⟩
            | os error => exact ⟨_, .notOpened hhome hthere h⟩
            | document fault =>
              cases fault with
              | malformed => exact ⟨_, .malformed hhome hthere h⟩
              | _ => cases htrouble
            | _ => cases htrouble

theorem endsWith_fileLayer {root : Path} {custom : Option Path}
    {result : Except Failure (Option Entries)} (h : ChosenReading files env root custom result) :
    EndsWith files env (fileLayer root custom) result := by
  cases h with
  | notChosen h =>
    obtain ⟨label, hchosen⟩ := endsIn_chosenFile env h
    exact hchosen.bind_error
  | none h =>
    obtain ⟨label, hchosen⟩ := endsIn_chosenFile env h
    exact ⟨[], hchosen.bind (endsIn_pure []), rfl⟩
  | malformed hpath h =>
    obtain ⟨label, hchosen⟩ := endsIn_chosenFile env hpath
    exact hchosen.bind ((endsIn_readLayer h label).attempt.bind (endsIn_throw _))
  | @failed path failure hpath h hother =>
    obtain ⟨label, hchosen⟩ := endsIn_chosenFile env hpath
    refine hchosen.bind ((endsIn_readLayer h label).attempt.bind ?_)
    simp only [Except.map]
    exact endsIn_throw failure
  | taken hpath h =>
    obtain ⟨label, hchosen⟩ := endsIn_chosenFile env hpath
    exact ⟨_, hchosen.bind ((endsIn_readLayer h label).attempt.bind
      ((endsIn_log _ _ _).bind (endsIn_pure _))), rfl⟩

private theorem exists_chosenReading (files : FileSystem) (env : Environment) (root : Path)
    (custom : Option Path) : ∃ result, ChosenReading files env root custom result := by
  obtain ⟨choice, hchoice⟩ := exists_choice files root custom
  cases choice with
  | error failure => exact ⟨_, .notChosen hchoice⟩
  | ok found =>
    cases found with
    | none => exact ⟨_, .none hchoice⟩
    | some path =>
      obtain ⟨result, h⟩ := exists_fileReading files env path
      cases result with
      | ok data => exact ⟨_, .taken hchoice h⟩
      | error failure =>
        by_cases hmalformed : failure = .document .malformed
        · subst hmalformed
          exact ⟨_, .malformed hchoice h⟩
        · exact ⟨_, .failed hchoice h hmalformed⟩

theorem EndsWith.eq {act : Act (List Layer)} {data other : Option Entries}
    (h : EndsWith files env act (.ok data)) (hother : EndsWith files env act (.ok other)) :
    data = other := by
  -- The action gives one list of layers, so it is run in some world with these files.
  obtain ⟨layers, hends, hdata⟩ := h
  obtain ⟨layers', hends', hdata'⟩ := hother
  obtain ⟨w, hact, _⟩ := hends { files, env } rfl rfl
  obtain ⟨w', hact', _⟩ := hends' { files, env } rfl rfl
  rw [hact, Prod.mk.injEq, Except.ok.injEq] at hact'
  have hlists : data.toList = other.toList := by rw [← hdata, ← hdata', hact'.1]
  simpa using congrArg List.head? hlists

theorem GlobalReading.eq {own other : Option Entries} (h : GlobalReading files env (.ok own))
    (hother : GlobalReading files env (.ok other)) : own = other :=
  (endsWith_globalLayer h).eq (endsWith_globalLayer hother)

theorem ChosenReading.eq {root : Path} {custom : Option Path} {file other : Option Entries}
    (h : ChosenReading files env root custom (.ok file))
    (hother : ChosenReading files env root custom (.ok other)) : file = other :=
  (endsWith_fileLayer h).eq (endsWith_fileLayer hother)

private theorem endsIn_overrideLayer (overrides : Entries) :
    EndsIn files env (overrideLayer overrides) (.ok (overrideLayers overrides)) := by
  cases overrides with
  | nil => exact endsIn_pure []
  | cons entry rest => exact (endsIn_log _ _ _).bind (endsIn_pure _)

private theorem mergeLayers_eq_foldl (layers : List Layer) :
    mergeLayers layers = (layers.map Layer.data).foldl merge [] := by
  rw [mergeLayers, List.foldl_map]

variable {root : Path} {custom : Option Path} {overrides : Entries}

/-- With the layers of both files at hand, what remains is to make settings of their data with the
command line over it. -/
theorem exists_layers_of_load {own file : Option Entries} (hown : GlobalReading files env (.ok own))
    (hfile : ChosenReading files env root custom (.ok file)) :
    ∃ layers : List Layer, ∀ result, EndsIn files env (do
        let config ← convert (layered own file overrides)
        let sources := layers.map Layer.source
        Act.log .debug .loader ("Config loaded from sources: " ++ Text.quotedList sources)
        return { config with sources }) result →
      EndsIn files env (load root custom overrides) result := by
  obtain ⟨bottom, hbottom, hbottomData⟩ := endsWith_globalLayer hown
  obtain ⟨middle, hmiddle, hmiddleData⟩ := endsWith_fileLayer hfile
  refine ⟨bottom ++ middle ++ overrideLayers overrides, fun result hrest => ?_⟩
  refine hbottom.bind (hmiddle.bind ((endsIn_overrideLayer overrides).bind ?_))
  have hdata : mergeLayers (bottom ++ middle ++ overrideLayers overrides) =
      layered own file overrides := by
    rw [mergeLayers_append_overrides, mergeLayers_eq_foldl, List.map_append, hbottomData,
      hmiddleData, layered]
  rw [← hdata] at hrest
  exact hrest

/-- A load that fails fails as it is told. -/
theorem endsIn_load_error {failure : Failure}
    (h : Loading files env root custom overrides (.error failure)) :
    EndsIn files env (load root custom overrides) (.error failure) := by
  cases h with
  | globalFailed h => exact EndsIn.bind_error (endsWith_globalLayer h)
  | chosenFailed hown h =>
    obtain ⟨bottom, hbottom, _⟩ := endsWith_globalLayer hown
    exact hbottom.bind (EndsIn.bind_error (endsWith_fileLayer h))
  | rejected hown hfile h =>
    obtain ⟨layers, hload⟩ := exists_layers_of_load hown hfile
    refine hload _ (EndsIn.bind_error ?_)
    rw [convert, h]
    exact endsIn_throw _

/-- A load that succeeds gives the settings that are told. -/
theorem endsIn_load_ok {config : Config} (h : Loading files env root custom overrides (.ok config)) :
    ∃ sources, EndsIn files env (load root custom overrides) (.ok { config with sources }) := by
  cases h with
  | loaded hown hfile h =>
    obtain ⟨layers, hload⟩ := exists_layers_of_load hown hfile
    refine ⟨layers.map Layer.source, hload _ ?_⟩
    rw [convert, h]
    exact EndsIn.bind (endsIn_pure config) ((endsIn_log _ _ _).bind (endsIn_pure _))

theorem exists_loading (files : FileSystem) (env : Environment) (root : Path) (custom : Option Path)
    (overrides : Entries) : ∃ result, Loading files env root custom overrides result := by
  obtain ⟨own, hown⟩ := exists_globalReading files env
  obtain ⟨file, hfile⟩ := exists_chosenReading files env root custom
  cases own with
  | error failure => exact ⟨_, .globalFailed hown⟩
  | ok own =>
    cases file with
    | error failure => exact ⟨_, .chosenFailed hown hfile⟩
    | ok file =>
      cases h : ofEntries (layered own file overrides) with
      | error rejection => exact ⟨_, .rejected hown hfile h⟩
      | ok config => exact ⟨_, .loaded hown hfile h⟩

/-- A load fails in just the ways that are told. -/
theorem load_eq_error_iff {w : World} {failure : Failure} :
    (load root custom overrides w).1 = .error failure ↔
      Loading w.files w.env root custom overrides (.error failure) := by
  constructor
  · intro hload
    obtain ⟨result, hloading⟩ := exists_loading w.files w.env root custom overrides
    cases result with
    | error other =>
      obtain ⟨w', hends, _⟩ := endsIn_load_error hloading w rfl rfl
      rw [hends] at hload
      exact Except.error.inj hload ▸ hloading
    | ok config =>
      obtain ⟨sources, hends⟩ := endsIn_load_ok hloading
      obtain ⟨w', hends, _⟩ := hends w rfl rfl
      rw [hends] at hload
      cases hload
  · intro hloading
    obtain ⟨w', hends, _⟩ := endsIn_load_error hloading w rfl rfl
    rw [hends]

/-- What is loaded is, but for its sources, what is told. -/
theorem exists_loading_of_load {w : World} {config : Config}
    (hload : (load root custom overrides w).1 = .ok config) :
    ∃ found, Loading w.files w.env root custom overrides (.ok found) ∧
      config = { found with sources := config.sources } := by
  obtain ⟨result, hloading⟩ := exists_loading w.files w.env root custom overrides
  cases result with
  | error failure =>
    obtain ⟨w', hends, _⟩ := endsIn_load_error hloading w rfl rfl
    rw [hends] at hload
    cases hload
  | ok found =>
    obtain ⟨sources, hends⟩ := endsIn_load_ok hloading
    obtain ⟨w', hends, _⟩ := hends w rfl rfl
    rw [hends] at hload
    obtain rfl := Except.ok.inj hload
    exact ⟨found, hloading, rfl⟩

end Reading

end Config

end ScanLauncher
