import ScanLauncher.Config.Convert
import ScanLauncher.Config.File
import ScanLauncher.Config.Merge

/-!
The configuration in force: built-in values, then the user's own file, then the project's or a
chosen file, then the command line, each laid over what came before.
-/
namespace ScanLauncher.Config

/-- The names of a project's configuration file, in the order of search. -/
def projectNames : List Text :=
  [".yugaweb.yml", ".yugaweb.yaml", "yugaweb.yml", "yugaweb.yaml"]

/-- The name of the user's configuration file. -/
def globalName : Text := "config.yml"

/-- The first of some paths that leads to anything. -/
def firstExisting : List Path → Act (Option Path)
  | [] => return none
  | path :: rest => do if ← pathExists path then return some path else firstExisting rest

/-- The project's configuration file. -/
def findProject (root : Path) : Act (Option Path) :=
  firstExisting (projectNames.map fun name => root / .ofText name)

/-- The directory of the user's configuration. -/
def settingsHome : Act Path := do
  match (← get).env.settingsHome? with
  | some path => return path
  | none => throw (.misuse .homeUnknown)

/-- The user's configuration file. -/
def findGlobal : Act (Option Path) := do
  firstExisting [(← settingsHome) / .ofText globalName]

/-- A layer of configuration: its data, and where it came from. -/
structure Layer where
  data : Entries
  source : Text
deriving Repr

/-- A file as a layer. -/
def readLayer (label : Text) (path : Path) : Act Layer := do
  let data ← readEntries path
  let _ ← checkData path.text (.map data)
  return ⟨data, label ++ ":" ++ path.text⟩

/-- Notes that a layer was loaded. -/
def noteLayer (label : Text) (path : Path) : Act Unit :=
  Act.log .debug .loader ("Loaded " ++ label ++ " config from " ++ path.text)

/-- The words for a failure that makes the user's own file count as absent. -/
def globalTrouble? : Failure → Option Text
  | .document .malformed => some Yaml.malformedText
  | .config message => some message
  | .os error => some error.text
  | _ => none

/-- The user's own layer. A file that cannot be used counts as absent. -/
def globalLayer : Act (List Layer) := do
  match ← findGlobal with
  | none => return []
  | some path =>
    match ← (readLayer "global" path).attempt with
    | .ok layer =>
      noteLayer "global" path
      return [layer]
    | .error failure =>
      match globalTrouble? failure with
      | some text =>
        Act.log .warning .loader ("Failed to load global config: " ++ text)
        return []
      | none => throw failure

/-- The file of the project's layer: a chosen one, which must be there, or the one found. -/
def chosenFile (root : Path) (custom : Option Path) : Act (Option (Text × Path)) := do
  match custom with
  | some path =>
    if ← pathExists path then return some ("custom", path)
    else throw (.config ("Config file not found: " ++ path.text))
  | none => return (← findProject root).map ("project", ·)

/-- The layer of the chosen or the project's file. -/
def fileLayer (root : Path) (custom : Option Path) : Act (List Layer) := do
  match ← chosenFile root custom with
  | none => return []
  | some (label, path) =>
    match ← (readLayer label path).attempt with
    | .ok layer =>
      noteLayer label path
      return [layer]
    | .error (.document .malformed) =>
      throw (.config ("Invalid YAML in " ++ path.text ++ ": " ++ Yaml.malformedText))
    | .error failure => throw failure

/-- The layer of the command line. -/
def overrideLayer (overrides : Entries) : Act (List Layer) := do
  if overrides.isEmpty then return []
  Act.log .debug .loader "Applied CLI overrides"
  return [⟨overrides, "cli"⟩]

/-- Layers laid over each other, the first at the bottom. -/
def mergeLayers (layers : List Layer) : Entries :=
  layers.foldl (fun merged layer => merge merged layer.data) []

/-- The settings that data spells, or the failure that its rejection is. -/
def convert (data : Entries) : Act Config :=
  Act.ofExcept Rejection.failure (ofEntries data)

/-- The configuration in force. -/
def load (root : Path) (custom : Option Path) (overrides : Entries) : Act Config := do
  let bottom ← globalLayer
  let middle ← fileLayer root custom
  let top ← overrideLayer overrides
  let layers := bottom ++ middle ++ top
  let config ← convert (mergeLayers layers)
  let sources := layers.map Layer.source
  Act.log .debug .loader ("Config loaded from sources: " ++ Text.quotedList sources)
  return { config with sources }

end ScanLauncher.Config
