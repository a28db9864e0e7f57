import ScanLauncher.Config.Suggest
import ScanLauncher.Value.Text

/-!
What configuration data should look like: which sections and keys there are, which kinds of values
they take, and in which range. `review` lists every problem of some data; it changes nothing and
refuses nothing by itself.
-/
namespace ScanLauncher.Config

/-- The kinds of values that settings take. -/
inductive SettingKind where
  | text
  | null
  | int
  | float
deriving DecidableEq, Repr

namespace SettingKind

/-- The kind's word in messages. -/
def word : SettingKind → String
  | text => "str"
  | null => "null"
  | int => "int"
  | float => "float"

/-- Whether a value is of a kind. A truth value is of none. -/
def accepts : SettingKind → Value → Bool
  | text, .text _ => true
  | null, .null => true
  | int, .int _ => true
  | float, .float _ _ => true
  | _, _ => false

end SettingKind

/-- The sections of the configuration. -/
inductive Section where
  | tool
  | reports
  | server
deriving DecidableEq, Repr

namespace Section

/-- All sections, in the order in which they are checked. -/
def all : List Section := [tool, reports, server]

/-- A section's key. -/
def name : Section → Text
  | tool => "tool"
  | reports => "reports"
  | server => "server"

/-- The keys of a section, with the kinds of values each takes. -/
def settings : Section → List (Text × List SettingKind)
  | tool => [("executable", [.text]), ("interpreter", [.text, .null]), ("working_dir", [.text]),
      ("timeout", [.int, .float]), ("chunk_size", [.int])]
  | reports => [("output_root", [.text]), ("directory_name", [.text])]
  | server => [("host", [.text]), ("port", [.int]), ("busy_wait", [.int, .float])]

/-- The names of a section's keys. -/
def keys (s : Section) : List Text := s.settings.map (·.1)

end Section

/-- The keys at the top. -/
def topKeys : List Text := Section.all.map Section.name

/-- A problem of configuration data. -/
inductive Problem where
  | notMapping (kind : String)
  | unknownTopKey (key : Value) (suggestion : Option Text)
  | sectionNotMapping (s : Section) (kind : String)
  | unknownKey (s : Section) (key : Value) (suggestion : Option Text)
  | wrongKind (s : Section) (key : Text) (expected : List SettingKind) (kind : String)
  | negativeTimeout
  | noChunkSize
  | directoryName (name : Text)
  | port (shown : Text)
  | negativeBusyWait
deriving Repr

namespace Problem

/-- A key inside a section, written with its section. -/
def qualified (s : Section) (key : Text) : Text := s.name ++ "." ++ key

/-- A key in words. -/
def keyText (key : Value) : Text := key.plain?.getD ""

/-- The problem in words. -/
def message : Problem → Text
  | notMapping kind => "Config must be a mapping, got " ++ kind
  | unknownTopKey key _ => "Unknown top-level key '" ++ keyText key ++ "'"
  | sectionNotMapping s kind => "'" ++ s.name ++ "' must be a mapping, got " ++ kind
  | unknownKey s key _ => "Unknown key '" ++ qualified s (keyText key) ++ "'"
  | wrongKind s key expected kind =>
    "'" ++ qualified s key ++ "' must be a " ++
      String.intercalate " or " (expected.map SettingKind.word) ++ ", got " ++ kind
  | negativeTimeout => "Invalid value for 'tool.timeout': must be >= 0 (0 disables it)"
  | noChunkSize => "Invalid value for 'tool.chunk_size': must be positive"
  | directoryName name =>
    "Invalid value '" ++ name ++ "' for 'reports.directory_name': must be a single path component"
  | port shown => "Invalid value '" ++ shown ++ "' for 'server.port'"
  | negativeBusyWait => "Invalid value for 'server.busy_wait': must be >= 0"

/-- The key that the problem is about. At the top it is the key itself, whatever its kind. -/
def key? : Problem → Option Value
  | notMapping _ => none
  | unknownTopKey key _ => some key
  | sectionNotMapping s _ => some (.text s.name)
  | unknownKey s key _ => some (.text (qualified s (keyText key)))
  | wrongKind s key _ _ => some (.text (qualified s key))
  | negativeTimeout => some (.text (qualified .tool "timeout"))
  | noChunkSize => some (.text (qualified .tool "chunk_size"))
  | directoryName _ => some (.text (qualified .reports "directory_name"))
  | port _ => some (.text (qualified .server "port"))
  | negativeBusyWait => some (.text (qualified .server "busy_wait"))

/-- The key that may have been meant. -/
def suggestion? : Problem → Option Text
  | unknownTopKey _ suggestion | unknownKey _ _ suggestion => suggestion
  | _ => none

/-- Whether the problem is a key that is not known. -/
def isUnknownKey : Problem → Bool
  | unknownTopKey _ _ | unknownKey _ _ _ => true
  | _ => false

/-- The problem in words, with where it was found and what may have been meant. -/
def notice (source : Text) (p : Problem) : Text :=
  let hint : Text :=
    match p.suggestion? with
    | some key => if key.isEmpty then "" else " (did you mean '" ++ key ++ "'?)"
    | none => ""
  p.message ++ " in " ++ source ++ hint

/-- The words that make a problem an error. -/
def errorPhrases : List Text := ["must be a", "Invalid value", "Config must be"]

/-- Whether a problem is an error, by its words, or only a likely mistake. -/
def isError (p : Problem) : Bool := errorPhrases.any (Text.occursIn · p.message)

end Problem

/-- Why a review comes to no end. -/
inductive ReviewStop where
  /-- A key cannot be compared with known keys. -/
  | wrongKind
  /-- A number has too many digits to be shown. -/
  | longNumber
deriving DecidableEq, Repr

/-- The problems found, up to what stopped the review. -/
structure Review where
  problems : List Problem
  stop : Option ReviewStop := none
deriving Repr

namespace Review

/-- Nothing found. -/
def clean : Review := { problems := [] }

/-- One problem found. -/
def one (p : Problem) : Review := { problems := [p] }

/-- One review after another; nothing comes after one that was stopped. -/
def append (a b : Review) : Review :=
  if a.stop.isNone then ⟨a.problems ++ b.problems, b.stop⟩ else a

instance : Append Review := ⟨append⟩

/-- Reviews in order. -/
def all (reviews : List Review) : Review := reviews.foldl append clean

/-- One problem, if there is a reason. -/
def when (holds : Bool) (p : Problem) : Review := if holds then one p else clean

end Review

/-- The review of a key that is not among the known ones: only a text has suggestions, and only a
text or bytes can be compared with known keys at all. -/
def reviewUnknown (key : Value) (known : List Text) (problem : Option Text → Problem) :
    Review :=
  match key with
  | .text s => .one (problem (suggest s known))
  | .bytes _ => .one (problem none)
  | _ => { problems := [], stop := some .wrongKind }

/-- The review of a key at the top. -/
def reviewTopKey (key : Value) : Review :=
  match key with
  | .text s =>
    if topKeys.contains s then .clean else reviewUnknown key topKeys (.unknownTopKey key)
  | key => reviewUnknown key topKeys (.unknownTopKey key)

/-- The review of one entry of a section: its key, then the kind of its value. -/
def reviewEntry (s : Section) (key value : Value) : Review :=
  let setting :=
    match key with
    | .text name => (s.settings.lookup name).map (name, ·)
    | _ => none
  match setting with
  | none => reviewUnknown key s.keys (.unknownKey s key)
  | some (name, expected) =>
    .when (!expected.any (·.accepts value)) (.wrongKind s name expected value.kind)

/-- The review of a section. -/
def reviewSection (data : Entries) (s : Section) : Review :=
  match data.field? s.name with
  | none | some .null => .clean
  | some (.map entries) => .all (entries.map fun (key, value) => reviewEntry s key value)
  | some value => .one (.sectionNotMapping s value.kind)

/-- The order of a number and an integer; none if the value is no number. -/
def compareNumber? (value : Value) (n : Int) : Option Ordering :=
  match value with
  | .int m => some (compare m n)
  | .float x _ => x.compareInt? n
  | _ => none

/-- Whether a value is a number; a truth value is none. -/
def isNumber : Value → Bool
  | .int _ | .float _ _ => true
  | _ => false

/-- Whether a value is a number below zero. -/
def isNegative (value : Value) : Bool := compareNumber? value 0 == some .lt

/-- Whether a value is a number and not above zero. -/
def isNotPositive (value : Value) : Bool :=
  compareNumber? value 0 == some .lt || compareNumber? value 0 == some .eq

/-- Whether a value is a number that is no port; a NaN is none. -/
def isBadPort (value : Value) : Bool :=
  isNumber value &&
    !(compareNumber? value 0 == some .gt && compareNumber? value 65536 == some .lt)

/-- Whether a text is a single path component with a name of its own. -/
def isComponent (name : Text) : Bool :=
  name != "" && !name.contains '/' && name != "." && name != ".."

/-- The review of one setting's range. -/
def reviewRange (data : Entries) (s : Section) (key : Text) (check : Value → Review) : Review :=
  match data.field? s.name with
  | some (.map entries) => ((Entries.field? entries key).map check).getD .clean
  | _ => .clean

/-- The review of a directory name. -/
def reviewDirectoryName : Value → Review
  | .text name => .when (!isComponent name) (.directoryName name)
  | _ => .clean

/-- The review of a port. -/
def reviewPort (value : Value) : Review :=
  if isBadPort value then
    match value.plain? with
    | some shown => .one (.port shown)
    | none => { problems := [], stop := some .longNumber }
  else .clean

/-- The review of all ranges. -/
def reviewRanges (data : Entries) : Review :=
  .all [
    reviewRange data .tool "timeout" fun v => .when (isNegative v) .negativeTimeout,
    reviewRange data .tool "chunk_size" fun v => .when (isNotPositive v) .noChunkSize,
    reviewRange data .reports "directory_name" reviewDirectoryName,
    reviewRange data .server "port" reviewPort,
    reviewRange data .server "busy_wait" fun v => .when (isNegative v) .negativeBusyWait]

/-- The review of configuration data: the top, the sections, then the ranges. -/
def review : Value → Review
  | .map data =>
    .all (data.map fun entry => reviewTopKey entry.1) ++
      .all (Section.all.map (reviewSection data)) ++ reviewRanges data
  | value => .one (.notMapping value.kind)

end ScanLauncher.Config
