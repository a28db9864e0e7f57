import ScanLauncher.Config.Basic
import ScanLauncher.Failure
import ScanLauncher.Number.Numeral

/-!
Settings from configuration data. Texts take any value as it prints; numbers take numbers and
numerals. A number that would stall every run or drop its output is refused.
-/
namespace ScanLauncher.Config

/-- Why a value is no number. -/
inductive NumberFault where
  | malformedInt (shown : Text)
  | malformedFloat (shown : Text)
  | longInt (digits : Nat)
  /-- A text setting holds an integer of too many digits to be written. -/
  | longText
  | nanToInt
  | notIntLike (kind : String)
  | notFloatLike (kind : String)
  /-- A number too large for its setting. -/
  | tooLarge
deriving DecidableEq, Repr

namespace NumberFault

/-- The fault in words. -/
def message : NumberFault → Text
  | malformedInt shown => "invalid literal for int() with base 10: " ++ shown
  | malformedFloat shown => "could not convert string to float: " ++ shown
  | longInt digits =>
    "Exceeds the limit (" ++ Text.decimal Numeral.digitLimit ++
      " digits) for integer string conversion: value has " ++ Text.decimal digits ++
      " digits; use sys.set_int_max_str_digits() to increase the limit"
  | longText =>
    "Exceeds the limit (" ++ Text.decimal Numeral.digitLimit ++ " digits) for integer string " ++
      "conversion; use sys.set_int_max_str_digits() to increase the limit"
  | nanToInt => "cannot convert float NaN to integer"
  | notIntLike kind =>
    "int() argument must be a string, a bytes-like object or a real number, not '" ++ kind ++ "'"
  | notFloatLike kind => "float() argument must be a string or a real number, not '" ++ kind ++ "'"
  | tooLarge => "number too large"

end NumberFault

/-- The word for a value's kind where a number is wanted; dates carry their module's name. -/
def numberKind : Value → String
  | .date _ => "datetime.date"
  | .moment _ => "datetime.datetime"
  | value => value.kind

/-- The characters of a byte string as far as a numeral can use them. -/
def byteChars (bytes : List UInt8) : List Char :=
  bytes.map fun b => if b < 0x80 then Char.ofNat b.toNat else '\uFFFD'

/-- A shown text, cut for an integer's message. -/
def cutShown (shown : Text) : Text := shown.take 200

/-- The integer that a text spells. -/
def intOfChars (chars : List Char) (shown : Text) : Except NumberFault Int :=
  match Numeral.readInt chars with
  | .value n => .ok n
  | .malformed => .error (.malformedInt (cutShown shown))
  | .tooLong digits => .error (.longInt digits)

/-- The integer of a value: numbers are truncated, numerals are read. -/
def toInt : Value → Except NumberFault Int
  | .bool b => .ok (if b then 1 else 0)
  | .int n => .ok n
  | .float x _ =>
    match x.truncate? with
    | some n => .ok n
    | none => .error (if x == .nan then .nanToInt else .tooLarge)
  | .text s => intOfChars s.toCharsLossy (Text.quoted s)
  | .bytes content => intOfChars (byteChars content) (Text.quotedBytes content)
  | value => .error (.notIntLike (numberKind value))

/-- The double that a text spells. -/
def floatOfChars (chars : List Char) (shown : Text) : Except NumberFault Binary64 :=
  match Numeral.readFloat? chars with
  | some x => .ok x
  | none => .error (.malformedFloat shown)

/-- The double of a value: integers are rounded, numerals are read. -/
def toFloat : Value → Except NumberFault Binary64
  | .bool b => .ok (.ofInt (if b then 1 else 0))
  | .int n =>
    match Binary64.ofInt n with
    | .infinity _ => .error .tooLarge
    | x => .ok x
  | .float x _ => .ok x
  | .text s => floatOfChars s.toCharsLossy (Text.quoted s)
  | .bytes content => floatOfChars (byteChars content) (Text.quotedBytes content)
  | value => .error (.notFloatLike (numberKind value))

/-- The entries of a section; a section that is no mapping counts as empty. -/
def sectionOf (data : Entries) (name : Text) : Entries :=
  match data.field? name with
  | some (.map entries) => entries
  | _ => []

/-- A text setting: any value as it prints. -/
def textSetting (entries : Entries) (name fallback : Text) : Except NumberFault Text :=
  match (entries.field? name).map Value.plain? with
  | none => .ok fallback
  | some (some text) => .ok text
  | some none => .error .longText

/-- An integer setting. -/
def intSetting (entries : Entries) (name : Text) (fallback : Int) : Except NumberFault Int :=
  ((entries.field? name).map toInt).getD (.ok fallback)

/-- A duration setting, always a double. -/
def secondsSetting (entries : Entries) (name : Text) (fallback : Seconds) :
    Except NumberFault Seconds :=
  ((entries.field? name).map toFloat).getD (.ok fallback.toBinary64) |>.map .real

/-- The interpreter: a value that is not given means none. -/
def interpreterSetting (entries : Entries) (fallback : Option Value) : Option Value :=
  match entries.field? "interpreter" with
  | some value => if value.isGiven then some value else none
  | none => fallback

/-- Why data makes no settings. -/
inductive Rejection where
  | number (fault : NumberFault)
  | chunkSize (n : Int)
  /-- A report setting holds an integer of too many digits to be written. -/
  | reports
  | timeout (s : Seconds)
  | busyWait (s : Seconds)
deriving DecidableEq, Repr

/-- The tool's settings. -/
def toolSettings (entries : Entries) : Except NumberFault ToolSettings := do
  let fallback : ToolSettings := {}
  let executable ← textSetting entries "executable" fallback.executable
  let interpreter := interpreterSetting entries fallback.interpreter
  let workingDir ← textSetting entries "working_dir" fallback.workingDir
  let timeout ← secondsSetting entries "timeout" fallback.timeout
  let chunkSize ← intSetting entries "chunk_size" fallback.chunkSize
  return { executable, interpreter, workingDir, timeout, chunkSize }

/-- The server's settings. -/
def serverSettings (entries : Entries) : Except NumberFault ServerSettings := do
  let fallback : ServerSettings := {}
  let host ← textSetting entries "host" fallback.host
  let port ← intSetting entries "port" fallback.port
  let busyWait ← secondsSetting entries "busy_wait" fallback.busyWait
  return { host, port, busyWait }

/-- The report settings. -/
def reportSettings (entries : Entries) : Except NumberFault ReportSettings := do
  let fallback : ReportSettings := {}
  let outputRoot ← textSetting entries "output_root" fallback.outputRoot
  let directoryName ← textSetting entries "directory_name" fallback.directoryName
  return { outputRoot, directoryName }

/-- Whether a duration is below zero; a NaN is not. -/
def isBelowZero (s : Seconds) : Bool := s.toBinary64.isNegative

/-- The settings that data spells. -/
def ofEntries (data : Entries) : Except Rejection Config := do
  let tool ← (toolSettings (sectionOf data "tool")).mapError .number
  let server ← (serverSettings (sectionOf data "server")).mapError .number
  if tool.chunkSize ≤ 0 then .error (.chunkSize tool.chunkSize)
  else if isBelowZero tool.timeout then .error (.timeout tool.timeout)
  else if isBelowZero server.busyWait then .error (.busyWait server.busyWait)
  else
    let reports ← (reportSettings (sectionOf data "reports")).mapError fun _ => .reports
    return { tool, server, reports }

namespace Rejection

/-- The words for a setting that is out of its range. -/
def rangeMessage (setting : String) (bound shown : Text) : Text :=
  setting ++ " must be " ++ bound ++ ", got " ++ shown

/-- The failure that a rejection is. A number that is too large, or too long to be shown, is no
matter of configuration. -/
def failure : Rejection → Failure
  | number .tooLarge => .tooLarge
  | number fault => .config ("Invalid configuration value: " ++ fault.message)
  | chunkSize n =>
    match Numeral.ofInt? n with
    | some shown => .config (rangeMessage "tool.chunk_size" "positive" shown)
    | none => .longNumber
  | timeout s => .config (rangeMessage "tool.timeout" ">= 0" s.briefText)
  | busyWait s => .config (rangeMessage "server.busy_wait" ">= 0" s.briefText)
  | reports => .longNumber

end Rejection

end ScanLauncher.Config
