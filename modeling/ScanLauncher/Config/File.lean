import ScanLauncher.Config.Expand
import ScanLauncher.Config.Schema
import ScanLauncher.World
import ScanLauncher.Yaml.Document

/-!
Configuration files: reading them, and checking them without using them.
-/
namespace ScanLauncher.Config

/-- The bytes of a file. -/
def readBytes (path : Path) : Act (List UInt8) := do
  Act.ofExcept (Failure.ofPathFault path.text) ((← get).files.read path.text)

/-- The value of a configuration file whose text is read as a whole. -/
def readDocument (path : Path) : Act Value := do
  match Utf8.decode? (← readBytes path) with
  | some chars => Act.ofExcept .document (Yaml.load (.ofChars (Yaml.unifyLines chars)))
  | none => throw .notUtf8

/-- The value of a configuration file that is read as far as it is needed. -/
def scanDocument (path : Path) : Act Value := do
  Act.ofExcept .document (Yaml.load (.ofFile (← readBytes path)))

/-- Notes every variable that a value misses, up to what makes its expansion fail. -/
def noteMissing (value : Value) : Act Unit := do
  (notices (← get).env value).forM fun
    | .missing name =>
      Act.log .warning .loader
        ("Environment variable $" ++ name ++ " is not set and has no default")
    | .impossibleName => throw .notEncodable
    | .endless => throw .tooDeep

/-- The entries of a configuration file, with references to variables replaced. An empty file has
none. -/
def readEntries (path : Path) : Act Entries := do
  match ← readDocument path with
  | .null => return []
  | .map entries =>
    noteMissing (.map entries)
    return expandEntries (← get).env entries
  | value => throw (.config ("Config file must be a YAML mapping, got " ++ value.kind))

/-- Reviews data and notes every key that is not known. A review that could not be completed is a
failure. -/
def checkData (source : Text) (data : Value) : Act (List Problem) := do
  let found := review data
  (found.problems.filter Problem.isUnknownKey).forM fun problem =>
    Act.log .warning .schema (problem.notice source)
  match found.stop with
  | none => return found.problems
  | some .wrongKind => throw .wrongKind
  | some .longNumber => throw .longNumber

/-- What is wrong with a configuration file. -/
inductive FileIssue where
  | notFound (path : Text)
  | malformed
  | empty
  | problem (p : Problem)
deriving Repr

namespace FileIssue

/-- The issue in words. -/
def message : FileIssue → Text
  | notFound path => "Configuration file not found: " ++ path
  | malformed => "Invalid YAML syntax: " ++ Yaml.malformedText
  | empty => "Configuration file is empty"
  | problem p => p.message

/-- Whether the issue makes the file unusable. -/
def isError : FileIssue → Bool
  | notFound _ | malformed => true
  | empty => false
  | problem p => p.isError

/-- The key that the issue is about. -/
def key? : FileIssue → Option Value
  | problem p => p.key?
  | _ => none

/-- The key that may have been meant. -/
def suggestion? : FileIssue → Option Text
  | problem p => p.suggestion?
  | _ => none

end FileIssue

/-- Whether a path leads to anything. -/
def pathExists (path : Path) : Act Bool := do
  Act.ofExcept (fun e => .os (.about e path.text)) ((← get).files.exists? path.text)

/-- The issues of a configuration file. -/
def checkFile (path : Path) : Act (List FileIssue) := do
  if !(← pathExists path) then return [.notFound path.text]
  match ← (scanDocument path).attempt with
  | .error (.document .malformed) => return [.malformed]
  | .error failure => throw failure
  | .ok .null => return [.empty]
  | .ok data => return (← checkData path.text data).map .problem

/-- Whether a file with these issues can be used. -/
def isUsable (issues : List FileIssue) : Bool := !issues.any FileIssue.isError

end ScanLauncher.Config
