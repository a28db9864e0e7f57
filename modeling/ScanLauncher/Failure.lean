import ScanLauncher.Files.Errno
import ScanLauncher.Files.Resolve
import ScanLauncher.Value.Text
import ScanLauncher.Yaml.Cursor

/-!
Why an action fails.
-/
namespace ScanLauncher

/-- Calls that come too early, too late or too often, or where they cannot be served. -/
inductive Misuse where
  | alreadyConsumed
  | notDrained
  | notStarted
  | lockNotHeld
  | homeUnknown
  | noThread
deriving DecidableEq, Repr

namespace Misuse

/-- The misuse in words. -/
def message : Misuse → String
  | alreadyConsumed => "Output stream has already been consumed"
  | notDrained => "Exit status is only available after output is drained"
  | notStarted => "Scan has not been started"
  | lockNotHeld => "release unlocked lock"
  | homeUnknown => "Could not determine home directory."
  | noThread => "can't start new thread"

end Misuse

/-- A cause of failure. -/
inductive Failure where
  /-- The configuration is at fault, in words. -/
  | config (message : Text)
  /-- The analysis script could not be started, in words. -/
  | launch (message : Text)
  /-- Another scan holds the report directory. -/
  | busy
  | misuse (m : Misuse)
  | os (error : OsError)
  /-- Links lead back to themselves. -/
  | linkLoop
  /-- A closed stream was read. -/
  | closedStream
  /-- A path holds a NUL. -/
  | nulInPath
  /-- A file that should be text is none. -/
  | notUtf8
  /-- A name cannot be written as text. -/
  | notEncodable
  /-- A number is too large for its use. -/
  | tooLarge
  /-- An integer has too many digits to be written. -/
  | longNumber
  /-- Values inside values, or links inside links, go too deep. -/
  | tooDeep
  /-- A value is of a kind that cannot be used here. -/
  | wrongKind
  /-- A value that is no text stands where only text can be shown. -/
  | notShowable
  /-- A command without a program was to be started. -/
  | noProgram
  /-- A request is none that could be sent. -/
  | badRequest
  /-- A request goes to a host whose name is none. -/
  | badHost
  /-- A configuration document cannot be read. -/
  | document (fault : Yaml.Fault)
  /-- The user interrupted the program. -/
  | interrupted
deriving Repr

namespace Failure

/-- The text of a failed launch. -/
def launchMessage (program reason : Text) : Text := "Failed to launch " ++ program ++ ": " ++ reason

/-- The text of a rejected scan. -/
def busyMessage : String := "scan already in progress"

/-- The failure of a path. -/
def ofPathFault (path : Text) : PathFault → Failure
  | .errno e => .os (.about e path)
  | .nul => .nulInPath
  | .unencodable => .notEncodable

/-- The failure of a resolution. -/
def ofResolveFault (path : Text) : ResolveFault → Failure
  | .path fault => ofPathFault path fault
  | .linkLoop => .linkLoop
  | .tooDeep => .tooDeep

/-- The message of a failure that the program raises by itself. -/
def message? : Failure → Option Text
  | config message => some message
  | launch message => some message
  | busy => some busyMessage
  | misuse m => some m.message
  | _ => none

end Failure

end ScanLauncher
