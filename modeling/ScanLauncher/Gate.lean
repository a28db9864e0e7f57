import ScanLauncher.World

/-!
Mutual exclusion on report directories. The lock of a directory is found by the directory's
canonical path, so that two paths to one directory share it.
-/
namespace ScanLauncher.Gate

/-- Whether the lock of a path is held. -/
def isHeld (gate : Gate) (key : Path) : Bool := (gate.locks.lookup key).getD false

/-- Enters a path into the registry, if it is not there yet. -/
def register (gate : Gate) (key : Path) : Gate :=
  if (gate.locks.lookup key).isSome then gate else ⟨gate.locks ++ [(key, false)]⟩

/-- Marks the lock of a path as held or free. -/
def mark (gate : Gate) (key : Path) (held : Bool) : Gate :=
  ⟨gate.locks.map fun (k, h) => if k == key then (k, held) else (k, h)⟩

/-- Whether a lock cannot be waited for that long: the nanoseconds must fit into 63 bits, where
those of a double are rounded first. -/
def isTooLong : Seconds → Bool
  | .whole n => 9223372036 < n
  | .real x => (x.mul (.ofInt 1000000000)).compareInt? 9223372036854775807 == some .gt

/-- Finds the lock of a report directory, and enters it if it is a new one. The lock is named by the
directory's canonical path. -/
def lockFor (reportDir : Path) : Act Path := do
  let text := reportDir.text
  let key ← Act.ofExcept (.ofResolveFault text) ((← get).files.resolve text)
  modify fun w => { w with gate := w.gate.register key }
  return key

/-- Takes the lock of a report directory. Taking it is one step, so whoever finds the lock held is one
whose wait has run out. -/
def take (reportDir key : Path) (wait : Seconds) : Act Unit := do
  if isTooLong wait then throw .tooLarge
  if (← get).gate.isHeld key then
    Act.log .warning .run ("Rejected scan: " ++ reportDir.text ++ " is in use")
    throw .busy
  modify fun w => { w with gate := w.gate.mark key true }

/-- Claims a report directory. The claim is named by its lock, which the holder gives back. -/
def acquire (reportDir : Path) (wait : Seconds) : Act Path := do
  let key ← lockFor reportDir
  take reportDir key wait
  return key

/-- Gives a claim back. -/
def release (key : Path) : Act Unit := do
  if !(← get).gate.isHeld key then throw (.misuse .lockNotHeld)
  modify fun w => { w with gate := w.gate.mark key false }

end ScanLauncher.Gate
