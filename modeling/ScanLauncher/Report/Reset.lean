import ScanLauncher.World

/-!
The removal of a stale report directory. Links are removed, never followed: a link at the path
itself is taken away as a link, and so are the links inside the tree.
-/
namespace ScanLauncher.Report

/-- Makes a call on a path, or shows the fault that was set for it instead. -/
def withFault (fault : Option FaultEffect) (path : Path) (call : Act Unit) : Act Unit :=
  match fault with
  | none => call
  | some .silent => pure ()
  | some (.errno e) => throw (.os (.about e path.text))
  | some (.text s) => throw (.os (.described s))

/-- Whether there is anything at a path. -/
def hasEntry (path : Path) : Act Bool := do
  Act.ofExcept (Failure.ofPathFault path.text) ((← get).files.hasEntry? path.text)

/-- Asks a question about a path. -/
def ask (question : FileSystem → Text → Except Errno Bool) (path : Path) : Act Bool := do
  Act.ofExcept (fun e => .os (.about e path.text)) (question (← get).files path.text)

/-- Takes away the link or file at a path. -/
def unlink (path : Path) : Act Unit := do
  let files ← Act.ofExcept (Failure.ofPathFault path.text) ((← get).files.unlink path.text)
  modify fun w => { w with files }

/-- Takes away the directory at a path with all that is in it. -/
def removeTree (path : Path) : Act Unit := do
  let (files, result) := (← get).files.removeTree path.text
  modify fun w => { w with files }
  Act.ofExcept (Failure.ofPathFault path.text) result

/-- Takes away whatever is at a path. -/
def remove (path : Path) : Act Unit := do
  let isTree ← do
    if ← ask FileSystem.isLink? path then pure false else ask FileSystem.isDirectory? path
  let faults := (← get).faults
  if isTree then
    if faults.isRemovalUnsafe then
      Act.log .debug .reset "shutil.rmtree is not symlink-attack safe on this platform"
    withFault faults.removeTree path (removeTree path)
  else withFault faults.unlink path (unlink path)

/-- Removes a report directory. The answer says whether nothing is at its path afterwards; errors of
the system are noted and not raised. -/
def reset (path : Path) : Act Bool := do
  if !(← hasEntry path) then
    Act.log .debug .reset ("Report directory " ++ path.text ++ " absent, nothing to reset")
    return true
  match ← (remove path).attempt with
  | .error (.os error) =>
    Act.log .warning .reset
      ("Failed to reset report directory " ++ path.text ++ ": " ++ error.text)
    return false
  | .error failure => throw failure
  | .ok () =>
    if ← hasEntry path then
      Act.log .warning .reset ("Report directory " ++ path.text ++ " still exists after reset")
      return false
    Act.log .info .reset ("Reset report directory " ++ path.text)
    return true

end ScanLauncher.Report
