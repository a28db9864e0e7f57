import ScanLauncher.Environment
import ScanLauncher.Files.Walk

/-!
The search for a program by its name, along the directories that the environment lists.
-/
namespace ScanLauncher.FileSystem

/-- Whether a path leads to something that can be run: a file with the execute bit. -/
def isProgram (fs : FileSystem) (path : Text) : Bool :=
  match fs.lookup true path with
  | .ok (_, .file _ isExecutable) => isExecutable
  | _ => false

/-- The directories searched where the environment lists none. -/
def standardDirectories : String := "/bin:/usr/bin"

/-- The directories searched for programs. An empty list is no list at all. -/
def searchDirectories (env : Environment) : List Text :=
  let listed := (env.get? "PATH").getD standardDirectories
  if listed.isEmpty then [] else listed.splitOn ':'

/-- The first program of a name. -/
def findProgram? (fs : FileSystem) (env : Environment) (name : Text) : Option Text :=
  ((searchDirectories env).map (Path.joinText · name)).find? fun path => fs.isProgram path

/-- The analysis script as the child would find it: a plain name along the search directories, any
other path from the working directory. -/
def findScript? (fs : FileSystem) (env : Environment) (executable workingDir : Text) :
    Except Errno (Option Path) := do
  let candidate := Path.ofText executable
  if !candidate.isAbsolute && !executable.contains '/' then
    return (fs.findProgram? env executable).map Path.ofText
  let candidate := Path.ofText workingDir / candidate
  return if ← fs.isFile? candidate.text then some candidate else none

end ScanLauncher.FileSystem
