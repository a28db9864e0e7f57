import ScanLauncher.Files.Search
import ScanLauncher.Process.Session
import ScanLauncher.Shell.Eval

/-!
What a command will do as a child: which program it names, why it cannot be started if it cannot,
and what whoever reads its output will see. This stands for the system on which the launcher runs. A
session knows of it only what a child's behaviour says, so all that holds of every child holds of
these.
-/
namespace ScanLauncher

namespace Behaviour

open Shell (State Work Jump)

/-- How deep a child's work may go before it counts as endless. -/
def depth : Nat := 20000

/-- The error of something that is there but is no program. -/
def exclude {α : Type} : Except Errno α := .error .denied

/-- The work of the file at a path, which may be a script that names its interpreter. -/
def workAt (files : FileSystem) (path : String) (arguments : List String) :
    Except Errno (Work Nat) :=
  match Shell.Utility.atPath? path with
  | some program => .ok (Shell.runSystem depth true program path arguments)
  | none =>
    match files.lookup true (Shell.pathOf path) with
    | .error (.errno e) => .error e
    | .error _ => .error .notFound
    | .ok (_, .file content true) =>
      match Shell.interpreterOf? content with
      | none | some [] => .error .notProgram
      | some (interpreter :: options) =>
        match Shell.Utility.atPath? interpreter, files.lookup true (Shell.pathOf interpreter) with
        | some program, _ =>
          .ok (Shell.runSystem depth true program interpreter (options ++ path :: arguments))
        | none, .error (.errno e) => .error e
        | none, .error _ => .error .notFound
        | none, .ok _ => exclude
    | .ok _ => exclude

/-- The error of a name that the system's own directories have no program of: it may mean such a
directory itself, or be no name at all. -/
def systemError (name : String) (error : Errno) : Errno :=
  if name == "" || name == "." || name == ".." then .denied
  else if name.length > FileSystem.nameLimit then .nameTooLong
  else error

/-- A name in a directory of the search path; an empty one is the current directory. -/
def inDirectory (directory name : String) : String :=
  if directory.isEmpty then name
  else if directory.endsWith "/" then directory ++ name
  else directory ++ "/" ++ name

/-- The work of a name along some directories. A directory that lacks it is passed over; any other
error is the answer if no directory has it. -/
def workAlong (files : FileSystem) (name : String) (arguments : List String) (error : Errno) :
    List String → Except Errno (Work Nat)
  | [] => .error error
  | directory :: rest =>
    if Shell.Utility.directories.contains directory then
      if Shell.Utility.isKnown name && directory != "/usr/local/bin" then
        .ok (Shell.runSystem depth true name name arguments)
      else
        workAlong files name arguments (systemError name error) rest
    else
      match workAt files (inDirectory directory name) arguments with
      | .ok work => .ok work
      | .error e =>
        let isAbsence := e == .notFound || e == .notDirectory
        workAlong files name arguments (if isAbsence || error != .notFound then error else e) rest

/-- The work of a command in a directory. -/
def workOf (files : FileSystem) (env : Environment) (command : List String) :
    Except Errno (Work Nat) :=
  match command with
  | [] => .error .notFound
  | name :: arguments =>
    if name.toList.contains '/' then workAt files name arguments
    else
      workAlong files name arguments .notFound
        ((FileSystem.searchDirectories env).map Shell.ofText)

/-- The exit status of ended work. -/
def exitOf : Except Jump Nat → Int
  | .ok status | .error (.exit status) | .error (.leaveFunction status) => status
  | .error (.killed _ signal) => -(signal : Int)
  | .error _ => 0

/-- What is seen of work that did not come to its end: nothing more. -/
def closeSteps (result : Except Jump Nat) (steps : List OutputStep) : List OutputStep :=
  match result with
  | .error .endless => .hang :: steps
  | _ => steps

/-- Whether work ended at the request that came to all processes. -/
def endedOnRequest : Except Jump Nat → Bool
  | .error .asked => true
  | _ => false

/-- What others see of work from its first state on: its own part, and that of the jobs it leaves
behind. -/
def specOf (work : Work Nat) (first : State) : ProcessSpec :=
  let (result, ended) := work first
  let own := closeSteps result ended.outside.steps
  let jobs := if endedOnRequest result then [] else ended.jobs
  let (rest, last) := Shell.runJobs depth true
    { ended with jobs, outside := { ended.outside with steps := own } }
  { output := (closeSteps rest last.outside.steps).reverse
    exit := exitOf result
    leaderExited := !jobs.isEmpty && !own.contains .hang
    ignoresTerminate := last.outside.lastSteps.isSome
    endsInOrder := ended.outside.isAsked && !endedOnRequest result
    lastSteps := some (last.outside.lastSteps.getD 0)
    holders := if jobs.isEmpty then .child else .group }

/-- The state in which a child begins. -/
def beginning (files : FileSystem) (env : Environment) (command : List String)
    (limit : Option Seconds) : State :=
  let bindings := env.map fun (name, value) => (Shell.ofText name, Shell.ofText value)
  { frame :=
      { name := command.headD ""
        bindings
        exported := bindings.map Prod.fst
        cwd := files.cwd }
    outside :=
      { tree := files.tree
        limit := (limit.filter (!·.isZero)).map Seconds.toBinary64 } }

/-- What a command will do as a child, or the error with which it is not started. -/
def ofCommand (files : FileSystem) (env : Environment) (command : List Text)
    (workingDir : Text) (limit : Option Seconds) : ProcessSpec :=
  let command := command.map Shell.ofText
  let started : Except Errno ProcessSpec := do
    match files.lookup true workingDir with
    | .ok (cwd, .directory) =>
      let files := { files with cwd }
      let work ← workOf files env command
      return specOf work (beginning files env command limit)
    | .ok _ => .error .notDirectory
    | .error (.errno e) => .error e
    | .error _ => .error .notFound
  match started with
  | .ok spec => { spec with checksCommand := true }
  | .error e => { launchError := some (.errno e), checksCommand := true }

end Behaviour

namespace Session

/-- Starts a command of the system and gives its session. -/
def launchCommand (command : List Text) (workingDir : Text) (chunkSize : Int)
    (timeout : Option Seconds) : Act Session := do
  let w ← get
  let spec := Behaviour.ofCommand w.files w.env command workingDir timeout
  set { w with specs := spec :: w.specs }
  launch (command.map Value.text) workingDir chunkSize timeout

end Session

end ScanLauncher
