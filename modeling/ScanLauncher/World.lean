import ScanLauncher.Environment
import ScanLauncher.Failure
import ScanLauncher.Log
import ScanLauncher.Process.Spec

/-!
What actions act on: files, environment, the children to come, the registry of locks, and the
records kept of it all. An action may fail; what it did before stays done.
-/
namespace ScanLauncher

/-- The locks on report directories, by canonical path. A lock stays in the registry when it is
released. -/
structure Gate where
  locks : List (Path × Bool) := []
deriving DecidableEq, Repr

/-- Faults that the file system is made to show. -/
structure Faults where
  removeTree : Option FaultEffect := none
  unlink : Option FaultEffect := none
  list : Option FaultEffect := none
  /-- Whether trees are removed in a way that links can divert. -/
  isRemovalUnsafe : Bool := false
deriving DecidableEq, Repr

/-- Everything outside a single run. -/
structure World where
  files : FileSystem
  env : Environment := []
  /-- The behaviours of the children to come. -/
  specs : List ProcessSpec := []
  /-- How many launches there were. -/
  launches : Nat := 0
  /-- The children that were started but got no session. Nobody stops them. -/
  strays : List Nat := []
  gate : Gate := {}
  faults : Faults := {}
  log : List LogRecord := []
  trace : List TraceEvent := []
deriving Repr

/-- An action on the world. -/
abbrev Act := ExceptT Failure (StateM World)

/-- An action on an object and on the world around it. -/
abbrev ActOn (σ : Type) := ExceptT Failure (StateT σ (StateM World))

/-- Writes a record into the log. -/
def World.note (w : World) (level : LogLevel) (origin : Origin) (message : Text) : World :=
  { w with log := w.log ++ [⟨level, origin, message⟩] }

namespace Act

/-- Writes a record into the log. -/
def log (level : LogLevel) (origin : Origin) (message : Text) : Act Unit :=
  modify (·.note level origin message)

/-- Writes an event into the trace. -/
def trace (event : TraceEvent) : Act Unit :=
  modify fun w => { w with trace := w.trace ++ [event] }

/-- The outcome of an action, which then cannot fail. -/
def attempt {α : Type} (act : Act α) : Act (Except Failure α) := fun w =>
  match act w with
  | (result, w) => (.ok result, w)

/-- Does `cleanup` if an action fails, and fails then. -/
def onFailure {α : Type} (act : Act α) (cleanup : Act Unit) : Act α := do
  match ← act.attempt with
  | .ok a => return a
  | .error failure =>
    cleanup
    throw failure

/-- The result of a computation whose error is a failure. -/
def ofExcept {ε α : Type} (toFailure : ε → Failure) : Except ε α → Act α
  | .ok a => pure a
  | .error e => throw (toFailure e)

end Act

namespace ActOn

variable {σ τ α : Type}

/-- An action on the world alone. -/
def lift (act : Act α) : ActOn σ α := fun object w =>
  match act w with
  | (result, w) => ((result, object), w)

/-- An action on a part of an object. -/
def part (view : σ → τ) (update : σ → τ → σ) (act : ActOn τ α) : ActOn σ α := fun object w =>
  match act (view object) w with
  | ((result, piece), w) => ((result, update object piece), w)

/-- The outcome of an action, which then cannot fail. -/
def attempt (act : ActOn σ α) : ActOn σ (Except Failure α) := fun object w =>
  match act object w with
  | ((result, object), w) => ((.ok result, object), w)

/-- Does `cleanup` if an action fails, and fails then. -/
def onFailure (act : ActOn σ α) (cleanup : ActOn σ Unit) : ActOn σ α := do
  match ← act.attempt with
  | .ok a => return a
  | .error failure =>
    cleanup
    throw failure

/-- Acts on an object and hands it back, beside the outcome. -/
def runOn (act : ActOn σ α) (object : σ) : Act (Except Failure α × σ) := fun w =>
  match act object w with
  | (outcome, w) => (.ok outcome, w)

end ActOn

end ScanLauncher
