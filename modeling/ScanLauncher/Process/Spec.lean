import ScanLauncher.Config.Basic
import ScanLauncher.Files.Change

/-!
What a child process does, as far as the launcher can see it: its output step by step, its exit, and
how it takes signals.
-/
namespace ScanLauncher

/-- The signals that the launcher sends. -/
inductive Signal where
  | terminate
  | kill
deriving DecidableEq, Repr

namespace Signal

/-- A signal's number. -/
def number : Signal → Nat
  | terminate => 15
  | kill => 9

/-- The exit status of a child that a signal ended. -/
def status (s : Signal) : Int := -(s.number : Int)

end Signal

/-- One step of a child's output. -/
inductive OutputStep where
  /-- Bytes become available. -/
  | data (bytes : List UInt8)
  /-- The child changes files. -/
  | change (changes : List Change)
  /-- Nothing comes until a running timer has fired. -/
  | hang
  /-- Reading fails. -/
  | readError (error : OsError)
  /-- The user interrupts the read. -/
  | interrupt
deriving DecidableEq, Repr

/-- How an injected fault shows. -/
inductive FaultEffect where
  /-- The call fails with an error number. -/
  | errno (e : Errno)
  /-- The call fails with a text alone. -/
  | text (s : Text)
  /-- The call does nothing. -/
  | silent
deriving DecidableEq, Repr

/-- The errors with which signals fail, if they do. -/
structure SignalErrors where
  terminate : Option Errno := none
  kill : Option Errno := none
deriving DecidableEq, Repr

namespace SignalErrors

/-- The error of one of the signals. -/
def of (errors : SignalErrors) : Signal → Option Errno
  | .terminate => errors.terminate
  | .kill => errors.kill

/-- The same error for both. -/
instance : Coe (Option Errno) SignalErrors := ⟨fun error => ⟨error, error⟩⟩

end SignalErrors

/-- Who holds the output of a child: it ends when all of them have. -/
inductive Holders where
  /-- A child that stands for its whole group: what it takes alone all take, even after its end. -/
  | together
  /-- The child alone. -/
  | child
  /-- The child and others of its group. -/
  | group
  /-- Others too, who have left the group. -/
  | others
deriving DecidableEq, Repr

/-- The behaviour of a child. -/
structure ProcessSpec where
  output : List OutputStep := []
  exit : Int := 0
  /-- The child itself has exited, although its output is still open. -/
  leaderExited : Bool := false
  ignoresTerminate : Bool := false
  /-- Asked to end, the child does so in its own way, with all the output that is left. -/
  endsInOrder : Bool := false
  /-- How many output steps still come from a child that runs on after the request to end, until it
  is ended by force; what it wrote before can still be read then. Where nothing is said, its pipe is
  lost with it. -/
  lastSteps : Option Nat := none
  holders : Holders := .together
  /-- The errors of signals to the child's group. -/
  groupError : SignalErrors := {}
  /-- The errors of signals to the child alone, while it runs. -/
  childError : SignalErrors := {}
  /-- No thread can be had for the timer of this child. -/
  lacksThread : Bool := false
  launchError : Option FaultEffect := none
  /-- The system looks at the command before it starts anything; a stand-in takes it as it is. -/
  checksCommand : Bool := false
deriving DecidableEq, Repr

/-- What the launcher does to its children, as an observer sees it. -/
inductive TraceEvent where
  | spawn (command : List Value) (workingDir : Text)
  | signalGroup (pid : Nat) (s : Signal)
  | signalChild (s : Signal)
  | startTimer (interval : Seconds)
  | cancelTimer
  | closeOutput
deriving Repr

end ScanLauncher
