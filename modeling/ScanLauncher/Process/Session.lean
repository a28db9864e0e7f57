import ScanLauncher.World

/-!
One running child and the session that owns it. Its output is read once, in chunks; its exit status
is known after the output has ended; and it is stopped with its whole group, by a request first and
then by force.
-/
namespace ScanLauncher

/-- A child process and its output pipe. -/
structure Child where
  pid : Nat
  spec : ProcessSpec
  /-- The output steps not taken yet. -/
  steps : List OutputStep
  /-- Bytes written and not read yet. -/
  pending : List UInt8 := []
  /-- Whether all output has been read. -/
  isAtEnd : Bool := false
  /-- How many of the last output steps will not come, if nobody is left who writes to the pipe. -/
  lost : Option Nat := none
  /-- Whether the reading end has been closed. -/
  isClosed : Bool := false
  killedBy : Option Signal := none
  /-- Whether the child ended in its own way after it was asked to. -/
  hasEndedInOrder : Bool := false
deriving Repr

namespace Child

/-- A child that was just started. -/
def start (pid : Nat) (spec : ProcessSpec) : Child := { pid, spec, steps := spec.output }

/-- The exit status, if the child is no longer running. -/
def poll (child : Child) : Option Int :=
  match child.killedBy with
  | some s => some s.status
  | none =>
    if child.spec.leaderExited || child.isAtEnd || child.hasEndedInOrder then some child.spec.exit
    else none

/-- Whether the child is running. -/
def isRunning (child : Child) : Bool := child.poll.isNone

/-- Whether the pipe has lost its writers and holds nothing any more. -/
def isCutOff (child : Child) : Bool :=
  child.lost.any (child.steps.length ≤ ·) &&
    (child.pending.isEmpty || child.spec.lastSteps.isNone)

/-- Who takes a signal to a child. -/
inductive Reach where
  | nobody
  /-- The child, but not all who hold its output. -/
  | child
  /-- The child, if it runs, and all who hold its output. -/
  | holders
deriving DecidableEq, Repr

/-- Who takes a signal to the child alone. One that has ended takes none. -/
def reachAlone (child : Child) : Reach :=
  match child.spec.holders with
  | .together => .holders
  | .child => if child.isRunning then .holders else .nobody
  | .group | .others => if child.isRunning then .child else .nobody

/-- The error of a signal to the child alone. One that has ended is not signalled at all. -/
def aloneError? (child : Child) (s : Signal) : Option Errno :=
  if child.isRunning then child.spec.childError.of s else none

/-- Who takes a signal to the child's group. -/
def reachGroup (child : Child) : Reach :=
  if child.spec.holders == .others then .child else .holders

/-- The number of output steps that will not come when the child is ended by a signal now. One that
is still running when it is forced to end has had the time until then. -/
def losing (child : Child) (s : Signal) : Nat :=
  if s == .kill && child.isRunning then child.steps.length - child.spec.lastSteps.getD 0
  else child.steps.length

/-- A signal is taken. A child that is running ends by it, or in its own way if that is how it takes
the request to end; and if all who hold the output take it the pipe has no writer any more. The
request may be ignored, but not force. A child that has ended in its own way leaves nothing to
signal. -/
def deliver (child : Child) (s : Signal) (reach : Reach) : Child :=
  if reach == .nobody || s == .terminate && child.spec.ignoresTerminate ||
      child.hasEndedInOrder then child
  else if s == .terminate && child.spec.endsInOrder && child.isRunning then
    { child with hasEndedInOrder := true }
  else
    { child with
      killedBy := if child.isRunning then some s else child.killedBy
      lost := child.lost <|> if reach == .holders then some (child.losing s) else none }

/-- Waits for the child to end by itself. -/
def finish (child : Child) : Child :=
  if child.isRunning then { child with isAtEnd := true } else child

/-- Whether a signal finds neither the group nor, where the group cannot be signalled, the child. -/
def isGoneFor (child : Child) (s : Signal) : Bool :=
  match child.spec.groupError.of s with
  | none => false
  | some e => e == .noProcess || child.spec.childError.of s == some .noProcess

/-- Waits for the child after it was forced to end. Where force found nobody the child ends in its own
time; where it was taken there is nothing to wait for. -/
def reap (child : Child) : Child := if child.isGoneFor .kill then child.finish else child

/-- Its exit status after waiting for it. -/
def finalStatus (child : Child) : Int := child.finish.poll.getD child.spec.exit

end Child

/-- The timer of a session. -/
inductive Timer where
  | absent
  | live
  | cancelled
deriving DecidableEq, Repr

/-- How far the reader of a session's output has come. -/
inductive Reader where
  /-- No reader was asked for. -/
  | absent
  /-- The reader has not read anything. -/
  | fresh
  /-- The reader has handed out a chunk and waits. -/
  | suspended
  | finished
deriving DecidableEq, Repr

/-- One run of the analysis script. -/
structure Session where
  child : Child
  command : List Value
  chunkSize : Int
  /-- The longest run, if it is limited. -/
  timeout : Option Seconds
  timer : Timer := .absent
  reader : Reader := .absent
  isDrained : Bool := false
  exitStatus : Option Int := none
  isTimedOut : Bool := false
deriving Repr

namespace Session

/-- The words for the child in the log. -/
def pidText (session : Session) : Text := "pid " ++ Text.decimal session.child.pid

/-- Writes a record into the log. -/
def log (level : LogLevel) (message : Session → Text) : ActOn Session Unit := do
  ActOn.lift (Act.log level .process (message (← get)))

/-- Writes an event into the trace. -/
def trace (event : TraceEvent) : ActOn Session Unit := ActOn.lift (Act.trace event)

/-- Changes the child. -/
def modifyChild (f : Child → Child) : ActOn Session Unit :=
  modify fun session => { session with child := f session.child }

/-- Stops the timer, if it is live. -/
def cancelTimer : ActOn Session Unit := do
  if (← get).timer == .live then
    trace .cancelTimer
    modify fun session => { session with timer := .cancelled }

/-- Sends a signal to the child itself. One that is gone needs none. -/
def signalChild (s : Signal) : ActOn Session Unit := do
  trace (.signalChild s)
  match (← get).child.aloneError? s with
  | none => modifyChild fun child => child.deliver s child.reachAlone
  | some e => if e != .noProcess then throw (.os (.numbered e none))

/-- Sends a signal to the child's group. A group that is gone needs none; after any other error the
signal goes to the child alone. -/
def signal (s : Signal) : ActOn Session Unit := do
  let session ← get
  trace (.signalGroup session.child.pid s)
  match session.child.spec.groupError.of s with
  | none => modifyChild fun child => child.deliver s child.reachGroup
  | some e =>
    if e != .noProcess then
      log .debug fun session =>
        "killpg failed for " ++ session.pidText ++ ": " ++ (OsError.numbered e none).text
      signalChild s

/-- Stops the child and all that it started. The group is signalled even if the child itself has
ended, because others may still hold the pipe. -/
def terminate : ActOn Session Unit := do
  cancelTimer
  let session ← get
  if session.child.isRunning || !session.isDrained then
    log .info fun session => "Terminating process group " ++ Text.decimal session.child.pid
  signal .terminate
  if session.child.isRunning then
    if (← get).child.isRunning then
      log .warning fun session => session.pidText ++ " ignored SIGTERM, killing"
    signal .kill
    modifyChild Child.reap
  else signal .kill

/-- Closes the reading end of the pipe. -/
def closeStream : ActOn Session Unit := do
  if !(← get).child.isClosed then
    trace .closeOutput
    modifyChild fun child => { child with isClosed := true }

/-- Stops the child and closes the pipe. -/
def close : ActOn Session Unit := do
  terminate
  closeStream

/-- A limit in words. -/
def timeoutText? (session : Session) : Option Text :=
  (session.timeout.map Seconds.text?).getD (some "None")

/-- The time is up. A run that has ended by now is left alone. -/
def expire : ActOn Session Unit := do
  let session ← get
  if session.isDrained && !session.child.isRunning then return
  match session.timeoutText? with
  | none => throw .longNumber
  | some limit =>
    log .warning fun session => session.pidText ++ " exceeded " ++ limit ++ "s, terminating"
  modify fun session => { session with isTimedOut := true }
  terminate

/-- The timer goes off. It does so on a thread of its own, where an error of a signal is lost. -/
def fire : ActOn Session Unit := do
  match ← expire.attempt with
  | .ok _ | .error (.os _) => return
  | .error failure => throw failure

/-- Makes the changes of a child to the files; one that fails shows as a failed read. -/
def change (changes : List Change) : Act Unit := do
  let (files, fault) := (← get).files.applyAll changes
  modify fun w => { w with files }
  match fault with
  | some (.errno e) => throw (.os (.numbered e none))
  | some .nul => throw .nulInPath
  | some .unencodable => throw .notEncodable
  | none => return

/-- At most `size` bytes from the front of the pending ones. -/
def takePending (size : Int) : ActOn Session (List UInt8) := do
  let pending := (← get).child.pending
  modifyChild fun child => { child with pending := pending.drop size.toNat }
  return pending.take size.toNat

/-- Takes one output step. -/
def takeStep (step : OutputStep) : ActOn Session Unit := do
  modifyChild fun child => { child with steps := child.steps.tail }
  match step with
  | .data bytes => modifyChild fun child => { child with pending := bytes }
  | .change changes => ActOn.lift (change changes)
  | .hang => if (← get).timer == .live then fire
  | .readError error => throw (.os error)
  | .interrupt => throw .interrupted

/-- Reads output, step by step until there are bytes or the pipe has ended. -/
def readSteps (size : Int) : (steps : List OutputStep) → ActOn Session (List UInt8)
  | [] => do
    if (← get).child.isCutOff then return []
    if !(← get).child.pending.isEmpty then takePending size
    else
      modifyChild fun child => { child with isAtEnd := true }
      return []
  | step :: rest => do
    if (← get).child.isCutOff then return []
    if !(← get).child.pending.isEmpty then takePending size
    else
      takeStep step
      readSteps size rest

/-- Reads at most `size` bytes; none at the end of the output. -/
def read (size : Int) : ActOn Session (List UInt8) := do
  let session ← get
  if session.child.isClosed then throw .closedStream
  readSteps size session.child.steps

/-- Waits for the child and records its exit status. -/
def wait : ActOn Session Int := do
  let session ← get
  if !session.isDrained then throw (.misuse .notDrained)
  match session.exitStatus with
  | some status => return status
  | none =>
    let status := session.child.finalStatus
    modifyChild Child.finish
    modify fun session => { session with exitStatus := some status }
    cancelTimer
    log .info fun session => session.pidText ++ " exited with status " ++ Text.decimalInt status
    return status

/-- Asks for the reader of the output, which can be had once. -/
def openReader : ActOn Session Unit := do
  if (← get).reader != .absent then throw (.misuse .alreadyConsumed)
  modify fun session => { session with reader := .fresh }

/-- Ends the reader, and closes the pipe with it. -/
def finishReader : ActOn Session Unit := do
  closeStream
  modify fun session => { session with reader := .finished }

/-- Reads one chunk; at the end of the output the child is waited for. -/
def readChunk : ActOn Session (Option (List UInt8)) := do
  let chunk ← read (← get).chunkSize
  if chunk.isEmpty then
    modify fun session => { session with isDrained := true }
    let _ ← wait
    return none
  log .debug fun session =>
    "Read " ++ Text.decimal chunk.length ++ " bytes from " ++ session.pidText
  return some chunk

/-- The next chunk of output; none at its end. However the reader ends, the pipe is closed. -/
def next : ActOn Session (Option (List UInt8)) := do
  match (← get).reader with
  | .absent | .finished => return none
  | .fresh | .suspended =>
    match ← readChunk.onFailure finishReader with
    | some chunk =>
      modify fun session => { session with reader := .suspended }
      return some chunk
    | none =>
      finishReader
      return none

/-- Gives the reader up. One that has not read anything leaves the pipe open. -/
def closeReader : ActOn Session Unit := do
  match (← get).reader with
  | .absent => return
  | .suspended => finishReader
  | .fresh | .finished => modify fun session => { session with reader := .finished }

/-- More chunks than the session's output can still be cut into. -/
def chunkBound (session : Session) : Nat :=
  session.child.pending.length +
    (session.child.steps.map fun
      | .data bytes => bytes.length
      | _ => 0).foldr (· + ·) 1

/-- All chunks that are left, at most `fuel` of them. -/
def drainUpTo : (fuel : Nat) → ActOn Session (List (List UInt8))
  | 0 => return []
  | fuel + 1 => do
    match ← next with
    | some chunk => return chunk :: (← drainUpTo fuel)
    | none => return []

/-- All chunks that are left. -/
def drain : ActOn Session (List (List UInt8)) := do drainUpTo (← get).chunkBound

/-- The session of a child that was just started, with its timer running if it is limited. Where the
timer cannot be started the child is left to itself. -/
def opening (child : Child) (command : List Value) (chunkSize : Int) (timeout : Option Seconds) :
    Act Session := do
  match timeout.filter (!·.isZero) with
  | none => return { child, command, chunkSize, timeout := none }
  | some limit =>
    if child.spec.lacksThread then
      modify fun w => { w with strays := w.strays ++ [child.pid] }
      throw (.misuse .noThread)
    Act.trace (.startTimer limit)
    return { child, command, chunkSize, timeout := some limit, timer := .live }

/-- The error with which a launch fails. -/
def launchError (program : Value) : FaultEffect → OsError
  | .errno e => .numbered e program.nested?
  | .text s => .described s
  | .silent => .described ""

/-- Why the system cannot take a part of a command, if it cannot: it takes bytes, and text that can be
turned into bytes, without a NUL. -/
def partFault? : Value → Option Failure
  | .text t =>
    match FileSystem.systemText t with
    | .ok _ => none
    | .error fault => some (.ofPathFault t fault)
  | .bytes content => if content.contains 0 then some .nulInPath else none
  | _ => some .wrongKind

/-- Why the system cannot take a command, if it cannot. -/
def commandFault? (command : List Value) (workingDir : Text) : Option Failure :=
  if command.isEmpty then some .noProgram
  else (command ++ [Value.text workingDir]).findSome? partFault?

/-- Why a command is not taken where a child is to be started, if it is not. -/
def fault? (spec : ProcessSpec) (command : List Value) (workingDir : Text) : Option Failure :=
  if spec.checksCommand then commandFault? command workingDir else none

/-- Starts a command and gives its session. -/
def launch (command : List Value) (workingDir : Text) (chunkSize : Int)
    (timeout : Option Seconds) : Act Session := do
  match (Value.list command).nested? with
  | none => throw .longNumber
  | some shown => Act.log .info .process ("Launching: " ++ shown)
  let w ← get
  let spec := w.specs.headD {}
  if let some failure := fault? spec command workingDir then throw failure
  let launches := w.launches + 1
  modify fun w => { w with specs := w.specs.tail, launches }
  Act.trace (.spawn command workingDir)
  match spec.launchError, command with
  | none, _ => opening (.start (1000 + launches) spec) command chunkSize timeout
  | some _, [] => throw .noProgram
  | some effect, program :: _ =>
    let error := launchError program effect
    let name := program.plain?.getD ""
    Act.log .error .process ("Could not start " ++ name ++ ": " ++ error.text)
    throw (.launch (Failure.launchMessage name error.reason))

end Session

end ScanLauncher
