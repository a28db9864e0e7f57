import ScanLauncher.Files.Resolve
import ScanLauncher.Process.Spec
import ScanLauncher.Shell.Command
import ScanLauncher.Shell.Octets

/-!
A shell at work. Its own part - variables, streams, directory - is what a subshell gets a copy of;
the outside - files, what was written, the time that passed - is shared by all, and is what others
see of a child that is a shell.
-/
namespace ScanLauncher.Shell

/-- Where the bytes of a stream go, or come from. -/
inductive Target where
  /-- The pipe to whoever started the program. -/
  | output
  /-- A buffer, for another command to read. -/
  | buffer
  /-- The bytes that are waiting to be read. -/
  | supply
  | file (path : Text)
  | nothing
deriving DecidableEq, Repr

/-- The habits of a shell in which programs may differ. -/
inductive Dialect where
  | plain
  | extended
deriving DecidableEq, Repr

/-- A shell's own part. -/
structure Frame where
  /-- The number of the shell's process. -/
  pid : Nat := 1000
  /-- Whether the shell is a copy of the one whose number it bears. -/
  isForked : Bool := false
  /-- The numbers of the processes that wait for this one, the nearest first. -/
  waiting : List Nat := []
  /-- The name under which the shell was started. -/
  name : String
  dialect : Dialect := .plain
  /-- Whether a shell is at work, and not a program on its own. -/
  isShell : Bool := false
  parameters : List String := []
  bindings : List (String × String) := []
  /-- The variables that other programs get to see. -/
  exported : List String := []
  functions : List (String × Command) := []
  /-- The status of the last command. -/
  status : Nat := 0
  /-- The status of the last command whose output was put into a word of the command at work. -/
  outputStatus : Nat := 0
  /-- Whose text is run in place of the shell's own. -/
  speaker : Option String := none
  line : Nat := 1
  cwd : Location
  streams : List (Nat × Target) := [(0, .nothing), (1, .output), (2, .output)]
  /-- The letters of the options that are on. -/
  options : List Char := []
  /-- The variables that keep their values. -/
  fixed : List String := []
  /-- How many loops are at work. -/
  loops : Nat := 0
  /-- What is done on a signal; at zero stands what is done at the very end. Nothing to do means
  that the signal is ignored. -/
  traps : List (Nat × String) := []
  /-- What the variables were that a function has for itself; nothing outside of functions. -/
  locals : Option (List (String × Option String)) := none
  /-- Whether the shell works in the background. -/
  isBackground : Bool := false
  /-- Whether the first process of all has something to do on the request to end; nothing in the
  first process itself. -/
  leaderCares : Option Bool := none
  /-- The rights that new files do not get. -/
  mask : Nat := 18

namespace Frame

/-- Whether a signal is ignored. -/
def ignores (frame : Frame) (signal : Nat) : Bool := frame.traps.lookup signal == some ""

/-- Whether an option is on. -/
def has (frame : Frame) (letter : Char) : Bool := frame.options.contains letter

/-- Whether the first process of all outlives the request to end. -/
def hasCaringLeader (frame : Frame) : Bool :=
  frame.leaderCares.getD (frame.traps.lookup 15).isSome

/-- The frame of a copy of the shell: signals that are ignored stay so, and nothing is done on any
other. -/
def fork (frame : Frame) : Frame :=
  { frame with isForked := true, traps := frame.traps.filter fun (_, action) => action.isEmpty }

end Frame

/-- Bytes to be read: some at first, and then others over and over, if there are any. -/
structure Supply where
  bytes : List UInt8 := []
  cycle : List UInt8 := []

/-- What all shells share. -/
structure Outside where
  tree : Tree
  /-- What was done so far that others can see, newest first. -/
  steps : List OutputStep := []
  /-- What was written into the buffer. -/
  buffered : List UInt8 := []
  /-- What is written into the buffer over and over. -/
  bufferedCycle : List UInt8 := []
  supply : Supply := {}
  /-- The time that has passed. -/
  clock : Binary64 := .zero false
  /-- The time after which nobody waits any longer. -/
  limit : Option Binary64 := none
  /-- Whether the program was asked to end, because the time was up. -/
  isAsked : Bool := false
  /-- How many steps the program made after that request, if it went on for so long that it was ended
  by force. -/
  lastSteps : Option Nat := none

/-- A command left to itself, the shell it works in, and the time when it began. -/
structure Job where
  number : Nat
  body : Command
  frame : Frame
  start : Binary64

/-- How a job ended: its status, and whether that stands for a signal. -/
structure JobEnd where
  number : Nat
  status : Nat
  isSignalled : Bool

/-- The number of a job's process. -/
def Job.pidOf (number : Nat) : Nat := 5000 + number

/-- The whole of a shell. -/
structure State where
  frame : Frame
  outside : Outside
  jobs : List Job := []
  /-- How many jobs there were. -/
  jobCount : Nat := 0
  /-- The jobs that have ended. -/
  ended : List JobEnd := []
  /-- How many processes there were besides the first. -/
  processCount : Nat := 0
  /-- What is to be done on the signals that came in. -/
  pending : List String := []
  /-- The signals on their way to processes that wait for the one at work. -/
  signalled : List (Nat × Nat) := []

/-- The ways to leave a command before its end. -/
inductive Jump where
  | exit (status : Nat)
  /-- A signal ended a process. -/
  | killed (pid signal : Nat)
  /-- The request to end came to all processes, because the time was up. -/
  | asked
  | leaveLoop (levels : Nat)
  | nextRound (levels : Nat)
  | leaveFunction (status : Nat)
  /-- The program did not come to its end. -/
  | endless
deriving DecidableEq, Repr

/-- Work in a shell. -/
abbrev Work := ExceptT Jump (StateM State)

namespace Work

/-- The shell's own part. -/
def frame : Work Frame := do return (← get).frame

/-- Changes the shell's own part. -/
def modifyFrame (f : Frame → Frame) : Work Unit := modify fun s => { s with frame := f s.frame }

/-- Changes the outside. -/
def modifyOutside (f : Outside → Outside) : Work Unit :=
  modify fun s => { s with outside := f s.outside }

/-- The files as the shell sees them. -/
def files : Work FileSystem := do
  let s ← get
  return ⟨s.outside.tree, s.frame.cwd⟩

/-- Makes a change to the files, which others can see. -/
def change (c : Change) : Work Unit := do
  match (← files).apply c with
  | .ok files =>
    modifyOutside fun o => { o with tree := files.tree, steps := .change [c] :: o.steps }
  | .error _ => return

/-- The absolute path of a path. -/
def absolute (path : Text) : Work Text := do
  let fs ← files
  match fs.locate true path with
  | .ok loc => return FileSystem.locationText loc
  | .error _ => return path

/-- Adds bytes to a file. -/
def appendTo (path : Text) (bytes : List UInt8) : Work Unit := do
  match (← files).lookup true path with
  | .ok (_, .file content isExecutable) => change (.file path (content ++ bytes) isExecutable)
  | _ => change (.file path bytes false)

/-- Writes bytes to a stream; a stream that is not open takes none. -/
def write (stream : Nat) (bytes : List UInt8) : Work Bool := do
  if bytes.isEmpty then return true
  match (← frame).streams.lookup stream with
  | none => return false
  | some .output =>
    modifyOutside fun o => { o with steps := .data bytes :: o.steps }
    return true
  | some .buffer =>
    modifyOutside fun o => { o with buffered := o.buffered ++ bytes }
    return true
  | some (.file path) =>
    appendTo path bytes
    return true
  | some .nothing => return true
  | some .supply => return false

/-- Writes a text to a stream. -/
def writeText (stream : Nat) (text : String) : Work Unit := do
  let _ ← write stream (octets text)

/-- Complains about the command at work, in the shell's own name. -/
def complain (text : String) : Work Unit := do
  let frame ← frame
  match frame.dialect with
  | .plain =>
    let text := (frame.speaker.map (· ++ ": ")).getD "" ++ text
    writeText 2 (frame.name ++ ": " ++ Text.decimal frame.line ++ ": " ++ text ++ "\n")
  | .extended =>
    writeText 2 (frame.name ++ ": line " ++ Text.decimal frame.line ++ ": " ++ text ++ "\n")

/-- Gives a variable a value, unless it keeps the one that it has. -/
def assign (name value : String) : Work Unit := do
  if (← frame).fixed.contains name then
    complain (name ++ ": is read only")
    throw (.exit 2)
  modifyFrame fun frame =>
    { frame with
      bindings := frame.bindings.filter (·.1 != name) ++ [(name, value)]
      exported := frame.exported ++ if frame.has 'a' then [name] else [] }

/-- Puts a variable back to what it was. -/
def restore (name : String) : Option String → Work Unit
  | some value => assign name value
  | none =>
    modifyFrame fun frame => { frame with bindings := frame.bindings.filter (·.1 != name) }

/-- Complains and fails. -/
def failWith (status : Nat) (text : String) : Work Nat := do
  complain text
  return status

/-- What waits on the input stream; reading takes it. -/
def takeInput : Work Supply := do
  match (← frame).streams.lookup 0 with
  | some .supply =>
    let supply := (← get).outside.supply
    modifyOutside fun o => { o with supply := {} }
    return supply
  | _ => return {}

/-- The next line of the input, without its end; none if there is no more. -/
def takeLine : Work (Option (List UInt8)) := do
  match (← frame).streams.lookup 0 with
  | some .supply =>
    let bytes := (← get).outside.supply.bytes
    if bytes.isEmpty then return none
    let line := bytes.takeWhile (· != 10)
    modifyOutside fun o =>
      { o with supply := { o.supply with bytes := bytes.drop (line.length + 1) } }
    return some line
  | _ => return none

/-- Whether the shell holds the pipe to whoever started the program. -/
def holdsPipe : Work Bool := do
  return (← frame).streams.any fun (_, target) => target == .output

/-- The time between the request to end and the end by force. -/
def grace : Binary64 := .ofInt 5

/-- Notes that the program is ended by force. What it did since it was asked to end counts still. -/
def endByForce : Work Unit :=
  modifyOutside fun o =>
    { o with lastSteps := o.lastSteps <|> some (o.steps.takeWhile (· != .hang)).length }

/-- Lets time pass. Where it is longer than anybody waits, all processes are asked to end, and the
one at work does, unless it ignores that. What passes in the background without the pipe is not
noticed. -/
def pass (seconds : Binary64) : Work Unit := do
  let o := (← get).outside
  let clock := o.clock.add seconds
  modifyOutside fun o => { o with clock }
  let frame ← frame
  let isSeen := !frame.isBackground || (← holdsPipe)
  if let some limit := o.limit then
    if isSeen && clock.compare? limit == some .gt then
      if o.isAsked then endByForce
      else
        let last := limit.add grace
        modifyOutside fun o =>
          { o with steps := .hang :: o.steps, limit := some last, isAsked := true }
        if frame.ignores 15 && frame.hasCaringLeader then
          if clock.compare? last == some .gt then endByForce
        else
          modifyOutside fun o => { o with clock := limit }
          throw .asked

end Work

end ScanLauncher.Shell
