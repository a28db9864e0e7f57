import ScanLauncher.Shell.Options
import ScanLauncher.Shell.Utility

/-!
Signals between processes. A signal to the shell itself counts at once; one to a process that waits
for the shell counts when that process is at work again. What is done on a signal is up to whoever
gets it.
-/
namespace ScanLauncher.Shell

namespace Signals

/-- The signals that have names, with their numbers. -/
def named : List (String × Nat) := [
  ("EXIT", 0), ("HUP", 1), ("INT", 2), ("QUIT", 3), ("ILL", 4), ("TRAP", 5), ("ABRT", 6),
  ("BUS", 7), ("FPE", 8), ("KILL", 9), ("USR1", 10), ("SEGV", 11), ("USR2", 12), ("PIPE", 13),
  ("ALRM", 14), ("TERM", 15), ("CHLD", 17), ("CONT", 18), ("STOP", 19), ("TSTP", 20), ("TTIN", 21),
  ("TTOU", 22), ("URG", 23), ("XCPU", 24), ("XFSZ", 25), ("VTALRM", 26), ("PROF", 27),
  ("WINCH", 28), ("IO", 29), ("PWR", 30), ("SYS", 31), ("RTMIN", 34), ("RTMAX", 64)]

/-- The greatest number of a signal. -/
def greatest : Nat := 64

/-- The name of a signal; one that has none goes by its number, or by its distance from one that
has. -/
def nameOf (signal : Nat) : String :=
  match named.find? fun (_, n) => n == signal with
  | some (name, _) => name
  | none =>
    if 34 < signal && signal ≤ 49 then "RTMIN+" ++ Text.decimal (signal - 34)
    else if 49 < signal && signal < 64 then "RTMAX-" ++ Text.decimal (64 - signal)
    else Text.decimal signal

/-- The number of a signal, given by number or by name, in letters of any case. -/
def of? (s : String) : Option Nat :=
  if !s.isEmpty && s.toList.all Char.isDigit then
    (some (Utility.natOf s)).filter (· ≤ greatest)
  else
    let name := String.ofList (s.toList.map Char.toUpper)
    (List.range (greatest + 1)).find? fun signal => nameOf signal == name

/-- Whether a signal leaves a program that does nothing about it as it is. -/
def isHarmless (signal : Nat) : Bool := [0, 17, 18, 19, 20, 21, 22, 23, 28].contains signal

/-- A signal in words. -/
def text (signal : Nat) : String :=
  let texts : List (Nat × String) := [
    (1, "Hangup"), (2, "Interrupt"), (3, "Quit"), (4, "Illegal instruction"),
    (5, "Trace/breakpoint trap"), (6, "Aborted"), (7, "Bus error"), (8, "Floating point exception"),
    (9, "Killed"), (10, "User defined signal 1"), (11, "Segmentation fault"),
    (12, "User defined signal 2"), (13, "Broken pipe"), (14, "Alarm clock"), (15, "Terminated"),
    (16, "Stack fault"), (24, "CPU time limit exceeded"), (25, "File size limit exceeded"),
    (26, "Virtual timer expired"), (27, "Profiling timer expired"), (29, "I/O possible"),
    (30, "Power failure"), (31, "Bad system call")]
  let other := if signal < 34 then "Unknown signal " ++ Text.decimal signal
    else "Real-time signal " ++ Text.decimal (signal - 34)
  (texts.lookup signal).getD other

open Work

/-- Takes a signal: something is done on it, or it is ignored, or it ends the process. -/
def take (signal : Nat) : Work Unit := do
  let frame ← frame
  match if signal == 0 || signal == 9 then none else frame.traps.lookup signal with
  | some action =>
    if !action.isEmpty then modify fun s => { s with pending := s.pending ++ [action] }
  | none =>
    if isHarmless signal then return
    if frame.isForked then throw (.exit (128 + signal)) else throw (.killed frame.pid signal)

/-- Takes the signals that came while the process waited for another one. -/
def receive : Work Unit := do
  let s ← get
  if !s.frame.isForked then
    let (mine, others) := s.signalled.partition fun (pid, _) => pid == s.frame.pid
    set { s with signalled := others }
    mine.forM fun (_, signal) => take signal

/-- The processes that wait for the one at work, the nearest first. -/
def waiters (frame : Frame) : List Nat :=
  (if frame.isForked then [frame.pid] else []) ++ frame.waiting

/-- Sends a signal to all processes that wait for the one at work. -/
def toWaiters (signal : Nat) : Work Unit :=
  modify fun s =>
    { s with signalled := s.signalled ++ (waiters s.frame).map fun pid => (pid, signal) }

/-- Sends a signal to all processes. -/
def toAll (signal : Nat) : Work Nat := do
  toWaiters signal
  take signal
  return 0

/-- Sends a signal to the process of a number: the shell itself, one that waits for it, or a job. -/
def toProcess (signal pid : Nat) : Work Nat := do
  let s ← get
  if (waiters s.frame).contains pid then
    if signal != 0 then set { s with signalled := s.signalled ++ [(pid, signal)] }
    return 0
  else if pid == s.frame.pid then
    take signal
    return 0
  else if s.jobs.any fun job => Job.pidOf job.number == pid then
    if !isHarmless signal then
      set { s with
        jobs := s.jobs.filter fun job => Job.pidOf job.number != pid
        ended := ⟨pid - Job.pidOf 0, 128 + signal, true⟩ :: s.ended }
    return 0
  else failWith 1 "kill: No such process\n"

/-- Sends a signal to a receiver: a process, a group or a job. -/
def send (signal : Nat) (receiver : String) : Work Nat := do
  let s ← get
  let bad (text : String) : Work Nat := failWith 2 ("kill: " ++ text ++ receiver)
  match receiver.toList with
  | '%' :: number =>
    let pid := Job.pidOf (Utility.natOf (String.ofList number))
    if s.jobs.any fun job => Job.pidOf job.number == pid then toProcess signal pid
    else bad "No such job: "
  | '-' :: number =>
    match Integer.count? (String.ofList number) with
    | some n =>
      if n == s.frame.waiting.getLastD s.frame.pid then toAll signal
      else failWith 1 "kill: No such process\n"
    | none => failWith 2 ("kill: Illegal number: " ++ String.ofList number)
  | _ =>
    match Integer.count? receiver with
    | some 0 => toAll signal
    | some pid => toProcess signal pid
    | none => bad "Illegal number: "

/-- Lists the names of signals, or says which one a status stands for. -/
def list (statuses : List String) : Work Nat := do
  match statuses with
  | [] =>
    let names := "0" :: (List.range greatest).map fun n => nameOf (n + 1)
    Utility.put "kill" (octets (String.intercalate "\n" names ++ "\n"))
  | status :: _ =>
    match Integer.count? status with
    | none => failWith 2 ("kill: Illegal number: " ++ status)
    | some n =>
      let signal := if n > 128 then n - 128 else n
      if 0 < signal && signal ≤ greatest then Utility.put "kill" (octets (nameOf signal ++ "\n"))
      else failWith 2 ("kill: invalid signal number or exit status: " ++ status)

/-- Sends a signal to some receivers, up to one that makes no sense. -/
def sendAll (signal : Nat) : List String → Work Nat
  | [] => return 0
  | receiver :: rest => do
    let status ← send signal receiver
    if status == 2 then return 2
    return max status (← sendAll signal rest)

/-- Sends a signal, or lists them. -/
def kill (arguments : List String) : Work Nat := do
  let go (signal : Nat) (receivers : List String) : Work Nat :=
    if receivers.isEmpty then
      failWith 2 ("kill: Usage: kill [-s sigspec | -signum | -sigspec] [pid | job]... or\n" ++
        "kill -l [exitstatus]")
    else sendAll signal receivers
  let direct? : Option Nat :=
    match (arguments.headD "").toList with
    | '-' :: name => (of? (String.ofList name)).filter fun n => n != 0 || name == ['0']
    | _ => none
  match direct?, Options.read ['l'] ['s'] arguments with
  | some signal, _ => go signal arguments.tail
  | none, .error complaint => failWith 2 ("kill: " ++ complaint)
  | none, .ok options =>
    match options.given.find? (·.1 == 's') with
    | some (_, name) =>
      match of? name with
      | some signal => go signal options.operands
      | none => failWith 2 ("kill: invalid signal number or name: " ++ name)
    | none => if options.has 'l' then list options.operands else go 15 options.operands

/-- A text in quotes that a shell reads back. -/
def quoted (fuel : Nat) (chars : List Char) : List Char :=
  match fuel with
  | 0 => []
  | fuel + 1 =>
    let plain := chars.takeWhile (· != '\x27')
    let rest := chars.drop plain.length
    let quotes := rest.takeWhile (· == '\x27')
    let after := rest.drop quotes.length
    let front := '\x27' :: plain ++ ['\x27']
    if quotes.isEmpty then front
    else front ++ '"' :: quotes ++ '"' :: if after.isEmpty then [] else quoted fuel after

/-- Shows what is done on which signals. -/
def showTraps : Work Nat := do
  let traps := (← frame).traps.mergeSort fun a b => decide (a.1 ≤ b.1)
  let lines := traps.map fun (signal, action) =>
    "trap -- " ++ String.ofList (quoted (action.length + 1) action.toList) ++ " " ++
      nameOf signal ++ "\n"
  Utility.put "trap" (octets (String.join lines))

/-- Sets what is done on signals; nothing means that they do what they usually do. -/
def setTraps (action : Option String) : List String → Work Nat
  | [] => return 0
  | condition :: rest => do
    match of? condition with
    | none =>
      writeText 2 ("trap: " ++ condition ++ ": bad trap\n")
      return 1
    | some signal =>
      modifyFrame fun frame =>
        let others := frame.traps.filter fun (n, _) => n != signal
        { frame with traps := others ++ (action.map fun text => (signal, text)).toList }
      setTraps action rest

/-- Says what is done on signals, or at the end; a first word that is no action resets them. -/
def trap (arguments : List String) : Work Nat := do
  match Options.read [] [] arguments with
  | .error complaint =>
    complain ("trap: " ++ complaint)
    throw (.exit 2)
  | .ok options =>
    match options.operands with
    | [] => showTraps
    | [condition] => setTraps none [condition]
    | action :: conditions =>
      let isNumber := !action.isEmpty && action.toList.all Char.isDigit
      if isNumber && (of? action).isSome then setTraps none (action :: conditions)
      else setTraps (if action == "-" then none else some action) conditions

end Signals

end ScanLauncher.Shell
