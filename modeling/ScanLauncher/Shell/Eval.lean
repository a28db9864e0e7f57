import ScanLauncher.Shell.Builtin

/-!
Running shell programs, to see how they behave as children of the launcher. Everything is run to its
end at once; the commands of a pipeline run one after the other, and jobs in the background when
somebody waits for them or when all else has ended. `fuel` bounds the depth of the run, so that a
program without an end is seen as one.
-/
namespace ScanLauncher.Shell

open Work

/-- Says that a signal ended a process that the shell waited for. Two signals are so common that
nothing is said. -/
def reportSignal (signal : Nat) : Work Nat := do
  let frame ← frame
  let isShown := frame.dialect == .plain || signal == 15
  if isShown && !frame.isBackground && signal != 2 && signal != 13 then
    writeText 2 (Signals.text signal ++ "\n")
  return 128 + signal

/-- Work that takes the shell's place: what it does to the shell's own part is lost. -/
def replacing (work : Work Nat) : Work Nat := fun s =>
  match work s with
  | (result, after) =>
    let back := { after with frame := s.frame }
    match result with
    | .ok status | .error (.exit status) | .error (.leaveFunction status) => (.ok status, back)
    | .error (.leaveLoop _) | .error (.nextRound _) => (.ok 0, back)
    | .error jump => (.error jump, back)

/-- Goes on after the request to end came to all processes while the shell waited for another one,
which ended by it. A shell that has nothing to do on that request ends as well. -/
def outlive (report : Nat → Work Nat) : Work Nat := do
  match (← frame).traps.lookup 15 with
  | none | some "" => throw .asked
  | some _ =>
    modify fun s => { s with jobs := [] }
    Signals.toWaiters 15
    let status ← report 15
    Signals.take 15
    return status

/-- Work in another process, while the shell waits: what it does to the shell's own part is lost,
and the signals that came meanwhile are taken afterwards. `report` tells of a signal that ended
it. -/
def isolateWith (report : Nat → Work Nat) (work : Work Nat) : Work Nat := do
  let inside : Work Nat := do
    modifyFrame fun frame => { frame with leaderCares := some frame.hasCaringLeader }
    work
  let attempt : Work (Option Nat) := fun s =>
    match replacing inside s with
    | (.error .asked, after) => (.ok none, after)
    | (result, after) => (result.map some, after)
  match ← attempt with
  | none => outlive report
  | some status =>
    Signals.receive
    return status

/-- Work in another process. -/
def isolate (work : Work Nat) : Work Nat := isolateWith reportSignal work

/-- Work in a copy of the shell. -/
def fork (work : Work Nat) : Work Nat :=
  isolate do
    modifyFrame Frame.fork
    work

/-- Work in a process with a number of its own, which a signal can end without ending the shell. -/
def asProcess (work : Work Nat) : Work Nat := do
  let s ← get
  let pid := s.frame.pid + s.processCount + 1
  let inside : Work Nat := do
    modifyFrame fun frame =>
      { frame with pid, isForked := false, waiting := frame.pid :: frame.waiting }
    work
  set { s with processCount := s.processCount + 1 }
  let attempt : Work (Except Nat Nat) := fun s =>
    match isolate inside s with
    | (.error (.killed receiver signal), after) =>
      if receiver == pid then (.ok (.error signal), after)
      else (.error (.killed receiver signal), after)
    | (result, after) => (result.map .ok, after)
  match ← attempt with
  | .ok status => return status
  | .error signal =>
    Signals.receive
    reportSignal signal

/-- Work whose output is caught. -/
def catchOutput (work : Work Nat) : Work (Nat × Supply) := do
  let outer := (← get).outside
  modifyOutside fun o => { o with buffered := [], bufferedCycle := [] }
  let status ← fork do
    modifyFrame fun frame =>
      { frame with streams := (1, .buffer) :: frame.streams.filter (·.1 != 1) }
    work
  let o := (← get).outside
  modifyOutside fun o =>
    { o with buffered := outer.buffered, bufferedCycle := outer.bufferedCycle }
  return (status, ⟨o.buffered, o.bufferedCycle⟩)

/-- Connects a stream. -/
def connect (stream : Nat) (target : Target) : Work Unit :=
  modifyFrame fun frame =>
    { frame with streams := (stream, target) :: frame.streams.filter (·.1 != stream) }

/-- Gives the input stream something to read. -/
def feed (supply : Supply) : Work Unit := do
  modifyOutside fun o => { o with supply }
  connect 0 .supply

/-- Opens a file for writing, emptied unless it is added to. The answer is a complaint. -/
def openFile (stream : Nat) (isAppended : Bool) (path : String) : Work (Option String) := do
  let fs ← files
  match fs.lookup true (pathOf path), fs.writeFile (pathOf path) [] false with
  | _, .error (.errno e) =>
    let reason := if e == .notFound then "Directory nonexistent" else e.description
    return some ("cannot create " ++ path ++ ": " ++ reason)
  | _, .error _ => return some ("cannot create " ++ path)
  | .ok (_, .file content isExecutable), .ok _ =>
    if (← frame).has 'C' && !isAppended then
      return some ("cannot create " ++ path ++ ": File exists")
    let target ← absolute (pathOf path)
    if !isAppended && !content.isEmpty then change (.file target [] isExecutable)
    connect stream (.file target)
    return none
  | _, .ok _ =>
    let target ← absolute (pathOf path)
    change (.file target [] false)
    connect stream (.file target)
    return none

/-- Redirects a stream to a target. The answer is a complaint. -/
def redirect (stream : Nat) (kind : RedirectKind) (target : String) : Work (Option String) := do
  let streams := (← frame).streams
  match kind with
  | .document =>
    feed { bytes := octets target }
    return none
  | .duplicate =>
    if target == "-" then
      modifyFrame fun frame => { frame with streams := frame.streams.filter (·.1 != stream) }
      return none
    match target.toNat?.bind fun n => streams.lookup n with
    | some other =>
      connect stream other
      return none
    | none => return some (target ++ ": Bad file descriptor")
  | .read =>
    match ← Utility.supplyOf target with
    | .ok supply =>
      feed supply
      return none
    | .error _ => return some ("cannot open " ++ target ++ ": No such file")
  | kind =>
    match target with
    | "/dev/null" =>
      connect stream .nothing
      return none
    | "/dev/stdout" =>
      connect stream ((streams.lookup 1).getD .nothing)
      return none
    | "/dev/stderr" =>
      connect stream ((streams.lookup 2).getD .nothing)
      return none
    | path => openFile stream (kind == .append) path

/-- Puts streams back after work, however it ends. -/
def restoreStreams (work : Work Nat) : Work Nat := fun s =>
  match work s with
  | (result, after) =>
    let supply := if after.frame.streams.lookup 0 == s.frame.streams.lookup 0
      then after.outside.supply else s.outside.supply
    (result,
      { after with
        frame := { after.frame with streams := s.frame.streams }
        outside := { after.outside with supply } })

/-- A jump out of more loops than there are leaves the outermost one. -/
def outermost : Jump → Jump
  | .leaveLoop _ => .leaveLoop 1
  | .nextRound _ => .nextRound 1
  | jump => jump

/-- Ends a round of a loop: whether the loop goes on, or how it is left. -/
def endRound : Except Jump Nat → Except Jump (Bool × Nat)
  | .ok status => .ok (true, status)
  | .error (.leaveLoop levels) =>
    if levels ≤ 1 then .ok (false, 0) else .error (.leaveLoop (levels - 1))
  | .error (.nextRound levels) =>
    if levels ≤ 1 then .ok (true, 0) else .error (.nextRound (levels - 1))
  | .error jump => .error jump

/-- A round of a loop. -/
def round (work : Work Nat) : Work (Bool × Nat) := fun s =>
  let loops := s.frame.loops
  match work { s with frame := { s.frame with loops := loops + 1 } } with
  | (result, after) =>
    (endRound (if loops == 0 then result.mapError outermost else result),
      { after with frame := { after.frame with loops } })

/-- Work that a function may leave early. -/
def returning (work : Work Nat) : Work Nat := fun s =>
  match work s with
  | (.error (.leaveFunction status), s) => (.ok status, s)
  | other => other

/-- The call of a function: its own parameters, its own variables, and its own way out. -/
def call (parameters : List String) (work : Work Nat) : Work Nat := do
  let outer ← frame
  modifyFrame fun frame => { frame with parameters, locals := some [], loops := 0 }
  let status ← returning work
  (((← frame).locals).getD []).forM fun (name, value) => restore name value
  modifyFrame fun frame =>
    { frame with parameters := outer.parameters, locals := outer.locals, loops := outer.loops }
  return status

/-- Notes the status of a command; a strict shell ends where one failed that nobody asked about. -/
def conclude (isTested : Bool) (status : Nat) : Work Nat := do
  modifyFrame fun frame => { frame with status }
  if status != 0 && (← frame).has 'e' && !isTested then throw (.exit status)
  return status

/-- What a script says about the program that reads it. -/
def interpreterOf? (content : List UInt8) : Option (List String) :=
  match textOf (content.takeWhile (· != 10)) with
  | '#' :: '!' :: line =>
    let words := (line.splitOn ' ').filter (!·.isEmpty)
    match words with
    | [] => none
    | program :: rest =>
      let argument := List.intercalate [' '] rest
      some (String.ofList program :: if argument.isEmpty then [] else [String.ofList argument])
  | _ => none

/-- The variables that a shell sets by itself. -/
def ownVariables (frame : Frame) : List (String × String) := [
  ("PWD", Shell.ofText (FileSystem.locationText frame.cwd)), ("OPTIND", "1"), ("PS1", "# "),
  ("PS2", "> "), ("PS4", "+ "), ("PPID", Text.decimal (frame.waiting.headD 999))]

/-- The letters of a shell's options. -/
def shellLetters : List Char := "cefuxnvIimsVECabl".toList

/-- The options and operands of a shell's own command line. -/
structure ShellLine where
  letters : List Char := []
  operands : List String := []
  /-- An option that there is not. -/
  fault : Option String := none

namespace ShellLine

/-- Whether an option was given. -/
def has (line : ShellLine) (letter : Char) : Bool := line.letters.contains letter

/-- Reads a shell's own command line. -/
def read (line : ShellLine) : List String → ShellLine
  | [] => line
  | "--" :: rest => { line with operands := rest }
  | "-o" :: name :: rest =>
    match Builtin.optionLetters.lookup name with
    | some letter => read { line with letters := letter :: line.letters } rest
    | none => { line with fault := line.fault.or (some ("-o " ++ name)) }
  | argument :: rest =>
    match argument.toList with
    | '-' :: c :: letters =>
      let unknown := (c :: letters).find? (!shellLetters.contains ·)
      read
        { line with
          letters := line.letters ++ c :: letters
          fault := line.fault.or (unknown.map fun c => String.ofList ['-', c]) } rest
    | _ => { line with operands := argument :: rest }

end ShellLine

/-- A program to be run: what the system has under a name, or a script. -/
inductive Program where
  | system (name : String)
  | script (path : String) (content : List UInt8)
  | denied
  | missing

/-- Whether something is done on a signal or at the end. -/
def Frame.hasTraps (frame : Frame) : Bool := frame.traps.any fun (_, action) => !action.isEmpty

/-- The status of a job that has ended; of no job it is 127. A signal that ended it is told. -/
def statusOfJob (receiver : String) : Work Nat := do
  let ended := (← get).ended
  match receiver.toNat?.bind fun n => ended.find? fun job => Job.pidOf job.number == n with
  | none => return 127
  | some job => if job.isSignalled then reportSignal (job.status - 128) else return job.status

/-- The program that a path leads to. -/
def programAt (path : String) : Work Program := do
  match Utility.atPath? path with
  | some name => return .system name
  | none =>
    match (← files).lookup true (pathOf path) with
    | .ok (_, .file content true) => return .script path content
    | .ok _ => return .denied
    | .error (.errno .denied) => return .denied
    | .error _ => return .missing

/-- The first program of a name along some directories. -/
def programAlong (name : String) : List String → Work Program
  | [] => return .missing
  | directory :: rest => do
    if Utility.directories.contains directory then
      if Utility.isKnown name && directory != "/usr/local/bin" then return .system name
      else programAlong name rest
    else
      match ← programAt ((if directory.isEmpty then "." else directory) ++ "/" ++ name) with
      | .missing | .denied => programAlong name rest
      | program => return program

/-- The program that a command's first word names. -/
def findProgram (name : String) : Work Program := do
  if name.isEmpty then return .denied
  if name.toList.contains '/' then programAt name
  else
    let path := ((← frame).bindings.lookup "PATH").getD ""
    programAlong name ((path.toList.splitOn ':').map String.ofList)

/-- Says what a name means to the shell. -/
def explain (name : String) : Work Nat := do
  let say (text : String) : Work Nat := Utility.put "type" (octets (name ++ text ++ "\n"))
  if Command.reserved.contains name then say " is a shell keyword"
  else if ((← frame).functions.lookup name).isSome then say " is a shell function"
  else if Builtin.isOwn name then say " is a shell builtin"
  else
    match ← findProgram name with
    | .system program => say (" is /usr/bin/" ++ program)
    | .script path _ => say (" is " ++ path)
    | _ =>
      let _ ← say ": not found"
      return 127

/-- Shows a command before it is run, on the streams that there were before its own. -/
def trace (streams : List (Nat × Target)) (values : List (String × String))
    (fields : List String) : Work Unit := do
  if (← frame).has 'x' then
    let shown := values.map (fun (name, value) => name ++ "=" ++ value) ++ fields
    let current := (← frame).streams
    modifyFrame fun frame => { frame with streams }
    writeText 2 ("+ " ++ String.intercalate " " shown ++ "\n")
    modifyFrame fun frame => { frame with streams := current }

/-- The place of a variable among those that are handed on: a sum over the bytes of its name. -/
def bucketOf (name : String) : Nat :=
  match octets name with
  | [] => 0
  | b :: rest => (16 * b.toNat + (b :: rest).foldl (fun n b => n + b.toNat) 0) % 39

/-- The path of the program of a name. -/
def pathOfProgram? (name : String) : Work (Option String) := do
  match ← findProgram name with
  | .system program =>
    return some (if name.toList.contains '/' then name else "/usr/bin/" ++ program)
  | .script path _ => return some path
  | _ => return none

/-- Says where the program of a name is, if there is one. -/
def whereIs (name : String) : Work Nat := do
  match ← pathOfProgram? name with
  | some path => Utility.put "which" (octets (path ++ "\n"))
  | none => return 1

/-- The text that a shell runs in its own place, with the path at which it was found. -/
def scriptOf (path : String) : Work (Except String (String × List UInt8)) := do
  let fs ← files
  if path.toList.contains '/' then
    match fs.read (pathOf path) with
    | .ok content => return .ok (path, content)
    | .error (.errno .isDirectory) => return .ok (path, [])
    | .error _ => return .error ("cannot open " ++ path ++ ": No such file")
  else
    let directories := (((← frame).bindings.lookup "PATH").getD "").toList.splitOn ':'
    let candidates := directories.map fun directory =>
      if directory.isEmpty then path else String.ofList directory ++ "/" ++ path
    match candidates.findSome? fun candidate =>
        (fs.read (pathOf candidate)).toOption.map fun content => (candidate, content) with
    | some found => return .ok found
    | none => return .error (path ++ ": not found")

/-- Says where the program of a name is. -/
def locate (name : String) : Work Nat := do
  if (Builtin.find? name).isSome then Utility.put "command" (octets (name ++ "\n"))
  else
    match ← findProgram name with
    | .system name => Utility.put "command" (octets ("/usr/bin/" ++ name ++ "\n"))
    | .script path _ => Utility.put "command" (octets (path ++ "\n"))
    | _ => return 127

/-- Work that may end the shell, which is then at its end. -/
def leaving (work : Work Nat) : Work Nat := fun s =>
  match work s with
  | (.error (.exit status), s) | (.error (.leaveFunction status), s) => (.ok status, s)
  | other => other

/-- Work on a text that has a name of its own, in which it complains. -/
def speaking (speaker : Option String) (work : Work Nat) : Work Nat := fun s =>
  match work { s with frame := { s.frame with speaker } } with
  | (result, after) =>
    (result, { after with frame := { after.frame with speaker := s.frame.speaker } })

/-- How a command is run. -/
structure Mode where
  /-- Whether the command's failure is somebody's question. -/
  isTested : Bool := false
  /-- Whether the shell has nothing left to do after the command, so that a program can take its
  place. -/
  isLast : Bool := false

namespace Mode

/-- The mode of a command whose failure is somebody's question. -/
def tested : Mode := { isTested := true }

/-- The mode of a command that others follow. -/
def followed (mode : Mode) : Mode := { mode with isLast := false }

end Mode

mutual

/-- Runs a command. -/
def run (fuel : Nat) (mode : Mode) (command : Command) : Work Nat :=
  match fuel with
  | 0 => throw .endless
  | fuel + 1 =>
    match command with
    | .simple assignments words redirects line => do
      modifyFrame fun frame => { frame with line }
      if (← frame).has 'n' then return 0
      let status ← runSimple fuel mode assignments words redirects
      runPending fuel status
      conclude mode.isTested status
    | .redirected body redirects => restoreStreams do
      match ← runRedirects fuel redirects with
      | some complaint => conclude mode.isTested (← failWith 2 complaint)
      | none => run fuel mode.followed body
    | .sequence commands => runAll fuel mode commands
    | .pipeline isNegated commands => do
      let status ← runStages fuel (mode.isLast && !isNegated) none commands
      runPending fuel status
      if isNegated then conclude true (if status == 0 then 1 else 0)
      else conclude mode.isTested status
    | .both first second => do
      let status ← run fuel .tested first
      if status == 0 then run fuel mode second else conclude true status
    | .either first second => do
      let status ← run fuel .tested first
      if status == 0 then return status else run fuel mode second
    | .background body => do
      let s ← get
      let number := s.jobCount + 1
      let streams := (0, .nothing) :: s.frame.streams.filter (·.1 != 0)
      let frame : Frame := { s.frame.fork with streams, isBackground := true }
      let job : Job := ⟨number, body, frame, s.outside.clock⟩
      set { s with jobs := s.jobs ++ [job], jobCount := number }
      conclude true 0
    | .subshell body => do
      let status ← fork (runToEnd fuel (run fuel mode.followed body))
      runPending fuel status
      conclude mode.isTested status
    | .branches branches otherwise => runBranches fuel mode branches otherwise
    | .loop wanted condition body => runLoop fuel mode.followed wanted condition body 0
    | .each name words body => do
      let values ←
        match words with
        | some words => expandWords (substitute fuel) words
        | none => do pure (← frame).parameters
      runEach fuel mode.followed name body values 0
    | .select subject cases => do
      let text ← expandText (substitute fuel) subject
      runCases fuel mode text.toList cases
    | .define name body => do
      modifyFrame fun frame => { frame with functions := (name, body) :: frame.functions }
      conclude true 0

/-- Does what is to be done on the signals that came in; the status of the command before it
stays. -/
def runPending (fuel : Nat) (status : Nat) : Work Unit :=
  match fuel with
  | 0 => throw .endless
  | fuel + 1 => do
    match (← get).pending with
    | [] => return
    | action :: rest =>
      modify fun s => { s with pending := rest }
      modifyFrame fun frame => { frame with status }
      let _ ← runSource fuel {} action
      modifyFrame fun frame => { frame with status }
      runPending fuel status

/-- Runs a shell's work, and what is to be done at its end. -/
def runToEnd (fuel : Nat) (work : Work Nat) : Work Nat :=
  match fuel with
  | 0 => throw .endless
  | fuel + 1 => do
    let status ← leaving work
    let traps := (← frame).traps
    modifyFrame fun frame => { frame with traps := traps.filter (·.1 != 0), status }
    match traps.lookup 0 with
    | none => return status
    | some action =>
      let _ ← runSource fuel {} action
      return status

/-- Runs commands one after the other. -/
def runAll (fuel : Nat) (mode : Mode) (commands : List Command) : Work Nat :=
  match fuel with
  | 0 => throw .endless
  | fuel + 1 =>
    match commands with
    | [] => do return (← frame).status
    | [last] => run fuel mode last
    | first :: rest => do
      let _ ← run fuel mode.followed first
      runAll fuel mode rest

/-- Runs the first branch whose condition holds. -/
def runBranches (fuel : Nat) (mode : Mode) (branches : List (Command × Command))
    (otherwise : Command) : Work Nat :=
  match fuel with
  | 0 => throw .endless
  | fuel + 1 =>
    match branches with
    | [] => do
      match otherwise with
      | .sequence [] => conclude true 0
      | otherwise => run fuel mode otherwise
    | (condition, body) :: rest => do
      if (← run fuel .tested condition) == 0 then run fuel mode.followed body
      else runBranches fuel mode.followed rest otherwise

/-- Runs a loop; `last` is the status of the round before. -/
def runLoop (fuel : Nat) (mode : Mode) (wanted : Bool) (condition body : Command) (last : Nat) :
    Work Nat :=
  match fuel with
  | 0 => throw .endless
  | fuel + 1 => do
    let (isOpen, answer) ← round (run fuel .tested condition)
    if !isOpen then return answer
    if (answer == 0) != wanted then conclude true last
    else
      let (isOpen, status) ← round (run fuel mode body)
      if isOpen then runLoop fuel mode wanted condition body status else conclude true status

/-- Runs a loop over values; `last` is the status of the round before. -/
def runEach (fuel : Nat) (mode : Mode) (name : String) (body : Command) (values : List String)
    (last : Nat) : Work Nat :=
  match fuel with
  | 0 => throw .endless
  | fuel + 1 =>
    match values with
    | [] => conclude true last
    | value :: rest => do
      assign name value
      let (isOpen, status) ← round (run fuel mode body)
      if isOpen then runEach fuel mode name body rest status else conclude true status

/-- Runs the first case with a pattern that fits. -/
def runCases (fuel : Nat) (mode : Mode) (text : List Char)
    (cases : List (List Word × Command)) : Work Nat :=
  match fuel with
  | 0 => throw .endless
  | fuel + 1 =>
    match cases with
    | [] => conclude true 0
    | (patterns, body) :: rest => do
      let patterns ← patterns.mapM (expandPattern (substitute fuel))
      if patterns.any fun pattern => pattern.fits text then
        modifyFrame fun frame => { frame with status := 0 }
        run fuel mode body
      else runCases fuel mode text rest

/-- Runs the stages of a pipeline, each on what the one before wrote. -/
def runStages (fuel : Nat) (isLast : Bool) (input : Option Supply) (commands : List Command) :
    Work Nat :=
  match fuel with
  | 0 => throw .endless
  | fuel + 1 =>
    let stage (command : Command) : Work Nat := do
      if let some supply := input then feed supply
      run fuel .tested command
    match commands with
    | [] => return 0
    | [last] =>
      if input.isSome then fork (runToEnd fuel (stage last))
      else run fuel { isTested := true, isLast } last
    | first :: rest => do
      let wasAsked := (← get).outside.isAsked
      let (_, supply) ← catchOutput (runToEnd fuel (stage first))
      if !wasAsked && (← get).outside.isAsked then
        rest.foldlM (fun _ _ => reportSignal 15) 0
      else runStages fuel false (some supply) rest

/-- Makes redirections in order, up to one that fails. The answer is a complaint. -/
def runRedirects (fuel : Nat) (redirects : List Redirect) : Work (Option String) :=
  match fuel with
  | 0 => throw .endless
  | fuel + 1 =>
    match redirects with
    | [] => return none
    | first :: rest => do
      let target ← expandText (substitute fuel) first.target
      match ← redirect first.stream first.kind target with
      | some complaint => return some complaint
      | none => runRedirects fuel rest

/-- Runs a simple command: its words are read, its streams are connected, its variables get their
values one after the other, and then it is run. Without a command the values stay. -/
def runSimple (fuel : Nat) (mode : Mode) (assignments : List (String × Word)) (words : List Word)
    (redirects : List Redirect) : Work Nat :=
  match fuel with
  | 0 => throw .endless
  | fuel + 1 => do
    modifyFrame fun frame => { frame with outputStatus := 0 }
    let fields ← expandWords (substitute fuel) words
    let outer ← frame
    let assignAll : Work (List (String × String)) := assignments.mapM fun (name, word) => do
      let value ← expandText (substitute fuel) word
      assign name value
      return (name, value)
    match fields with
    | [] =>
      restoreStreams do
        match ← runRedirects fuel redirects with
        | some complaint => failWith 2 complaint
        | none =>
          let values ← assignAll
          if !values.isEmpty then trace outer.streams values []
          return (← frame).outputStatus
    | ["exec"] =>
      match ← runRedirects fuel redirects with
      | some complaint =>
        complain complaint
        throw (.exit 2)
      | none =>
        let values ← assignAll
        trace outer.streams values fields
        return 0
    | name :: arguments =>
      restoreStreams do
        match ← runRedirects fuel redirects with
        | some complaint => failWith 2 complaint
        | none =>
          let values ← assignAll
          trace outer.streams values fields
          let isEssential :=
            Command.essential.contains name && (outer.functions.lookup name).isNone
          if !isEssential || name == "exec" then
            modifyFrame fun frame => { frame with exported := frame.exported ++ values.map (·.1) }
          let status ← invoke fuel mode name arguments
          if !values.isEmpty && !isEssential then
            values.forM fun (name, _) => restore name (outer.bindings.lookup name)
            modifyFrame fun frame => { frame with exported := outer.exported }
          return status

/-- Runs what a command's words name: a function, the shell's own commands, or a program. -/
def invoke (fuel : Nat) (mode : Mode) (name : String) (arguments : List String) : Work Nat :=
  match fuel with
  | 0 => throw .endless
  | fuel + 1 => do
    match (← frame).functions.lookup name, Builtin.find? name with
    | some body, _ => call arguments (run fuel mode.followed body)
    | none, some command => speaking none (command arguments)
    | none, none =>
      match name, arguments with
      | "exec", program :: rest => do
        match ← findProgram program with
        | .denied => throw (.exit (← failWith 126 ("exec: " ++ program ++ ": Permission denied")))
        | .missing => throw (.exit (← failWith 127 ("exec: " ++ program ++ ": not found")))
        | _ =>
          modifyFrame fun frame => { frame.fork with isForked := frame.isForked }
          throw (.exit (← execute fuel true program rest))
      | "type", names =>
        names.foldlM (fun (status : Nat) name => do return max status (← explain name)) 0
      | "eval", arguments =>
        speaking (some "eval") (runSource fuel mode.followed (String.intercalate " " arguments))
      | "command", [] => return 0
      | "command", program :: rest =>
        if program == "-v" then
          rest.foldlM (fun (status : Nat) name => do return max status (← locate name)) 0
        else if program == "-V" then
          rest.foldlM (fun (status : Nat) name => do return max status (← explain name)) 0
        else if program == "--" || program == "-p" then
          invoke fuel mode (rest.headD "") rest.tail
        else invoke fuel mode program rest
      | ".", [] => return 0
      | ".", path :: _ => do
        match ← scriptOf path with
        | .ok (found, content) =>
          speaking (some found) (returning (runSource fuel mode.followed (ofOctets content)))
        | .error complaint => speaking none (Builtin.refuse (".: " ++ complaint))
      | "wait", receivers => do
        if let some receiver := receivers.find? fun s => (Integer.count? s).isNone then
          return ← speaking none (failWith 2 ("wait: Illegal number: " ++ receiver))
        let wasAsked := (← get).outside.isAsked
        let _ ← runJobs fuel false
        if !wasAsked && (← get).outside.isAsked then return 143
        receivers.foldlM (fun _ receiver => statusOfJob receiver) 0
      | name, arguments => execute fuel (mode.isLast && !(← frame).hasTraps) name arguments

/-- Runs a program. -/
def execute (fuel : Nat) (isLast : Bool) (name : String) (arguments : List String) : Work Nat :=
  match fuel with
  | 0 => throw .endless
  | fuel + 1 => do
    match ← findProgram name with
    | .system program => runSystem fuel isLast program name arguments
    | .script path content =>
      match interpreterOf? content with
      | none => runSystem fuel isLast "sh" path (path :: arguments)
      | some [] => return 127
      | some (interpreter :: options) =>
        match ← programAt interpreter with
        | .system program =>
          runSystem fuel isLast program interpreter (options ++ path :: arguments)
        | _ => failWith 127 (name ++ ": not found")
    | .denied => failWith (if name.isEmpty then 127 else 126) (name ++ ": Permission denied")
    | .missing =>
      if (← frame).dialect == .extended && !name.toList.contains '/' then
        failWith 127 (name ++ ": command not found")
      else if (← frame).dialect == .extended then
        failWith 127 (name ++ ": No such file or directory")
      else failWith 127 (name ++ ": not found")

/-- Runs a program of the system, called by a name. A shell is a process of its own, unless it takes
the place of the one at work. -/
def runSystem (fuel : Nat) (isLast : Bool) (program called : String) (arguments : List String) :
    Work Nat :=
  match fuel with
  | 0 => throw .endless
  | fuel + 1 => do
    match Utility.shells.lookup program, Utility.table.lookup program with
    | some dialect, _ =>
      let shell := runShell fuel dialect called arguments
      if isLast then replacing shell else asProcess shell
    | none, some utility =>
      let work : Work Nat := do
        modifyFrame fun frame => { frame with dialect := .extended }
        utility arguments
      if isLast then replacing work else isolate work
    | none, none =>
      match program, arguments with
      | "env", arguments => runEnv fuel isLast arguments
      | "nice", name :: rest | "nohup", name :: rest => execute fuel isLast name rest
      | "which", names =>
        names.foldlM (fun (status : Nat) name => do return max status (← whereIs name)) 0
      | "kill", arguments => Signals.kill arguments
      | _, _ => return 1

/-- Runs a program with more variables, or shows the variables. -/
def runEnv (fuel : Nat) (isLast : Bool) (arguments : List String) : Work Nat :=
  match fuel with
  | 0 => throw .endless
  | fuel + 1 => do
    match arguments with
    | [] =>
      let frame ← frame
      let shown := frame.bindings.filter fun (name, _) => frame.exported.contains name
      let shown := if frame.isShell
        then shown.mergeSort fun a b => bucketOf a.1 ≤ bucketOf b.1 else shown
      Utility.put "env" (shown.flatMap fun (name, value) => octets (name ++ "=" ++ value ++ "\n"))
    | argument :: rest =>
      if argument.toList.contains '=' then
        replacing do
          let _ ← Builtin.define "env" true [argument]
          runEnv fuel isLast rest
      else execute fuel isLast argument rest

/-- Runs a shell on its command line. -/
def runShell (fuel : Nat) (dialect : Dialect) (called : String) (arguments : List String) :
    Work Nat :=
  match fuel with
  | 0 => throw .endless
  | fuel + 1 => do
    let line := ShellLine.read {} arguments
    let enter (name : String) (parameters : List String) : Work Unit :=
      modifyFrame fun frame =>
        { frame with
          name, parameters, dialect
          bindings := ownVariables frame ++ frame.bindings.filter fun (name, _) =>
            frame.exported.contains name && (ownVariables frame).all (·.1 != name)
          exported := "PWD" :: frame.exported
          functions := [], status := 0, line := 1, locals := none, loops := 0
          fixed := [], isShell := true, speaker := none
          traps := frame.traps.filter fun (_, action) => action.isEmpty
          options := line.letters.filter (· != 'c') }
    if let some option := line.fault then
      if dialect == .plain then
        enter called []
        modifyFrame fun frame => { frame with line := 0 }
        Builtin.refuse ("Illegal option " ++ option)
    match line.has 'c', line.operands with
    | true, [] =>
      enter called []
      modifyFrame fun frame => { frame with line := 0 }
      complain "-c requires an argument"
      throw (.exit 2)
    | true, source :: rest =>
      enter (rest.headD called) rest.tail
      runWhole fuel (dialect == .extended) source
    | false, [] =>
      enter called []
      runWhole fuel false (ofOctets (← takeInput).bytes)
    | false, path :: rest =>
      match (← files).read (pathOf path) with
      | .ok content =>
        enter path rest
        runWhole fuel false (ofOctets content)
      | .error (.errno .isDirectory) => return 0
      | .error _ =>
        enter called []
        modifyFrame fun frame => { frame with line := 0 }
        if dialect == .extended then
          writeText 2 (called ++ ": " ++ path ++ ": No such file or directory\n")
          throw (.exit 127)
        complain ("cannot open " ++ path ++ ": No such file")
        throw (.exit 2)

/-- Runs the text of a program in the shell at work. -/
def runSource (fuel : Nat) (mode : Mode) (source : String) : Work Nat :=
  match fuel with
  | 0 => throw .endless
  | fuel + 1 => do
    let (lines, fault) := Command.ofSource source
    let status ← if lines.isEmpty then pure 0
      else run fuel { mode with isLast := mode.isLast && fault.isNone } (.sequence lines)
    match fault with
    | none => return status
    | some (fault, line) =>
      modifyFrame fun frame => { frame with line }
      complain fault.message
      throw (.exit 2)

/-- Runs the text of a whole program, and what is to be done at its end. -/
def runWhole (fuel : Nat) (isLast : Bool) (source : String) : Work Nat :=
  match fuel with
  | 0 => throw .endless
  | fuel + 1 => runToEnd fuel (runSource fuel { isLast } source)

/-- The output of a program, without the line ends at its end. -/
def substitute (fuel : Nat) (source : String) : Work (List Char) :=
  match fuel with
  | 0 => throw .endless
  | fuel + 1 => do
    let (status, supply) ← catchOutput (runToEnd fuel (runSource fuel {} source))
    modifyFrame fun frame => { frame with outputStatus := status }
    return ((textOf supply.bytes).reverse.dropWhile (· == '\n')).reverse

/-- Runs the jobs in the background to their ends. -/
def runJobs (fuel : Nat) (isBackground : Bool) : Work Nat :=
  match fuel with
  | 0 => throw .endless
  | fuel + 1 => do
    let s ← get
    match s.jobs with
    | [] => return 0
    | job :: rest =>
      set { s with jobs := rest, outside := { s.outside with clock := job.start } }
      let status ← isolateWith (fun signal => return 128 + signal) do
        modifyFrame fun _ => { job.frame with isBackground }
        runToEnd fuel (run fuel {} job.body)
      modify fun s => { s with ended := ⟨job.number, status, false⟩ :: s.ended }
      let ended := (← get).outside.clock
      if s.outside.clock.compare? ended == some .gt then
        modifyOutside fun o => { o with clock := s.outside.clock }
      if rest.isEmpty && (← get).jobs.isEmpty then return status
      runJobs fuel isBackground

end

end ScanLauncher.Shell
