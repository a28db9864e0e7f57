import ScanLauncher.Shell.ReadLine
import ScanLauncher.Shell.Signals

/-!
The commands that a shell carries out by itself, because they act on the shell: its directory, its
variables, its streams and its loops.
-/
namespace ScanLauncher.Shell.Builtin

open Work

/-- Complains and ends the shell, as a command does that the shell cannot do without. -/
def refuse {α : Type} (text : String) : Work α := do
  complain text
  throw (.exit 2)

/-- The number that an argument of a command spells. -/
def countOf (command argument : String) : Work Nat := do
  match Integer.count? argument with
  | some n => return n
  | none => refuse (command ++ ": Illegal number: " ++ argument)

/-- The status that an argument names. -/
def statusOf (command : String) (arguments : List String) : Work Nat := do
  match arguments with
  | [] => return (← frame).status
  | argument :: _ => return (← countOf command argument) % 256

/-- Notes the directory in variables that other programs see. -/
def noteDirectory (name : String) : Work Unit := do
  assign name (Shell.ofText (FileSystem.locationText (← frame).cwd))
  modifyFrame fun frame => { frame with exported := frame.exported ++ [name] }

/-- Goes to another directory, or back to the one before; going back says where that is. -/
def cd (arguments : List String) : Work Nat := do
  let bindings := (← frame).bindings
  let home := (bindings.lookup "HOME").getD ""
  let given := (arguments.filter fun s => s != "-P" && s != "-L" && s != "--").headD home
  let target := if given == "-" then (bindings.lookup "OLDPWD").getD "" else given
  match (← files).lookup true (if target.isEmpty then "." else pathOf target) with
  | .ok (cwd, .directory) =>
    noteDirectory "OLDPWD"
    modifyFrame fun frame => { frame with cwd }
    noteDirectory "PWD"
    if given == "-" then Utility.pwd [] else return 0
  | _ => failWith 2 ("cd: can't cd to " ++ target)

/-- The letters of the options that have names. -/
def optionLetters : List (String × Char) := [
  ("errexit", 'e'), ("nounset", 'u'), ("xtrace", 'x'), ("noglob", 'f'), ("noexec", 'n'),
  ("verbose", 'v'), ("ignoreeof", 'I'), ("interactive", 'i'), ("monitor", 'm'), ("stdin", 's'),
  ("vi", 'V'), ("emacs", 'E'), ("noclobber", 'C'), ("allexport", 'a'), ("notify", 'b'),
  ("nolog", ' '), ("debug", ' ')]

/-- Turns an option on or off. -/
def setOption (isOn : Bool) (letter : Char) : Work Unit := do
  if letter == ' ' || !optionLetters.any (·.2 == letter) && (← frame).dialect == .plain then
    refuse ("set: Illegal option " ++ String.ofList [if isOn then '-' else '+', letter])
  modifyFrame fun frame =>
    let others := frame.options.filter (· != letter)
    { frame with options := if isOn then letter :: others else others }

/-- Turns an option on or off by its name. -/
def setNamed (isOn : Bool) (name : String) : Work Unit := do
  match optionLetters.lookup name with
  | some letter => if letter != ' ' then setOption isOn letter
  | none =>
    if (← frame).dialect == .plain then
      refuse ("set: Illegal option " ++ (if isOn then "-o " else "+o ") ++ name)

/-- Turns the options of one word on or off. One of the letters takes a name from the words that
follow; the answer is what is left of them. -/
def setLetters (isOn : Bool) (rest : List String) : List Char → Work (List String)
  | [] => return rest
  | 'o' :: letters => do
    rest.head?.forM (setNamed isOn)
    setLetters isOn rest.tail letters
  | letter :: letters => do
    setOption isOn letter
    setLetters isOn rest letters

/-- Shows definitions in an order by their names, each in quotes that a shell reads back. -/
def listDefinitions (mark : String) (bindings : List (String × String)) : Work Nat :=
  let lines := (bindings.mergeSort fun a b => decide (a.1 < b.1) || a.1 == b.1).map
    fun (name, value) =>
      mark ++ name ++ "=" ++ String.ofList (Signals.quoted (value.length + 1) value.toList) ++ "\n"
  Utility.put "set" (octets (String.join lines))

/-- Sets options and positional parameters. -/
def setAll (fuel : Nat) (arguments : List String) : Work Nat :=
  match fuel with
  | 0 => return 0
  | fuel + 1 => do
    match arguments with
    | [] => return 0
    | "--" :: parameters =>
      modifyFrame fun frame => { frame with parameters }
      return 0
    | argument :: rest =>
      match argument.toList with
      | '-' :: letters => setAll fuel (← setLetters true rest letters)
      | '+' :: letters => setAll fuel (← setLetters false rest letters)
      | _ =>
        modifyFrame fun frame => { frame with parameters := argument :: rest }
        return 0

/-- Sets options and positional parameters, or shows all variables. -/
def setOptions (arguments : List String) : Work Nat := do
  if !arguments.isEmpty then return ← setAll (arguments.length + 1) arguments
  let bindings := (← frame).bindings
  let separators := if (bindings.lookup "IFS").isSome then [] else [("IFS", " \t\n")]
  listDefinitions "" (bindings ++ separators)

/-- Drops positional parameters from the front. -/
def shift (arguments : List String) : Work Nat := do
  let count ← (arguments.head?.map (countOf "shift")).getD (return 1)
  if (← frame).parameters.length < count then
    refuse "shift: can't shift that many"
  modifyFrame fun frame => { frame with parameters := frame.parameters.drop count }
  return 0

/-- A name and the value that an argument gives it. -/
def definition (argument : String) : String × Option String :=
  match argument.toList.dropWhile (· != '=') with
  | _ :: value => (String.ofList (argument.toList.takeWhile (· != '=')), some (String.ofList value))
  | [] => (argument, none)

/-- Defines variables for a command; other programs get to see them if `isExport` says so. -/
def define (command : String) (isExport : Bool) (arguments : List String) : Work Nat := do
  let arguments := arguments.filter fun s => s != "-p" && s != "--"
  if arguments.isEmpty && isExport then
    let frame ← frame
    return ← listDefinitions "export " (frame.bindings.filter fun (name, _) =>
      frame.exported.contains name)
  arguments.forM fun argument => do
    let (name, value) := definition argument
    if !Command.isName name then refuse (command ++ ": " ++ name ++ ": bad variable name")
    if let some value := value then assign name value
    if isExport then modifyFrame fun frame => { frame with exported := frame.exported ++ [name] }
  return 0

/-- Defines variables that keep their values. -/
def fix (arguments : List String) : Work Nat := do
  let arguments := arguments.filter fun s => s != "-p" && s != "--"
  if arguments.isEmpty then
    let frame ← frame
    return ← listDefinitions "readonly " (frame.bindings.filter fun (name, _) =>
      frame.fixed.contains name)
  let _ ← define "readonly" false arguments
  let names := arguments.map fun argument => (definition argument).1
  modifyFrame fun frame => { frame with fixed := frame.fixed ++ names }
  return 0

/-- Forgets variables, or functions where that is asked for. -/
def unset (arguments : List String) : Work Nat := do
  match Options.read ['f', 'v'] [] arguments with
  | .error complaint => refuse ("unset: " ++ complaint)
  | .ok options =>
    let names := options.operands
    if options.has 'f' then
      modifyFrame fun frame =>
        { frame with functions := frame.functions.filter fun (name, _) => !names.contains name }
      return 0
    if let some name := names.find? (!Command.isName ·) then
      refuse ("unset: " ++ name ++ ": bad variable name")
    if let some name := names.find? (← frame).fixed.contains then
      refuse ("unset: " ++ name ++ ": is read only")
    modifyFrame fun frame =>
      { frame with
        bindings := frame.bindings.filter fun (name, _) => !names.contains name
        exported := frame.exported.filter (!names.contains ·) }
    return 0

/-- The rights that a mask leaves to one kind of user, in letters. -/
def rightsOf (mask shift : Nat) : String :=
  let digit := mask / shift % 8
  String.ofList ((if digit / 4 % 2 == 0 then ['r'] else []) ++
    (if digit / 2 % 2 == 0 then ['w'] else []) ++ if digit % 2 == 0 then ['x'] else [])

/-- Shows or sets the rights that new files do not get. -/
def umask (arguments : List String) : Work Nat := do
  let mask := (← frame).mask
  match arguments with
  | [] =>
    let digits := [512, 64, 8, 1].map fun unit => Char.ofNat (48 + mask / unit % 8)
    Utility.put "umask" (octets (String.ofList digits ++ "\n"))
  | "-S" :: _ =>
    Utility.put "umask" (octets
      ("u=" ++ rightsOf mask 64 ++ ",g=" ++ rightsOf mask 8 ++ ",o=" ++ rightsOf mask 1 ++ "\n"))
  | argument :: _ =>
    if !(argument.toList.head?.any Char.isDigit) then
      failWith 2 ("umask: Illegal mode: " ++ argument)
    else
      match argument.toList.mapM Format.octal? with
      | none => failWith 2 ("umask: Illegal number: " ++ argument)
      | some digits =>
        modifyFrame fun frame => { frame with mask := digits.foldl (8 * · + ·) 0 % 512 }
        return 0

/-- Keeps variables for the function at work: they are put back when it ends. -/
def keepLocal (arguments : List String) : Work Nat := do
  match (← frame).locals with
  | none => refuse "local: not in a function"
  | some kept =>
    let bindings := (← frame).bindings
    let names := (arguments.map fun argument => (definition argument).1).filter fun name =>
      !kept.any (·.1 == name)
    modifyFrame fun frame =>
      { frame with locals := some (kept ++ names.map fun name => (name, bindings.lookup name)) }
    define "local" false arguments

/-- Leaves as many loops, or their rounds, as an argument says; outside of loops nothing happens. -/
def inLoop (command : String) (jump : Nat → Jump) (arguments : List String) : Work Nat := do
  let levels ← (arguments.head?.map (countOf command)).getD (return 1)
  if levels == 0 then refuse (command ++ ": Illegal number: " ++ arguments.headD "")
  if (← frame).loops == 0 then return 0 else throw (jump levels)

/-- The commands that a shell carries out by itself and that run no other. -/
def table : List (String × (List String → Work Nat)) := [
  (":", fun _ => return 0),
  ("kill", Signals.kill),
  ("exit", fun arguments => do throw (.exit (← statusOf "exit" arguments))),
  ("return", fun arguments => do throw (.leaveFunction (← statusOf "return" arguments))),
  ("break", inLoop "break" .leaveLoop),
  ("continue", inLoop "continue" .nextRound),
  ("cd", cd),
  ("set", setOptions),
  ("shift", shift),
  ("export", define "export" true),
  ("readonly", fix),
  ("local", keepLocal),
  ("unset", unset),
  ("read", ReadLine.read),
  ("trap", Signals.trap),
  ("umask", umask),
  ("hash", fun _ => return 0),
  ("ulimit", fun _ => return 0)]

/-- The programs of the system that a shell also carries out by itself. -/
def inlined : List String := ["true", "false", "echo", "printf", "test", "[", "pwd"]

/-- Whether a shell carries out a command of a name by itself, or runs others for it. -/
def isOwn (name : String) : Bool :=
  (table.lookup name).isSome || inlined.contains name ||
    ["exec", "eval", "command", ".", "wait", "type"].contains name

/-- The command of a name that a shell carries out by itself. -/
def find? (name : String) : Option (List String → Work Nat) :=
  match table.lookup name with
  | some command => some command
  | none => if inlined.contains name then Utility.table.lookup name else none

end ScanLauncher.Shell.Builtin
