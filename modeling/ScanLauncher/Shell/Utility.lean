import ScanLauncher.Shell.Expression
import ScanLauncher.Shell.FileTool
import ScanLauncher.Shell.Filter
import ScanLauncher.Shell.Predicate

/-!
The small programs that every system has, and that scripts start from a shell. Each reads its
arguments and its input, writes to its streams and ends with a status.
-/
namespace ScanLauncher.Shell.Utility

open Work

/-- The seconds of a duration; a letter may give its unit. -/
def secondsOf? (s : String) : Option Binary64 :=
  let (number, factor) :=
    match s.toList.getLast? with
    | some 's' => (s.toList.dropLast, 1)
    | some 'm' => (s.toList.dropLast, 60)
    | some 'h' => (s.toList.dropLast, 3600)
    | some 'd' => (s.toList.dropLast, 86400)
    | _ => (s.toList, 1)
  (Numeral.readFloat? number).map (·.mul (.ofInt factor))

/-- Waits. -/
def sleep (arguments : List String) : Work Nat := do
  match arguments.mapM secondsOf? with
  | some (first :: rest) =>
    pass (rest.foldl Binary64.add first)
    return 0
  | _ =>
    let text :=
      match arguments.find? fun s => (secondsOf? s).isNone with
      | some s => "invalid time interval '" ++ s ++ "'"
      | none => "missing operand"
    writeText 2 ("sleep: " ++ text ++ "\nTry 'sleep --help' for more information.\n")
    return 1

/-- The value of a setting written with an equals sign. -/
def settingOf? (name : String) (arguments : List String) : Option String :=
  arguments.findSome? fun argument =>
    if argument.startsWith (name ++ "=") then
      some (String.ofList (argument.toList.drop (name.length + 1)))
    else none

/-- Copies blocks of bytes. -/
def dd (arguments : List String) : Work Nat := do
  match ← supplyOf ((settingOf? "if" arguments).getD "-") with
  | .error fault =>
    complainAbout "dd" ("failed to open '" ++ (settingOf? "if" arguments).getD "" ++ "'") fault
    return 1
  | .ok supply =>
    let size := ((settingOf? "bs" arguments).map natOf).getD 512
    match (settingOf? "count" arguments).map natOf with
    | some count => put "dd" (supply.take (size * count))
    | none => putSupply "dd" supply

/-- Says something over and over. -/
def yes (arguments : List String) : Work Nat :=
  let line := if arguments.isEmpty then "y" else String.intercalate " " arguments
  putSupply "yes" { cycle := octets (line ++ "\n") }

/-- A text without an ending that is not the whole of it. -/
def dropEnding (ending text : String) : String :=
  if text.endsWith ending && text != ending then
    String.ofList (text.toList.take (text.length - ending.length))
  else text

/-- The last component of a path, without an ending that may be given. -/
def basename (arguments : List String) : Work Nat := do
  match if arguments.head? == some "--" then arguments.tail else arguments with
  | [] =>
    writeText 2 "basename: missing operand\nTry 'basename --help' for more information.\n"
    return 1
  | path :: rest =>
    let name := if path.isEmpty then "" else lastName path
    let name := if name.isEmpty && !path.isEmpty then "/" else name
    put "basename" (octets (dropEnding (rest.headD "") name ++ "\n"))

/-- A path without its last component. -/
def dirname (arguments : List String) : Work Nat :=
  put "dirname" (octets (frontOf (arguments.headD "") ++ "\n"))

/-- Says a line. -/
def echo (arguments : List String) : Work Nat := do
  put "echo" (Format.echo ((← frame).dialect == .plain) arguments)

/-- Prints in a format. -/
def printf (arguments : List String) : Work Nat := do
  match if arguments.head? == some "--" then arguments.tail else arguments with
  | [] => failWith 2 "printf: usage: printf format [arg ...]"
  | format :: arguments =>
    match format.toList with
    | '-' :: letter :: _ => failWith 2 ("printf: Illegal option -" ++ String.ofList [letter])
    | _ =>
      let printing := Format.print format arguments
      printing.complaints.forM fun s => complain ("printf: " ++ s)
      let status ← put "printf" printing.bytes
      return if printing.status == 0 then status else printing.status

/-- The system in a word. -/
def uname (arguments : List String) : Work Nat :=
  if arguments.all fun s => s == "-s" then put "uname" (octets "Linux\n") else return 1

/-- The name of the user. -/
def whoami (_ : List String) : Work Nat := put "whoami" (octets "root\n")

/-- The user and the groups. -/
def identity (arguments : List String) : Work Nat :=
  let letters := arguments.flatMap fun s => s.toList.drop 1
  put "id" (octets (
    if letters.isEmpty then "uid=0(root) gid=0(root) groups=0(root)\n"
    else if letters.contains 'n' then "root\n"
    else "0\n"))

/-- Says what an expression of words comes to; the status tells zero and nothing from all else. -/
def expr (arguments : List String) : Work Nat := do
  match Expression.evaluate arguments with
  | .ok value =>
    let _ ← put "expr" (octets (value ++ "\n"))
    return if value.isEmpty || Integer.of? value == some 0 then 1 else 0
  | .error fault =>
    writeText 2 ("expr: " ++ fault.message ++ "\n")
    return fault.status

/-- Says where the shell is. -/
def pwd (_ : List String) : Work Nat := do
  put "pwd" (octets (Shell.ofText (FileSystem.locationText (← frame).cwd) ++ "\n"))

/-- The programs that look at nothing but their arguments and streams, by name. -/
def programs : List (String × (List String → Work Nat)) := [
  ("true", fun _ => return 0), ("false", fun _ => return 1), ("echo", echo), ("printf", printf),
  ("pwd", pwd), ("cat", cat), ("head", head), ("tail", tail), ("wc", wc), ("seq", seq), ("tr", tr),
  ("sed", sed), ("grep", grep), ("sort", sort), ("uniq", uniq), ("cut", cut), ("tac", tac),
  ("rev", rev), ("mkdir", mkdir), ("touch", touch), ("rm", rm), ("rmdir", rmdir), ("cp", cp),
  ("mv", mv), ("ln", ln), ("chmod", chmod), ("ls", ls), ("tee", tee), ("readlink", readlink),
  ("sleep", sleep), ("yes", yes), ("dd", dd), ("basename", basename), ("dirname", dirname),
  ("expr", expr), ("uname", uname), ("whoami", whoami), ("id", identity)]

/-- The programs that are shells themselves. -/
def shells : List (String × Dialect) := [("sh", .plain), ("dash", .plain), ("bash", .extended)]

/-- The programs that run others, signal them or look for them. -/
def managers : List String := ["env", "kill", "nice", "nohup", "test", "[", "which"]

/-- The directories that hold the programs of the system. -/
def directories : List String := ["/usr/local/bin", "/usr/bin", "/bin"]

/-- Whether the system has a program of a name. -/
def isKnown (name : String) : Bool :=
  (programs.lookup name).isSome || (shells.lookup name).isSome || managers.contains name

/-- The name of the system's program at a path. -/
def atPath? (path : String) : Option String :=
  let directory := frontOf path
  let name := lastName path
  if (directory == "/bin" || directory == "/usr/bin") && isKnown name then some name else none

/-- Answers a condition for a command of a name. -/
def answer (name : String) (arguments : List String) : Work Nat := do
  let scene : Predicate.Scene :=
    { files := ← files
      isProgram := fun path => (atPath? path).isSome
      knowsDouble := (← frame).dialect == .extended }
  match Predicate.evaluate scene false arguments with
  | .ok holds => return if holds then 0 else 1
  | .error fault => failWith 2 (name ++ ": " ++ fault.message)

/-- Answers a condition in brackets. -/
def bracket (arguments : List String) : Work Nat :=
  if arguments.getLast? == some "]" then answer "[" arguments.dropLast
  else failWith 2 "[: missing ]"

/-- All programs that run no others, by name. -/
def table : List (String × (List String → Work Nat)) :=
  programs ++ [("test", answer "test"), ("[", bracket)]

end ScanLauncher.Shell.Utility
