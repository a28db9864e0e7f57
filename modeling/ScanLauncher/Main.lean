import ScanLauncher.Cli.Program
import Std.Time

/-!
The program on a real machine. What a command can ask about is read first: the environment, the
configuration files, the places where the script can be, and the report directory. The command
then works on this copy, and what it said is written out. Nothing on the machine is changed and no
child is started: a scan ends with the launch error that says so.
-/
namespace ScanLauncher.Main

/-- The place of an absolute path. -/
def placeOf (path : String) : Location := (Path.ofText path).parts

/-- A text as the machine's own functions take it; surrogates are replaced. -/
def spelling (t : Text) : String := String.ofList t.toCharsLossy

/-- The canonical form of a path, if it leads anywhere. -/
def canonical? (path : String) : IO (Option String) := do
  try return some (← IO.FS.realPath path).toString
  catch _ => return none

/-- The kind of what a name in a directory stands for, links not followed. -/
def kind? (directory name : String) : IO (Option IO.FS.FileType) := do
  let entry : IO.FS.DirEntry := { root := directory, fileName := name }
  try return some (← entry.path.symlinkMetadata).type
  catch _ => return none

/-- The bytes of a file; none if it cannot be read. -/
def contentOf (path : String) : IO (List UInt8) := do
  try return (← IO.FS.readBinFile path).toList
  catch _ => return []

/-- Puts what a name in a directory stands for into the tree. A file counts as one that can be run,
because the machine does not tell. -/
def gatherEntry (tree : Tree) (directory name : String) (wantsContent : Bool) : IO Tree := do
  let place := placeOf directory ++ [Text.ofString name]
  let path := directory ++ "/" ++ name
  match ← kind? directory name with
  | some .dir => return tree.put place .directory
  | some .file =>
    let content ← if wantsContent then contentOf path else pure []
    return tree.put place (.file content true)
  | some .symlink =>
    match ← canonical? path with
    | some target => return tree.put place (.link target)
    | none => return tree
  | some .other => return tree.put place .fifo
  | none => return tree

/-- Puts all that lies on the way along some names into the tree, from a canonical directory on. -/
def gatherAlong (tree : Tree) (directory : String) (wantsContent : Bool) : List String → IO Tree
  | [] => return tree
  | name :: rest => do
    let tree ← if name == ".." then pure tree else gatherEntry tree directory name wantsContent
    match ← canonical? (directory ++ "/" ++ name) with
    | some next => gatherAlong tree next wantsContent rest
    | none => return tree

/-- Puts a path into the tree: as it is spelt, and what it leads to. -/
def gather (tree : Tree) (current : String) (wantsContent : Bool) (path : Path) : IO Tree := do
  let path := Path.ofText current / path
  let tree ← gatherAlong tree "/" wantsContent (path.parts.map spelling)
  match ← canonical? (spelling path.text) with
  | some target => gatherAlong tree "/" wantsContent ((Path.ofText target).parts.map spelling)
  | none => return tree

/-- Puts a path and the names directly inside it into the tree. -/
def gatherDirectory (tree : Tree) (current : String) (path : Path) : IO Tree := do
  let tree ← gather tree current false path
  match ← canonical? (spelling (Path.ofText current / path).text) with
  | none => return tree
  | some directory =>
    try
      let canonicalPath ← IO.FS.realPath directory
      (← canonicalPath.readDir).foldlM
        (fun tree entry => gatherEntry tree directory entry.fileName false) tree
    catch _ => return tree

/-- One variable, from its assignment. -/
def variableOf (bytes : List UInt8) : Option (Text × Text) :=
  let (name, rest) := bytes.span (· != 0x3D)
  if rest.isEmpty then none else some (.ofBytes name, .ofBytes (rest.drop 1))

/-- The environment of the program. -/
def environment : IO Environment := do
  return ((← contentOf "/proc/self/environ").splitOn 0).filterMap variableOf

/-- The configuration files that a command line can ask for. -/
def configCandidates (env : Environment) (arguments : Cli.Arguments) : List Path :=
  Config.projectNames.map .ofText ++
    env.settingsHome?.toList.map (· / .ofText Config.globalName) ++
    arguments.configPath.toList

/-- The places where the analysis script can be. -/
def scriptCandidates (env : Environment) (tool : ToolSettings) : List Path :=
  (Path.ofText tool.workingDir / .ofText tool.executable) ::
    (FileSystem.searchDirectories env).map fun directory =>
      .ofText (Path.joinText directory tool.executable)

/-- A child can not be started. -/
def noChild : ProcessSpec := { launchError := some (.errno ⟨38⟩) }

/-- The part of the machine that a command line can ask about. -/
def worldFor (arguments : Cli.Arguments) : IO World := do
  let current := (← IO.FS.realPath ".").toString
  let env ← environment
  let base ← gather ⟨[]⟩ current false .here
  let tree ← (configCandidates env arguments).foldlM
    (fun tree path => gather tree current true path) base
  let world : World := { files := ⟨tree, placeOf current⟩, env, specs := [noChild] }
  match (Config.load world.files.currentPath arguments.configPath arguments.overrides) world with
  | (.error _, _) => return world
  | (.ok config, _) =>
    let tree ← (scriptCandidates env config.tool).foldlM
      (fun tree path => gather tree current false path) tree
    let tree ← gatherDirectory tree current config.reportDir
    return { world with files := ⟨tree, placeOf current⟩ }

/-- Writes a text to a stream. Surrogates that stand for no byte are replaced. -/
def putText (stream : IO.FS.Stream) (text : Text) : IO Unit :=
  stream.write (ByteArray.mk (text.toBytes?.getD (Utf8.encode text.toCharsLossy)).toArray)

/-- Writes a line to a stream. -/
def putLine (stream : IO.FS.Stream) (line : Text) : IO Unit := putText stream (line ++ "\n")

/-- Writes log records, each after the time. -/
def putLog (stream : IO.FS.Stream) (records : List LogRecord) : IO Unit :=
  records.forM fun record => do
    let time ← Std.Time.PlainDateTime.now
    putLine stream (time.format "uuuu-MM-dd HH:mm:ss,SSS" ++ " " ++ record.line)

/-- Writes out what the user sees. -/
def putTerminal (terminal : Cli.Terminal) : IO Unit := do
  let stdout ← IO.getStdout
  let stderr ← IO.getStderr
  stdout.write (ByteArray.mk terminal.output.toArray)
  putText stderr terminal.complaints
  terminal.printed.forM fun (channel, item) =>
    item.lines.forM (putLine (if channel == .stdout then stdout else stderr))
  stdout.flush

end ScanLauncher.Main

open ScanLauncher in
/-- Runs the program on its command line and ends with its exit number. -/
def main (line : List String) : IO UInt32 := do
  let line := line.map Text.ofString
  let arguments := (Cli.Arguments.read line).toOption.getD {}
  let world ← Main.worldFor arguments
  let ((result, terminal), world) := Cli.run line {} world
  let stderr ← IO.getStderr
  Main.putLog stderr (terminal.shown world.log)
  Main.putTerminal terminal
  match result with
  | .ok code => return code.number.toUInt32
  | .error failure =>
    Main.putLine stderr (failure.message?.getD "the command failed")
    return 1
