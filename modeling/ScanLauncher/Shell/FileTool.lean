import ScanLauncher.Shell.Pattern
import ScanLauncher.Shell.Stream

/-!
The programs that make, move, list and remove files.
-/
namespace ScanLauncher.Shell.Utility

open Work

/-- Makes directories. -/
def mkdir (arguments : List String) : Work Nat := do
  let makesParents := arguments.contains "-p"
  (arguments.filter (!·.startsWith "-")).foldlM (fun (status : Nat) (path : String) => do
    let fs ← files
    if makesParents then
      change (.directory (pathOf path))
      return status
    match fs.makeDirectory (pathOf path) with
    | .ok _ =>
      change (.directory (pathOf path))
      return status
    | .error fault =>
      complainAbout "mkdir" ("cannot create directory '" ++ path ++ "'") fault
      return 1) 0

/-- Makes files that are missing. -/
def touch (arguments : List String) : Work Nat :=
  arguments.foldlM (fun (status : Nat) (path : String) => do
    let fs ← files
    match fs.lookup true (pathOf path) with
    | .ok _ => return status
    | .error _ =>
      match fs.writeFile (pathOf path) [] false with
      | .ok _ =>
        change (.file (pathOf path) [] false)
        return status
      | .error fault =>
        complainAbout "touch" ("cannot touch '" ++ path ++ "'") fault
        return 1) 0

/-- Removes. -/
def rm (arguments : List String) : Work Nat :=
  let flags := (arguments.filter (·.startsWith "-")).flatMap fun s => s.toList
  let isDeep := flags.contains 'r' || flags.contains 'R'
  (arguments.filter (!·.startsWith "-")).foldlM (fun (status : Nat) (path : String) => do
    let about := "cannot remove '" ++ path ++ "'"
    match (← files).lookup false (pathOf path) with
    | .ok (_, .directory) =>
      if isDeep then
        change (.remove (pathOf path))
        return status
      complainAbout "rm" about (.errno .isDirectory)
      return 1
    | .ok _ =>
      change (.remove (pathOf path))
      return status
    | .error fault =>
      if flags.contains 'f' then return status
      complainAbout "rm" about fault
      return 1) 0

/-- Removes empty directories. -/
def rmdir (arguments : List String) : Work Nat :=
  arguments.foldlM (fun (status : Nat) (path : String) => do
    let fs ← files
    let about := "failed to remove '" ++ path ++ "'"
    match fs.lookup false (pathOf path) with
    | .ok (loc, .directory) =>
      if (fs.tree.children loc).isEmpty then
        change (.remove (pathOf path))
        return status
      complainAbout "rmdir" about (.errno .notEmpty)
      return 1
    | .ok _ =>
      complainAbout "rmdir" about (.errno .notDirectory)
      return 1
    | .error fault =>
      complainAbout "rmdir" about fault
      return 1) 0

/-- The last component of a path. -/
def lastName (path : String) : String := Shell.ofText (Path.ofText (pathOf path)).name

/-- A path without its last component. -/
def frontOf (path : String) : String :=
  let p := Path.ofText (pathOf path)
  Shell.ofText (Path.text { p with parts := p.parts.dropLast })

/-- The place that a copy goes to: inside a directory it keeps its name. -/
def destination (source target : String) : Work String := do
  match (← files).lookup true (pathOf target) with
  | .ok (_, .directory) => return target ++ "/" ++ lastName source
  | _ => return target

/-- Copies a file. -/
def cp (arguments : List String) : Work Nat := do
  match arguments.filter (!·.startsWith "-") with
  | [source, target] =>
    match (← files).lookup true (pathOf source) with
    | .ok (_, .file content isExecutable) =>
      change (.file (pathOf (← destination source target)) content isExecutable)
      return 0
    | .ok _ =>
      complainAbout "cp" ("-r not specified; omitting directory '" ++ source ++ "'")
        (.errno .isDirectory)
      return 1
    | .error fault =>
      complainAbout "cp" ("cannot stat '" ++ source ++ "'") fault
      return 1
  | _ => return 1

/-- Moves a file. -/
def mv (arguments : List String) : Work Nat := do
  match arguments.filter (!·.startsWith "-") with
  | [source, target] =>
    let place ← destination source target
    match (← files).lookup false (pathOf source) with
    | .ok (_, .file content isExecutable) =>
      change (.remove (pathOf source))
      change (.file (pathOf place) content isExecutable)
      return 0
    | .ok (_, .link linkTarget) =>
      change (.remove (pathOf source))
      change (.link (pathOf place) linkTarget)
      return 0
    | .ok _ => return 1
    | .error fault =>
      complainAbout "mv" ("cannot stat '" ++ source ++ "'") fault
      return 1
  | _ => return 1

/-- Makes a link. -/
def ln (arguments : List String) : Work Nat := do
  match arguments.filter (!·.startsWith "-") with
  | [target, path] =>
    if ((← files).lookup false (pathOf path)).toOption.isSome then
      complainAbout "ln" ("failed to create symbolic link '" ++ path ++ "'") (.errno .alreadyThere)
      return 1
    change (.link (pathOf path) (pathOf target))
    return 0
  | _ => return 1

/-- Makes files executable, or not. -/
def chmod : List String → Work Nat
  | mode :: paths =>
    let makesExecutable := mode.toList.contains 'x' && !mode.startsWith "-" ||
      mode.toList.any fun c => c == '7' || c == '5'
    paths.foldlM (fun (status : Nat) (path : String) => do
      match (← files).lookup true (pathOf path) with
      | .ok (_, .file content _) =>
        change (.file (pathOf path) content makesExecutable)
        return status
      | .ok _ => return status
      | .error fault =>
        complainAbout "chmod" ("cannot access '" ++ path ++ "'") fault
        return 1) 0
  | [] => return 1

/-- Lists directories, one name on a line. -/
def ls (arguments : List String) : Work Nat := do
  let flags := (arguments.filter (·.startsWith "-")).flatMap fun s => s.toList
  let paths := arguments.filter (!·.startsWith "-")
  let paths := if paths.isEmpty then ["."] else paths
  let showsAll := flags.contains 'a' || flags.contains 'A'
  paths.foldlM (fun (status : Nat) (path : String) => do
    let fs ← files
    match fs.lookup true (pathOf path) with
    | .ok (loc, .directory) =>
      let names := sortTexts ((fs.tree.children loc).map fun (name, _) => Shell.ofText name)
      let names := names.filter fun name => showsAll || !name.startsWith "."
      return max status (← put "ls" (ofLines (names.map octets)))
    | .ok _ => return max status (← put "ls" (octets (path ++ "\n")))
    | .error fault =>
      if (fs.lookup false (pathOf path)).toOption.isSome then
        return max status (← put "ls" (octets (path ++ "\n")))
      complainAbout "ls" ("cannot access '" ++ path ++ "'") fault
      return 2) 0

/-- Copies the input to files and to the output. -/
def tee (arguments : List String) : Work Nat := do
  let bytes := (← takeInput).bytes
  (arguments.filter (!·.startsWith "-")).forM fun path => change (.file (pathOf path) bytes false)
  put "tee" bytes

/-- Says where a link leads. -/
def readlink (arguments : List String) : Work Nat := do
  let isWhole := arguments.contains "-f" || arguments.contains "-m" || arguments.contains "-e"
  match (arguments.filter (!·.startsWith "-")).head? with
  | none =>
    writeText 2 "readlink: missing operand\nTry 'readlink --help' for more information.\n"
    return 1
  | some path =>
    if isWhole then put "readlink" (octets (Shell.ofText (← absolute (pathOf path)) ++ "\n"))
    else
      match (← files).lookup false (pathOf path) with
      | .ok (_, .link target) => put "readlink" (octets (Shell.ofText target ++ "\n"))
      | _ => return 1

end ScanLauncher.Shell.Utility
