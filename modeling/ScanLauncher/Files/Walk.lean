import ScanLauncher.Files.Errno
import ScanLauncher.Files.Path
import ScanLauncher.Files.Tree

/-!
From a path to a place. Every component but the last must be a directory, links are followed on the
way, and no more than forty of them; the last component may be missing.
-/
namespace ScanLauncher

/-- The files and the directory from which relative paths start. -/
structure FileSystem where
  tree : Tree
  cwd : Location
deriving Repr

/-- Why a path leads nowhere. -/
inductive PathFault where
  | errno (e : Errno)
  /-- The path holds a NUL, which no path can. -/
  | nul
  /-- The path holds a surrogate that stands for no byte. -/
  | unencodable
deriving DecidableEq, Repr

namespace FileSystem

/-- The most links followed on one way. -/
def linkLimit : Nat := 40

/-- The most bytes of one name. -/
def nameLimit : Nat := 255

/-- A path has fewer bytes than this. -/
def pathLimit : Nat := 4096

/-- A text cut at its slashes. An empty last name, after a slash at the end, stands for the
directory itself, as a dot does. -/
def names (path : Text) : List Text :=
  let parts := path.splitOn '/'
  parts.dropLast.filter (!·.isEmpty) ++ [parts.getLastD ""]

/-- Where a path starts. -/
def start (cwd : Location) (path : Text) : Location := if path.startsWith "/" then [] else cwd

/-- The single dot. -/
def dot : Text := "."

/-- The double dot. -/
def doubleDot : Text := ".."

/-- How many bytes a name or a path has. -/
def byteSize (t : Text) : Nat := (t.toBytes?.getD []).length

/-- Walks along `names` from `here`. A link at the very end is followed only if `follow` says so. -/
def walk (tree : Tree) (follow : Bool) (hops : Nat) (here : Location) (names : List Text) :
    Except Errno Location :=
  match names with
  | [] => .ok here
  | name :: rest =>
    match tree.get? here with
    | none => .error .notFound
    | some .directory =>
      if name.isEmpty || name == dot then walk tree follow hops here rest
      else if name == doubleDot then walk tree follow hops here.dropLast rest
      else if byteSize name > nameLimit then .error .nameTooLong
      else
        match tree.get? (here ++ [name]) with
        | some (.link target) =>
          if rest.isEmpty && !follow then .ok (here ++ [name])
          else
            match hops with
            | 0 => .error .linkLoop
            | hops + 1 =>
              walk tree follow hops (start here target) (FileSystem.names target ++ rest)
        | _ => walk tree follow hops (here ++ [name]) rest
    | some _ => .error .notDirectory
termination_by (hops, names.length)

/-- A path as the system takes it: bytes, none of them NUL, read as text again. Two surrogates may
so become one character. -/
def systemText (path : Text) : Except PathFault Text :=
  match path.toBytes? with
  | none => .error .unencodable
  | some bytes => if bytes.contains 0 then .error .nul else .ok (.ofBytes bytes)

/-- The place that a path leads to, whether something is there or not. -/
def locate (fs : FileSystem) (follow : Bool) (path : Text) : Except PathFault Location := do
  let path ← systemText path
  if path.isEmpty then .error (.errno .notFound)
  else if byteSize path ≥ pathLimit then .error (.errno .nameTooLong)
  else (walk fs.tree follow linkLimit (start fs.cwd path) (names path)).mapError .errno

/-- What a path leads to. -/
def lookup (fs : FileSystem) (follow : Bool) (path : Text) :
    Except PathFault (Location × Entry) := do
  let loc ← fs.locate follow path
  match fs.tree.get? loc with
  | some entry => return (loc, entry)
  | none => .error (.errno .notFound)

/-- Whether there is anything at a path, be it a link that leads nowhere. What cannot be reached is
not there, but a path that no system takes is a fault. -/
def hasEntry? (fs : FileSystem) (path : Text) : Except PathFault Bool :=
  match fs.lookup false path with
  | .ok _ => .ok true
  | .error (.errno _) => .ok false
  | .error fault => .error fault

/-- The error numbers that say that nothing is there. -/
def absenceErrnos : List Errno := [.notFound, .notDirectory, .badDescriptor, .linkLoop]

/-- Asks a question about what a path leads to. Nothing there is a no; any other trouble is an
error. -/
def ask (fs : FileSystem) (follow : Bool) (path : Text) (question : Entry → Bool) :
    Except Errno Bool :=
  match fs.lookup follow path with
  | .ok (_, entry) => .ok (question entry)
  | .error .nul | .error .unencodable => .ok false
  | .error (.errno e) => if absenceErrnos.contains e then .ok false else .error e

/-- Whether a path leads to anything. -/
def exists? (fs : FileSystem) (path : Text) : Except Errno Bool := fs.ask true path fun _ => true

/-- Whether a path leads to a directory. -/
def isDirectory? (fs : FileSystem) (path : Text) : Except Errno Bool :=
  fs.ask true path Entry.isDirectory

/-- Whether a path leads to a regular file. -/
def isFile? (fs : FileSystem) (path : Text) : Except Errno Bool :=
  fs.ask true path Entry.isRegular

/-- Whether a link stands at a path. -/
def isLink? (fs : FileSystem) (path : Text) : Except Errno Bool := fs.ask false path Entry.isLink

/-- The content of the file at a path. A pipe that nobody writes to is empty. -/
def read (fs : FileSystem) (path : Text) : Except PathFault (List UInt8) := do
  match (← fs.lookup true path).2 with
  | .file content _ => return content
  | .directory => .error (.errno .isDirectory)
  | _ => return []

/-- The names and entries of the directory at a path. -/
def list (fs : FileSystem) (path : Text) : Except PathFault (List (Text × Entry)) := do
  match ← fs.lookup true path with
  | (loc, .directory) => return fs.tree.children loc
  | _ => .error (.errno .notDirectory)

end FileSystem

end ScanLauncher
