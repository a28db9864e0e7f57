import ScanLauncher.Files.Walk

/-!
Changes of the files: entries made and removed, by the program itself or by its children.
-/
namespace ScanLauncher

/-- One change, at a path. -/
inductive Change where
  | file (path : Text) (content : List UInt8) (isExecutable : Bool)
  | directory (path : Text)
  | link (path target : Text)
  | fifo (path : Text)
  | remove (path : Text)
deriving DecidableEq, Repr

namespace FileSystem

/-- Takes a link or a file away; a directory stays. -/
def unlink (fs : FileSystem) (path : Text) : Except PathFault FileSystem := do
  match ← fs.lookup false path with
  | (_, .directory) => .error (.errno .isDirectory)
  | (loc, _) => return { fs with tree := fs.tree.erase loc }

/-- Takes an empty directory away. A path that ends in a dot names no entry to take away, and one
that ends in a double dot names a directory that is not empty. -/
def removeDirectory (fs : FileSystem) (path : Text) : Except PathFault FileSystem := do
  let loc ← fs.locate false path
  match fs.tree.get? loc with
  | none => .error (.errno .notFound)
  | some .directory =>
    if (names path).getLast? == some dot then .error (.errno .invalid)
    else if (names path).getLast? == some doubleDot then .error (.errno .notEmpty)
    else return { fs with tree := fs.tree.erase loc }
  | some _ => .error (.errno .notDirectory)

/-- Takes a directory away, after all that is in it. Links inside are taken away as links. If the
directory itself cannot be taken away it stays behind, empty. -/
def removeTree (fs : FileSystem) (path : Text) : FileSystem × Except PathFault Unit :=
  match fs.lookup false path with
  | .error fault => (fs, .error fault)
  | .ok (loc, .directory) =>
    let cleared : FileSystem := { fs with tree := fs.tree.clear loc }
    match cleared.removeDirectory path with
    | .ok removed => (removed, .ok ())
    | .error fault => (cleared, .error fault)
  | .ok _ => (fs, .error (.errno .notDirectory))

/-- Makes a directory; nothing may be there. -/
def makeDirectory (fs : FileSystem) (path : Text) : Except PathFault FileSystem := do
  let loc ← fs.locate false path
  match fs.tree.get? loc.dropLast with
  | none => .error (.errno .notFound)
  | some .directory =>
    if (fs.tree.get? loc).isSome then .error (.errno .alreadyThere)
    else return { fs with tree := fs.tree.put loc .directory }
  | some _ => .error (.errno .notDirectory)

/-- Makes the directories of a path that are missing, the outermost first. -/
def makeDirectories (fs : FileSystem) (path : Text) : Except PathFault FileSystem :=
  let parts := path.splitOn '/'
  (List.range parts.length).foldlM (fun fs n =>
    let upTo := Text.intercalate "/" (parts.take (n + 1))
    match fs.isDirectory? upTo with
    | .ok true => .ok fs
    | _ => if upTo.isEmpty then .ok fs else fs.makeDirectory upTo) fs

/-- The part of a path before its last slash. -/
def parentOf (path : Text) : Text := Text.intercalate "/" (path.splitOn '/').dropLast

/-- Writes a file, through a link if there is one. -/
def writeFile (fs : FileSystem) (path : Text) (content : List UInt8) (isExecutable : Bool) :
    Except PathFault FileSystem := do
  let loc ← fs.locate true path
  match fs.tree.get? loc with
  | some .directory => .error (.errno .isDirectory)
  | _ => return { fs with tree := fs.tree.put loc (.file content isExecutable) }

/-- Puts a new entry where nothing is. -/
def makeEntry (fs : FileSystem) (path : Text) (entry : Entry) : Except PathFault FileSystem := do
  let loc ← fs.locate false path
  if (fs.tree.get? loc).isSome then .error (.errno .alreadyThere)
  else return { fs with tree := fs.tree.put loc entry }

/-- Makes one change; the directories that lead to a new entry are made with it. -/
def apply (fs : FileSystem) : Change → Except PathFault FileSystem
  | .file path content isExecutable => do
    (← fs.makeDirectories (parentOf path)).writeFile path content isExecutable
  | .directory path => fs.makeDirectories path
  | .link path target => do
    (← fs.makeDirectories (parentOf path)).makeEntry path (.link target)
  | .fifo path => do (← fs.makeDirectories (parentOf path)).makeEntry path .fifo
  | .remove path => do
    match ← fs.lookup false path with
    | (loc, .directory) => return { fs with tree := (fs.tree.clear loc).erase loc }
    | (loc, _) => return { fs with tree := fs.tree.erase loc }

/-- Makes changes in order, up to the first that fails. -/
def applyAll (fs : FileSystem) : List Change → FileSystem × Option PathFault
  | [] => (fs, none)
  | change :: rest =>
    match fs.apply change with
    | .ok fs => fs.applyAll rest
    | .error fault => (fs, some fault)

end FileSystem

end ScanLauncher
