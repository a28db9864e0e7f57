import ScanLauncher.Files.Walk

/-!
The canonical form of a path: absolute, without dots, and with its links replaced by what they lead
to. Missing parts are kept as they are, and so is a part that leads back to itself, together with
the rest of the text behind it.
-/
namespace ScanLauncher

/-- Why a path has no canonical form. -/
inductive ResolveFault where
  /-- The system takes no such path. -/
  | path (fault : PathFault)
  /-- Links lead back to themselves. -/
  | linkLoop
  /-- Links lead to links beyond the depth that can be followed. -/
  | tooDeep
deriving DecidableEq, Repr

namespace FileSystem

/-- Links inside links are followed down to this depth. -/
def linkDepth : Nat := 960

/-- A text cut before its last name; the slashes between the two belong to neither. -/
def splitLast (path : Text) : Text × Text :=
  let size := (path.glyphs.reverse.takeWhile (· != .char '/')).length
  let front := path.glyphs.take (path.length - size)
  let trimmed := (front.reverse.dropWhile (· == .char '/')).reverse
  (⟨if trimmed.isEmpty then front else trimmed⟩, path.drop (path.length - size))

/-- One directory up from a path that was followed so far. A relative path goes on upwards. -/
def above (path : Text) : Text :=
  if path.isEmpty then doubleDot
  else
    let (front, name) := splitLast path
    if name == doubleDot then Path.joinText (Path.joinText front doubleDot) doubleDot else front

/-- A link that was met: what it leads to, or nothing while that is being found out. -/
abbrev Met := List (Text × Option Text)

/-- The state of a resolution that came to an end. -/
structure Resolution where
  path : Text
  met : Met
  /-- Whether it ended at a link that leads back to itself. -/
  isLooping : Bool

/-- The target of the link at a path, if one is there. -/
def linkAt? (fs : FileSystem) (path : Text) : Except ResolveFault (Option Text) :=
  match fs.lookup false path with
  | .ok (_, .link target) => .ok (some target)
  | .error .nul => .error (.path .nul)
  | .error .unencodable => .error (.path .unencodable)
  | _ => .ok none

/-- Follows names from a path. Every link is followed once: its own names come first, one level
deeper, and a link that is met again while it is being followed ends the resolution. -/
def followNames (fs : FileSystem) (depth : Nat) (path : Text) (names : List Text) (met : Met) :
    Except ResolveFault Resolution :=
  match names with
  | [] => .ok ⟨path, met, false⟩
  | name :: rest =>
    if name.isEmpty || name == dot then followNames fs depth path rest met
    else if name == doubleDot then followNames fs depth (above path) rest met
    else
      let next := Path.joinText path name
      match fs.linkAt? next with
      | .error fault => .error fault
      | .ok none => followNames fs depth next rest met
      | .ok (some target) =>
        let remaining := Text.intercalate "/" rest
        match met.lookup next with
        | some (some known) => followNames fs depth known rest met
        | some none => .ok ⟨Path.joinText next remaining, met, true⟩
        | none =>
          match depth with
          | 0 => .error .tooDeep
          | depth + 1 =>
            let first : Text := if target.startsWith "/" then "/" else path
            match followNames fs depth first (target.splitOn '/') ((next, none) :: met) with
            | .error fault => .error fault
            | .ok inner =>
              if inner.isLooping then
                .ok { inner with path := Path.joinText inner.path remaining }
              else followNames fs depth inner.path rest ((next, some inner.path) :: inner.met)
termination_by (depth, names.length)

/-- The place at a location, as a path. -/
def locationText (loc : Location) : Text := "/" ++ Text.intercalate "/" loc

/-- The current directory as an absolute path. -/
def currentPath (fs : FileSystem) : Path := ⟨.root, fs.cwd⟩

/-- A path made absolute, its double dots taken out by their letters alone. -/
def absolute (fs : FileSystem) (path : Text) : Path :=
  let full := fs.currentPath / .ofText path
  { full with
    parts := full.parts.foldl (fun parts name =>
      if name == doubleDot then parts.dropLast else parts ++ [name]) [] }

/-- The canonical form of a path. -/
def resolve (fs : FileSystem) (path : Text) : Except ResolveFault Path := do
  let first : Text := if path.startsWith "/" then "/" else ""
  let resolution ← fs.followNames linkDepth first (path.splitOn '/') []
  let full := fs.absolute resolution.path
  match fs.lookup true full.text with
  | .error (.errno e) => if e == .linkLoop then .error .linkLoop else .ok full
  | .error fault => .error (.path fault)
  | .ok _ => .ok full

end FileSystem

end ScanLauncher
