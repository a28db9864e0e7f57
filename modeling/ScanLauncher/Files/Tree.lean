import ScanLauncher.Text.Basic

/-!
The tree of files, kept flat: every entry stands at the list of names that leads to it from the
root. The root itself is always a directory. A name is the text of its bytes, `Text.ofBytes`.
-/
namespace ScanLauncher

/-- A place in the tree: the names from the root to it. No name is empty, a dot or a double dot. -/
abbrev Location := List Text

/-- What can stand at a place. -/
inductive Entry where
  | directory
  | file (content : List UInt8) (isExecutable : Bool)
  | link (target : Text)
  | fifo
deriving DecidableEq, Repr

namespace Entry

/-- Whether an entry is a directory. -/
def isDirectory : Entry → Bool
  | directory => true
  | _ => false

/-- Whether an entry is a regular file. -/
def isRegular : Entry → Bool
  | file _ _ => true
  | _ => false

/-- Whether an entry is a link. -/
def isLink : Entry → Bool
  | link _ => true
  | _ => false

end Entry

/-- All entries but the root, in no particular order. -/
structure Tree where
  entries : List (Location × Entry)
deriving Repr

namespace Tree

instance : Inhabited Tree := ⟨⟨[]⟩⟩

/-- What stands at a place. -/
def get? (tree : Tree) (loc : Location) : Option Entry :=
  if loc == [] then some .directory else tree.entries.lookup loc

/-- Puts an entry at a place, instead of what is there. -/
def put (tree : Tree) (loc : Location) (entry : Entry) : Tree :=
  ⟨tree.entries.filter (fun e => e.1 != loc) ++ [(loc, entry)]⟩

/-- Takes away what stands at a place, and nothing else. -/
def erase (tree : Tree) (loc : Location) : Tree :=
  ⟨tree.entries.filter fun e => e.1 != loc⟩

/-- Whether a place lies strictly below another one. -/
def isBelow (loc other : Location) : Bool := loc.isPrefixOf other && loc != other

/-- Takes away all that stands below a place. -/
def clear (tree : Tree) (loc : Location) : Tree :=
  ⟨tree.entries.filter fun e => !isBelow loc e.1⟩

/-- The entries directly inside a directory, with their names. -/
def children (tree : Tree) (loc : Location) : List (Text × Entry) :=
  tree.entries.filterMap fun (place, entry) =>
    match place.getLast? with
    | some name => if place.dropLast == loc then some (name, entry) else none
    | none => none

end Tree

end ScanLauncher
