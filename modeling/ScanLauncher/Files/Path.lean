import ScanLauncher.Text.Basic

/-!
Paths as texts. A path is cut at its slashes; empty and dot components mean nothing and are dropped,
double dots stay, because what they mean depends on links.
-/
namespace ScanLauncher

/-- Where a path starts. Exactly two leading slashes are kept apart from one. -/
inductive Anchor where
  | relative
  | root
  | doubleRoot
deriving DecidableEq, Repr

/-- A path: an anchor and components without slashes, none of them empty or a single dot. -/
structure Path where
  anchor : Anchor
  parts : List Text
deriving DecidableEq, Repr

namespace Anchor

/-- The anchor of a text. -/
def ofText (t : Text) : Anchor :=
  if t.startsWith "///" then root
  else if t.startsWith "//" then doubleRoot
  else if t.startsWith "/" then root
  else relative

/-- An anchor as text. -/
def text : Anchor → String
  | relative => ""
  | root => "/"
  | doubleRoot => "//"

end Anchor

namespace Path

/-- The current directory. -/
def here : Path := ⟨.relative, []⟩

/-- The components of a text that count. -/
def components (t : Text) : List Text :=
  (t.splitOn '/').filter fun part => !part.isEmpty && part != "."

/-- The path that a text spells. -/
def ofText (t : Text) : Path := ⟨.ofText t, components t⟩

/-- A path as text; the current directory is a dot. -/
def text (p : Path) : Text :=
  if p.anchor == .relative && p.parts.isEmpty then "."
  else p.anchor.text ++ Text.intercalate "/" p.parts

/-- Whether a path starts at the root. -/
def isAbsolute (p : Path) : Bool := p.anchor != .relative

/-- The path `q` as seen from `p`: an absolute `q` stands for itself. -/
def join (p q : Path) : Path :=
  if q.isAbsolute then q else ⟨p.anchor, p.parts ++ q.parts⟩

instance : Div Path := ⟨join⟩

/-- A text behind another one, with a slash between them where one is missing; a text that starts
with a slash stands for itself. -/
def joinText (base rest : Text) : Text :=
  if rest.startsWith "/" then rest
  else if base.isEmpty || base.endsWith "/" then base ++ rest
  else base ++ "/" ++ rest

/-- The last component; empty if there is none. -/
def name (p : Path) : Text := p.parts.getLast?.getD ""

end Path

end ScanLauncher
