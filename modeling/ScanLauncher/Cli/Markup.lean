import ScanLauncher.Text.Basic

/-!
Markup in printed lines. A tag stands in brackets and begins with a small letter or one of three
signs; a backslash before it makes it plain text.
-/
namespace ScanLauncher.Cli.Markup

/-- The backslash. -/
def backslash : Glyph := .char '\\'

/-- A character that a tag can begin with. -/
def opensTag (g : Glyph) : Bool :=
  g.isIn fun c => c.isLower || c == '#' || c == '/' || c == '@'

/-- Whether a text begins with a tag: a bracket, a tag's first character, and a closing bracket
before any other opening one. -/
def beginsWithTag : List Glyph → Bool
  | .char '[' :: g :: rest =>
    opensTag g && (rest.find? fun g => g == .char '[' || g == .char ']') == some (.char ']')
  | _ => false

/-- A text with every tag made plain. The `backslashes` that stand right before are doubled where a
tag follows. -/
def escapeTags (backslashes : Nat) : List Glyph → List Glyph
  | [] => []
  | g :: rest =>
    if g == backslash then g :: escapeTags (backslashes + 1) rest
    else if beginsWithTag (g :: rest) then
      List.replicate (backslashes + 1) backslash ++ g :: escapeTags 0 rest
    else g :: escapeTags 0 rest

/-- A text that does not end in a single backslash: one is added to it. -/
def closeBackslash (glyphs : List Glyph) : List Glyph :=
  if (glyphs.reverse.takeWhile (· == backslash)).length == 1 then glyphs ++ [backslash] else glyphs

/-- A text that prints as it is, whatever tags it seems to hold. -/
def escape (t : Text) : Text := ⟨closeBackslash (escapeTags 0 t.glyphs)⟩

/-- What a printed text shows: tags are left out, and a backslash before a tag makes it plain. The
`backslashes` are those that stand right before. -/
def showTags (inTag : Bool) (backslashes : Nat) : List Glyph → List Glyph
  | [] => List.replicate backslashes backslash
  | g :: rest =>
    if inTag then showTags (g != .char ']') 0 rest
    else if g == backslash then showTags false (backslashes + 1) rest
    else if !beginsWithTag (g :: rest) then
      List.replicate backslashes backslash ++ g :: showTags false 0 rest
    else if backslashes % 2 == 1 then
      List.replicate (backslashes / 2) backslash ++ g :: showTags false 0 rest
    else List.replicate (backslashes / 2) backslash ++ showTags true 0 rest

/-- A line of markup without its styles. -/
def plain (t : Text) : Text := ⟨showTags false 0 t.glyphs⟩

/-- A text in a style. -/
def styled (style : String) (text : Text) : Text :=
  "[" ++ style ++ "]" ++ text ++ "[/" ++ style ++ "]"

end ScanLauncher.Cli.Markup
