/-!
Text broken into lines. A line ends between two words, or after a hyphen inside one; a word that is
longer than a line is cut where the line ends.
-/
namespace ScanLauncher.Cli.Paragraph

/-- Whether a line may end after a hyphen: two letters stand on either side of it. -/
def isBreak (before after : List Char) : Bool :=
  match before, after with
  | a :: b :: _, c :: d :: _ => a.isAlpha && b.isAlpha && c.isAlpha && d.isAlpha
  | _, _ => false

/-- The pieces of a word that a line may end between. `piece` holds the characters so far, in
reverse. -/
def cutWord (piece : List Char) : List Char → List (List Char)
  | [] => if piece.isEmpty then [] else [piece.reverse]
  | c :: rest =>
    if c == '-' && isBreak piece rest then (c :: piece).reverse :: cutWord [] rest
    else cutWord (c :: piece) rest

/-- The pieces of a text: those of its words, and the blanks between them. -/
def pieces (text : String) : List (List Char) :=
  List.flatten (((text.toList.splitOn ' ').map (cutWord [])).intersperse [[' ']])

/-- Whether a piece shows nothing. -/
def isBlank (piece : List Char) : Bool := piece.all (· == ' ')

/-- The pieces that fit into `room` characters, and those that do not. -/
def takeFitting (room : Nat) : List (List Char) → List (List Char) × List (List Char)
  | [] => ([], [])
  | piece :: rest =>
    if piece.length ≤ room then
      let (line, rest) := takeFitting (room - piece.length) rest
      (piece :: line, rest)
    else ([], piece :: rest)

/-- The pieces of one line and those that stay. A piece that fits on no line fills this one up. -/
def takeLine (width : Nat) (all : List (List Char)) : List (List Char) × List (List Char) :=
  match takeFitting width all with
  | (line, piece :: rest) =>
    if piece.length > width then
      let room := width - line.flatten.length
      (line ++ [piece.take room], piece.drop room :: rest)
    else (line, piece :: rest)
  | (line, []) => (line, [])

/-- A line without a blank at its end. -/
def trimEnd (line : List (List Char)) : List (List Char) :=
  if (line.getLast?.map isBlank).getD false then line.dropLast else line

/-- Pieces in lines, at most `fuel` of them. A line after the first one starts with no blank. -/
def fillPieces (width : Nat) (isFirst : Bool) : (fuel : Nat) → List (List Char) → List String
  | 0, _ => []
  | _, [] => []
  | fuel + 1, piece :: rest =>
    let all := if !isFirst && isBlank piece then rest else piece :: rest
    let (line, rest) := takeLine width all
    let line := trimEnd line
    if line.isEmpty then fillPieces width isFirst fuel rest
    else String.ofList line.flatten :: fillPieces width false fuel rest

/-- A text in lines of at most `width` characters. -/
def fill (width : Nat) (text : String) : List String :=
  fillPieces width true (2 * text.length + 1) (pieces text)

end ScanLauncher.Cli.Paragraph
