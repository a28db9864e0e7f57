/-!
A place in a YAML text. The cursor counts characters, lines and columns, because indentation and the
length of simple keys decide what a character means. The end of the text reads as the character NUL,
which no text may hold.
-/
namespace ScanLauncher.Yaml

/-- Why a document cannot be turned into a value. -/
inductive Fault where
  /-- The text is not a document, or has a tag nobody knows. -/
  | malformed
  /-- A number, date or character code is spelt wrongly or out of range. -/
  | badLiteral
  /-- A character code, or a place of a number, is too large to be looked at. -/
  | hugeCode
  /-- A truth value is none of the known words. -/
  | unknownWord
  /-- A number has no characters. -/
  | emptyNumber
  /-- A text marked as a timestamp has no such form. -/
  | notTimestamp
  /-- A collection is marked as a timestamp. -/
  | wrongKind
  /-- The text ends in bytes that are no text. -/
  | notUtf8
  /-- Collections inside collections go too deep. -/
  | tooDeep
deriving DecidableEq, Repr

/-- The words for a malformed document in messages, which do not tell one mistake from another. -/
def malformedText : String := "<yaml error>"

/-- A fault, and the furthest character that had to be looked at to find it. -/
structure Trouble where
  fault : Fault
  index : Nat
deriving DecidableEq, Repr

/-- The result of reading a part of a text. -/
abbrev Reading := Except Trouble

/-- What is left of a text, and where that is. -/
structure Cursor where
  rest : List Char
  index : Nat
  line : Nat
  column : Nat
deriving Repr

/-- The character that stands for the end of the text. -/
def endMark : Char := Char.ofNat 0

/-- A line break. -/
def isBreak (c : Char) : Bool :=
  c == '\n' || c == '\r' || c == '\x85' || c == '\u2028' || c == '\u2029'

/-- A line break or the end. -/
def isBreakOrEnd (c : Char) : Bool := isBreak c || c == endMark

/-- A space, a line break or the end. -/
def isSpaceOrEnd (c : Char) : Bool := c == ' ' || isBreakOrEnd c

/-- A space, a tab, a line break or the end: what may follow an indicator. -/
def isBlankOrEnd (c : Char) : Bool := c == '\t' || isSpaceOrEnd c

/-- A character of an anchor or a tag handle. -/
def isWord (c : Char) : Bool := c.isAlphanum || c == '-' || c == '_'

/-- Whether a text may hold a character. -/
def isAllowed (c : Char) : Bool :=
  let n := c.toNat
  n == 0x09 || n == 0x0A || n == 0x0D || (0x20 ≤ n && n ≤ 0x7E) || n == 0x85 ||
    (0xA0 ≤ n && n ≤ 0xD7FF) || (0xE000 ≤ n && n ≤ 0xFFFD) || 0x10000 ≤ n

namespace Cursor

/-- The start of a text. -/
def start (chars : List Char) : Cursor := ⟨chars, 0, 0, 0⟩

/-- The next character. -/
def peek (c : Cursor) : Char := c.rest.headD endMark

/-- The character after `n` more. -/
def peekAt (c : Cursor) (n : Nat) : Char := (c.rest.drop n).headD endMark

/-- Gives up at the character after `n` more. -/
def failAt {α : Type} (c : Cursor) (n : Nat) (fault : Fault) : Reading α :=
  .error ⟨fault, c.index + n⟩

/-- Gives up at the next character, which makes the text no document. -/
def fail {α : Type} (c : Cursor) : Reading α := c.failAt 0 .malformed

/-- Moves past one character. A byte order mark takes no column. -/
def advance (c : Cursor) : Cursor :=
  match c.rest with
  | [] => c
  | x :: rest =>
    if isBreak x && !(x == '\r' && rest.head? == some '\n') then
      ⟨rest, c.index + 1, c.line + 1, 0⟩
    else if x == '\ufeff' then ⟨rest, c.index + 1, c.line, c.column⟩
    else ⟨rest, c.index + 1, c.line, c.column + 1⟩

/-- Moves past `n` characters. -/
def skip : (n : Nat) → Cursor → Cursor
  | 0, c => c
  | n + 1, c => skip n c.advance

/-- The characters up to the first that fails `p`, and the cursor there. -/
def takeWhile (p : Char → Bool) (c : Cursor) : List Char × Cursor :=
  let run := c.rest.takeWhile p
  (run, c.skip run.length)

/-- Moves past the characters that satisfy `p`. -/
def dropWhile (p : Char → Bool) (c : Cursor) : Cursor := (c.takeWhile p).2

/-- Moves past spaces. -/
def dropSpaces (c : Cursor) : Cursor := c.dropWhile (· == ' ')

/-- Moves past a comment, up to the end of its line. -/
def dropComment (c : Cursor) : Cursor :=
  if c.peek == '#' then c.dropWhile (!isBreakOrEnd ·) else c

/-- Reads a line break, if one is there: the character it stands for, and the cursor after it. The
two separators of paragraphs and lines stand for themselves, all others for a newline. -/
def lineBreak (c : Cursor) : List Char × Cursor :=
  let x := c.peek
  if x == '\r' && c.peekAt 1 == '\n' then (['\n'], c.skip 2)
  else if x == '\n' || x == '\r' || x == '\x85' then (['\n'], c.advance)
  else if x == '\u2028' || x == '\u2029' then ([x], c.advance)
  else ([], c)

/-- Whether `mark` stands here three times, followed by a blank or the end. -/
def atTriple (c : Cursor) (mark : Char) : Bool :=
  c.peek == mark && c.peekAt 1 == mark && c.peekAt 2 == mark && isBlankOrEnd (c.peekAt 3)

/-- Whether a line that separates documents starts here. -/
def atSeparator (c : Cursor) : Bool := c.atTriple '-' || c.atTriple '.'

/-- Moves past the rest of a line that may hold only spaces and a comment. -/
def endOfLine (c : Cursor) : Reading Cursor :=
  let c := c.dropSpaces.dropComment
  if isBreakOrEnd c.peek then .ok c.lineBreak.2 else c.fail

end Cursor

end ScanLauncher.Yaml
