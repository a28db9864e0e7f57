import ScanLauncher.Text.Basic
import ScanLauncher.Text.Digit
import ScanLauncher.Yaml.Cursor

/-!
Reading scalars: block scalars, quoted scalars and plain ones. A line break between two words is a
space, and empty lines are kept; only block scalars in literal style keep every break.
-/
namespace ScanLauncher.Yaml

/-- What happens to the line breaks at the end of a block scalar. -/
inductive Chomping where
  | clip
  | strip
  | keep
deriving DecidableEq, Repr

/-- Reads the chomping mark at the head of a block scalar, if there is one. -/
def readChomping (c : Cursor) : Option Chomping × Cursor :=
  if c.peek == '+' then (some .keep, c.advance)
  else if c.peek == '-' then (some .strip, c.advance)
  else (none, c)

/-- Reads the indentation mark at the head of a block scalar, if there is one; it is not zero. -/
def readIncrement (c : Cursor) : Reading (Option Nat × Cursor) :=
  if c.peek.isDigit then
    if c.peek == '0' then c.fail else .ok (some (c.peek.toNat - 48), c.advance)
  else .ok (none, c)

/-- Reads the head of a block scalar: chomping and indentation marks in either order. -/
def readBlockHead (c : Cursor) : Reading (Chomping × Option Nat × Cursor) := do
  let (chomping, c) := readChomping c
  let (increment, c) ← readIncrement c
  let (chomping, c) :=
    if chomping.isNone && increment.isSome then readChomping c else (chomping, c)
  if isSpaceOrEnd c.peek then return (chomping.getD .clip, increment, ← c.endOfLine)
  else c.fail

/-- Reads the empty lines before a block scalar's first text, and how far they are indented. -/
def readLeadingLines : (fuel : Nat) → Cursor → (deepest : Nat) → List Char × Nat × Cursor
  | 0, c, deepest => ([], deepest, c)
  | fuel + 1, c, deepest =>
    if c.peek == ' ' then
      readLeadingLines fuel c.advance (max deepest c.advance.column)
    else if isBreak c.peek then
      let (mark, after) := c.lineBreak
      let (breaks, deepest, last) := readLeadingLines fuel after deepest
      (mark ++ breaks, deepest, last)
    else ([], deepest, c)

/-- Moves past spaces, up to a column. -/
def dropIndent : (fuel : Nat) → Cursor → (column : Nat) → Cursor
  | 0, c, _ => c
  | fuel + 1, c, column =>
    if c.column < column && c.peek == ' ' then dropIndent fuel c.advance column else c

/-- Reads the empty lines inside a block scalar of a given indentation. -/
def readEmptyLines : (fuel : Nat) → Cursor → (indent : Nat) → List Char × Cursor
  | 0, c, _ => ([], c)
  | fuel + 1, c, indent =>
    let c := dropIndent indent c indent
    if isBreak c.peek then
      let (mark, after) := c.lineBreak
      let (breaks, last) := readEmptyLines fuel after indent
      (mark ++ breaks, last)
    else ([], c)

/-- Reads the lines of a block scalar, after the empty lines `breaks`: the text, the break that
ended its last line, the empty lines after it, and the cursor there. -/
def readBlockLines (folded : Bool) (indent : Nat) :
    (fuel : Nat) → Cursor → (breaks : List Char) → List Char × List Char × List Char × Cursor
  | 0, c, breaks => ([], [], breaks, c)
  | fuel + 1, c, breaks =>
    if c.column == indent && c.peek != endMark then
      let indented := c.peek == ' ' || c.peek == '\t'
      let (line, c) := c.takeWhile (!isBreakOrEnd ·)
      let (mark, c) := c.lineBreak
      let (empty, c) := readEmptyLines (c.rest.length + 1) c indent
      if c.column == indent && c.peek != endMark then
        let joint :=
          if folded && mark == ['\n'] && !indented && !(c.peek == ' ' || c.peek == '\t') then
            (if empty.isEmpty then [' '] else [])
          else mark
        let (text, last, tail, c) := readBlockLines folded indent fuel c empty
        (breaks ++ line ++ joint ++ text, last, tail, c)
      else (breaks ++ line, mark, empty, c)
    else ([], [], breaks, c)

/-- Reads a block scalar inside a block whose entries stand at column `parent` (or outside any
block). -/
def readBlockScalar (folded : Bool) (parent : Option Nat) (c : Cursor) :
    Reading (Text × Cursor) := do
  let (chomping, increment, c) ← readBlockHead c.advance
  let least := max 1 (match parent with | some column => column + 1 | none => 0)
  let (breaks, indent, c) :=
    match increment with
    | none =>
      let (breaks, deepest, c) := readLeadingLines (c.rest.length + 1) c 0
      (breaks, max least deepest, c)
    | some increment =>
      let indent := least + increment - 1
      let (breaks, c) := readEmptyLines (c.rest.length + 1) c indent
      (breaks, indent, c)
  let (text, last, tail, c) := readBlockLines folded indent (c.rest.length + 1) c breaks
  let ending :=
    match chomping with
    | .strip => []
    | .clip => last
    | .keep => last ++ tail
  return (.ofChars (text ++ ending), c)

/-- The character that a one-letter escape stands for. -/
def escape? (c : Char) : Option Char :=
  match c with
  | '0' => some (Char.ofNat 0)
  | 'a' => some '\x07'
  | 'b' => some '\x08'
  | 't' => some '\t'
  | '\t' => some '\t'
  | 'n' => some '\n'
  | 'v' => some '\x0b'
  | 'f' => some '\x0c'
  | 'r' => some '\r'
  | 'e' => some '\x1b'
  | ' ' => some ' '
  | '"' => some '"'
  | '\\' => some '\\'
  | '/' => some '/'
  | 'N' => some '\x85'
  | '_' => some '\xa0'
  | 'L' => some '\u2028'
  | 'P' => some '\u2029'
  | _ => none

/-- How many hexadecimal digits follow an escape of a character code. -/
def codeLength? (c : Char) : Option Nat :=
  match c with
  | 'x' => some 2
  | 'u' => some 4
  | 'U' => some 8
  | _ => none

/-- The glyph of a code. -/
def glyphOfCode (code : Nat) : Except Fault Glyph :=
  if code > 0x7FFFFFFF then .error .hugeCode
  else if code > 0x10FFFF then .error .badLiteral
  else .ok (.ofCode code)

/-- Reads the empty lines after a break inside quotes; a document must not end there. -/
def readQuotedBreaks : (fuel : Nat) → Cursor → Reading (List Char × Cursor)
  | 0, c => .ok ([], c)
  | fuel + 1, c =>
    if c.atSeparator then c.failAt 3 .malformed
    else
      let c := c.dropWhile fun x => x == ' ' || x == '\t'
      if isBreak c.peek then do
        let (mark, after) := c.lineBreak
        let (breaks, last) ← readQuotedBreaks fuel after
        return (mark ++ breaks, last)
      else .ok ([], c)

/-- How a break between two words reads, given the empty lines after it. -/
def foldBreak (mark breaks : List Char) : List Char :=
  (if mark != ['\n'] then mark else if breaks.isEmpty then [' '] else []) ++ breaks

/-- Reads an escape inside double quotes, after its backslash. -/
def readEscape (c : Cursor) : Reading (List Glyph × Cursor) :=
  match escape? c.peek, codeLength? c.peek with
  | some x, _ => .ok ([.char x], c.advance)
  | none, some length =>
    let run := (c.advance.rest.take length).takeWhile fun x => (Text.hexValue? x).isSome
    if run.length < length then c.advance.failAt run.length .malformed
    else
      match glyphOfCode ((run.filterMap Text.hexValue?).foldl (fun n d => 16 * n + d) 0) with
      | .ok g => .ok ([g], c.advance.skip length)
      | .error fault => c.failAt length fault
  | none, none =>
    if isBreak c.peek then do
      let (breaks, after) ← readQuotedBreaks (c.rest.length + 1) c.lineBreak.2
      return (breaks.map .char, after)
    else c.fail

/-- Reads a quoted scalar up to its closing mark. -/
def readQuoted (double : Bool) : (fuel : Nat) → Cursor → Reading (List Glyph × Cursor)
  | 0, c => c.fail
  | fuel + 1, c =>
    let x := c.peek
    let single := '\x27'
    if x == endMark then c.fail
    else if double && x == '"' then .ok ([], c.advance)
    else if !double && x == single then
      if c.peekAt 1 == single then do
        let (text, last) ← readQuoted double fuel (c.skip 2)
        return (.char single :: text, last)
      else .ok ([], c.advance)
    else if double && x == '\\' then do
      let (glyphs, after) ← readEscape c.advance
      let (text, last) ← readQuoted double fuel after
      return (glyphs ++ text, last)
    else if x == ' ' || x == '\t' || isBreak x then do
      let (blanks, c) := c.takeWhile fun x => x == ' ' || x == '\t'
      let (chars, after) ←
        if isBreak c.peek then do
          let (mark, after) := c.lineBreak
          let (breaks, after) ← readQuotedBreaks (after.rest.length + 1) after
          pure (foldBreak mark breaks, after)
        else pure (blanks, c)
      let (text, last) ← readQuoted double fuel after
      return (chars.map .char ++ text, last)
    else do
      let (text, last) ← readQuoted double fuel c.advance
      return (.char x :: text, last)

/-- Reads a quoted scalar from its opening mark. -/
def readQuotedScalar (double : Bool) (c : Cursor) : Reading (Text × Cursor) := do
  let (glyphs, after) ← readQuoted double (c.rest.length + 1) c.advance
  return (⟨glyphs⟩, after)

/-- Whether a plain scalar stops at a character, followed by `next`. -/
def endsPlain (inFlow : Bool) (x next : Char) : Bool :=
  isBlankOrEnd x ||
    (x == ':' && (isBlankOrEnd next || (inFlow && ",[]\x7b\x7d".contains next))) ||
    (inFlow && ",?[]\x7b\x7d".contains x)

/-- The run of characters of a plain scalar. -/
def plainRun (inFlow : Bool) : List Char → List Char
  | [] => []
  | x :: rest => if endsPlain inFlow x (rest.headD endMark) then [] else x :: plainRun inFlow rest

/-- Reads the empty lines inside a plain scalar; none if a document ends there. -/
def readPlainBreaks : (fuel : Nat) → Cursor → Option (List Char) × Cursor
  | 0, c => (some [], c)
  | fuel + 1, c =>
    if c.peek == ' ' then readPlainBreaks fuel c.advance
    else if isBreak c.peek then
      let (mark, after) := c.lineBreak
      if after.atSeparator then (none, after)
      else
        let (breaks, last) := readPlainBreaks fuel after
        (breaks.map (mark ++ ·), last)
    else (some [], c)

/-- Reads the space between two words of a plain scalar: how it reads, the cursor after it, and
whether a line ended. No space is read if a document ends there. -/
def readPlainSpace (c : Cursor) : List Char × Cursor × Bool :=
  let (blanks, c) := c.takeWhile (· == ' ')
  if isBreak c.peek then
    let (mark, after) := c.lineBreak
    if after.atSeparator then ([], after, true)
    else
      match readPlainBreaks (after.rest.length + 1) after with
      | (some breaks, last) => (foldBreak mark breaks, last, true)
      | (none, last) => ([], last, true)
  else (blanks, c, false)

/-- Reads a plain scalar inside a block at column `indent - 1`: its text, the cursor after it, and
whether it stopped at the start of a line. -/
def readPlain (inFlow : Bool) (indent : Nat) :
    (fuel : Nat) → Cursor → (space : List Char) → (lineStart : Bool) → List Char × Cursor × Bool
  | 0, c, _, lineStart => ([], c, lineStart)
  | fuel + 1, c, space, lineStart =>
    if c.peek == '#' then ([], c, lineStart)
    else
      let run := plainRun inFlow c.rest
      if run.isEmpty then ([], c, lineStart)
      else
        let (next, c, broke) := readPlainSpace (c.skip run.length)
        if next.isEmpty || c.peek == '#' || (!inFlow && c.column < indent) then
          (space ++ run, c, broke)
        else
          let (text, c, broke) := readPlain inFlow indent fuel c next broke
          (space ++ run ++ text, c, broke)

end ScanLauncher.Yaml
