import ScanLauncher.Number.Numeral
import ScanLauncher.Yaml.Cursor
import ScanLauncher.Yaml.Token

/-!
Reading node properties and directives: anchors, aliases, tags and the lines that start with a
percent sign.
-/
namespace ScanLauncher.Yaml

/-- The name of an anchor or alias, after its indicator. -/
def readName (c : Cursor) : Reading (String × Cursor) :=
  let (name, after) := c.advance.takeWhile isWord
  let next := after.peek
  if name.isEmpty || !(isBlankOrEnd next || "?:,]\x7d%@\x60".contains next) then after.fail
  else .ok (String.ofList name, after)

/-- Reads escaped bytes, at least one, and decodes them. -/
def readEscapedBytes : (fuel : Nat) → Cursor → Reading (List UInt8 × Cursor)
  | 0, c => .ok ([], c)
  | fuel + 1, c =>
    if c.peek == '%' then
      match Text.hexValue? (c.peekAt 1), Text.hexValue? (c.peekAt 2) with
      | some high, some low => do
        let (bytes, after) ← readEscapedBytes fuel (c.skip 3)
        return ((16 * high + low).toUInt8 :: bytes, after)
      | none, _ => c.failAt 1 .malformed
      | _, none => c.failAt 2 .malformed
    else .ok ([], c)

/-- A character of a tag that needs no escape. -/
def isTagChar (c : Char) : Bool := c.isAlphanum || "-;/?:@&=+$,_.!~*'()[]".contains c

/-- Reads the characters of a tag, with escaped bytes decoded. -/
def readTagChars : (fuel : Nat) → Cursor → Reading (List Char × Cursor)
  | 0, c => .ok ([], c)
  | fuel + 1, c =>
    if c.peek == '%' then do
      let (bytes, after) ← readEscapedBytes c.rest.length c
      match Utf8.decode? bytes with
      | some chars =>
        let (more, last) ← readTagChars fuel after
        return (chars ++ more, last)
      | none => after.fail
    else if c.peek != endMark && isTagChar c.peek then do
      let (run, after) := c.takeWhile isTagChar
      let (more, last) ← readTagChars fuel after
      return (run ++ more, last)
    else .ok ([], c)

/-- Reads a tag or a tag expansion; it is not empty. -/
def readTagUri (c : Cursor) : Reading (String × Cursor) := do
  let (chars, after) ← readTagChars (c.rest.length + 1) c
  if after.index == c.index then after.fail else return (String.ofList chars, after)

/-- Reads a tag handle: `!`, `!!` or a name between two of them. -/
def readHandle (c : Cursor) : Reading (String × Cursor) :=
  if c.peek != '!' then c.fail
  else if c.peekAt 1 == ' ' then .ok ("!", c.advance)
  else
    let (name, after) := c.advance.takeWhile isWord
    if after.peek == '!' then
      .ok ("!" ++ String.ofList name ++ "!", after.advance)
    else after.fail

/-- Reads a tag: in angle brackets, alone, or with a handle. -/
def readTag (c : Cursor) : Reading (Token × Cursor) := do
  let (tag, after) ←
    if c.peekAt 1 == '<' then do
      let (suffix, after) ← readTagUri (c.skip 2)
      if after.peek == '>' then pure (Token.tag none suffix, after.advance) else after.fail
    else if isBlankOrEnd (c.peekAt 1) then pure (Token.tag none "!", c.advance)
    else do
      let word := c.advance.rest.takeWhile (!isSpaceOrEnd ·)
      let (handle, start) ← if word.contains '!' then readHandle c else pure ("!", c.advance)
      let (suffix, after) ← readTagUri start
      pure (Token.tag (some handle) suffix, after)
  if isSpaceOrEnd after.peek then return (tag, after) else after.fail

/-- Reads a number of a version, of no more digits than a numeral has. -/
def readVersionNumber (c : Cursor) : Reading (Nat × Cursor) :=
  let (digits, after) := c.takeWhile Char.isDigit
  if digits.isEmpty then after.fail
  else if digits.length > Numeral.digitLimit then after.failAt 0 .badLiteral
  else .ok (digits.foldl (fun n d => 10 * n + (d.toNat - 48)) 0, after)

/-- Reads a directive, from its percent sign to the end of its line. -/
def readDirective (c : Cursor) : Reading (Token × Cursor) := do
  let (name, after) := c.advance.takeWhile isWord
  if name.isEmpty || !isSpaceOrEnd after.peek then after.fail
  else
    let (directive, after) ←
      match String.ofList name with
      | "YAML" => do
        let (major, point) ← readVersionNumber after.dropSpaces
        if point.peek != '.' then point.fail
        let (minor, after) ← readVersionNumber point.advance
        if isSpaceOrEnd after.peek then pure (Directive.version major minor, after)
        else after.fail
      | "TAG" => do
        let (handle, after) ← readHandle after.dropSpaces
        if after.peek != ' ' then after.fail
        let (expansion, after) ← readTagUri after.dropSpaces
        if isSpaceOrEnd after.peek then pure (Directive.tagHandle handle expansion, after)
        else after.fail
      | _ => pure (Directive.other, after.dropWhile (!isBreakOrEnd ·))
    return (.directive directive, ← after.endOfLine)

end ScanLauncher.Yaml
