import ScanLauncher.Http.Parameter

/-!
Forms whose body comes in parts. A boundary line stands before every part and after the last one; a
part has header lines, an empty line and a content. The reader takes a body in pieces and gets as
far as each piece allows.
-/
namespace ScanLauncher.Http.Multipart

/-- Why a body cannot be read. -/
inductive Fault where
  | malformed
  | tooLarge
deriving DecidableEq, Repr

/-- The most bytes that one field may have, and that may wait to be read. -/
def sizeLimit : Nat := 500000

/-- The most parts of a body. -/
def partLimit : Nat := 1000

/-- A body is read in pieces of so many bytes. -/
def pieceSize : Nat := 65536

/-- A part, by its headers. -/
structure Part where
  name : Option (List Char)
  /-- Files are no fields. -/
  isFile : Bool
  charset : Charset
deriving Repr

/-- Where the reader stands. -/
inductive Stage where
  /-- Before the first boundary. -/
  | preamble
  | headers
  /-- In a part's content, of which some was read, the last piece first. At first a line break is
  still to be passed over. -/
  | content (part : Part) (taken : List (List UInt8)) (isFirst : Bool)
  /-- After the last boundary. -/
  | epilogue
deriving Repr

/-- A body that is being read. -/
structure Reader where
  /-- The boundary, with its two dashes. -/
  mark : List UInt8
  stage : Stage := .preamble
  /-- What arrived and was not read yet. -/
  buffer : List UInt8 := []
  /-- How many of these bytes cannot be the start of the first boundary any more. -/
  searched : Nat := 0
  partCount : Nat := 0
  /-- The fields so far, the last one first. -/
  fields : List (String × String) := []

/-- A blank between a boundary and the end of its line. -/
def isLineBlank (b : UInt8) : Bool := b == 0x20 || b == 0x09 || b == 0x0B || b == 0x0C

/-- What follows a line break at the start of some bytes. -/
def afterBreak? : List UInt8 → Option (List UInt8)
  | 0x0D :: 0x0A :: rest => some rest
  | 0x0D :: rest => some rest
  | 0x0A :: rest => some rest
  | _ => none

/-- What follows a boundary at the start of some bytes, and whether it is the last one. The line of
the last boundary need not end. -/
def afterBoundary? (mark bytes : List UInt8) : Option (Bool × List UInt8) :=
  if mark.isPrefixOf bytes then
    let rest := bytes.drop mark.length
    let isLast := [0x2D, 0x2D].isPrefixOf rest
    let rest := (if isLast then rest.drop 2 else rest).dropWhile isLineBlank
    match afterBreak? rest with
    | some after => some (isLast, after)
    | none => if isLast then some (true, rest) else none
  else none

/-- A boundary at the start of some bytes, after a line break, which the first one can go without.
-/
def boundaryAt? (mark : List UInt8) (needsBreak : Bool) (bytes : List UInt8) :
    Option (Bool × List UInt8) :=
  match (afterBreak? bytes).bind (afterBoundary? mark) with
  | some found => some found
  | none => if needsBreak then none else afterBoundary? mark bytes

/-- The bytes before the next boundary, whether it is the last, and the bytes after it. `before`
holds the bytes passed so far, in reverse. -/
def cutAtBoundary? (mark : List UInt8) (needsBreak : Bool) (before : List UInt8) :
    List UInt8 → Option (List UInt8 × Bool × List UInt8)
  | [] => none
  | b :: rest =>
    match boundaryAt? mark needsBreak (b :: rest) with
    | some (isLast, after) => some (before.reverse, isLast, after)
    | none => cutAtBoundary? mark needsBreak (b :: before) rest

/-- The bytes before the first empty line, and the bytes from the line break that makes it empty.
-/
def cutAtEmptyLine? (before : List UInt8) : List UInt8 → Option (List UInt8 × List UInt8)
  | [] => none
  | b :: rest =>
    match b, rest with
    | 0x0D, 0x0A :: 0x0D :: 0x0A :: _ => some (before.reverse, rest.drop 1)
    | 0x0D, 0x0D :: _ => some (before.reverse, rest)
    | 0x0A, 0x0A :: _ => some (before.reverse, rest)
    | _, _ => cutAtEmptyLine? (b :: before) rest

/-- Bytes with a line feed for every line break. -/
def unifyBreaks : List UInt8 → List UInt8
  | 0x0D :: 0x0A :: rest => 0x0A :: unifyBreaks rest
  | b :: rest => (if b == 0x0D then 0x0A else b) :: unifyBreaks rest
  | [] => []

/-- Joins a line that starts with a blank to the line before it. -/
def joinContinued : List (List UInt8) → List (List UInt8)
  | line :: next :: rest =>
    match next with
    | 0x20 :: more | 0x09 :: more => joinContinued ((line ++ 0x20 :: more) :: rest)
    | _ => line :: joinContinued (next :: rest)
  | lines => lines
termination_by lines => lines.length

/-- Whether a header line holds nothing but spaces and tabs. -/
def isEmptyLine (line : List UInt8) : Bool := line.all fun b => b == 0x20 || b == 0x09

/-- A header: its name in lower case ends at the first colon. -/
def headerOf? (line : List UInt8) : Option (List Char × List Char) := do
  let chars ← Utf8.decode? line
  return ((trim (chars.takeWhile (· != ':'))).map Char.toLower,
    trim ((chars.dropWhile (· != ':')).drop 1))

/-- The headers in some bytes, if all of them are text. -/
def headersOf? (bytes : List UInt8) : Option (List (List Char × List Char)) :=
  let lines := joinContinued ((unifyBreaks bytes).splitOn 0x0A)
  (lines.filter (!isEmptyLine ·)).mapM headerOf?

/-- The part that headers describe; one of them must say what it is for. -/
def partOf? (headers : List (List Char × List Char)) : Option Part := do
  let disposition := HeaderValue.ofChars (← headers.lookup "content-disposition".toList)
  let kind := (headers.lookup "content-type".toList).map HeaderValue.ofChars
  return {
    name := disposition.get? "name"
    isFile := (disposition.get? "filename").isSome
    charset := ((kind.bind (·.get? "charset")).bind Charset.ofName?).getD .utf8 }

/-- Where a boundary could still begin that has not arrived as a whole: at the last line feed or at
the last return, whichever comes first. -/
def lastBreak (bytes : List UInt8) : Nat :=
  let position (b : UInt8) : Nat :=
    let after := (bytes.reverse.takeWhile (· != b)).length
    if after == bytes.length then after else bytes.length - 1 - after
  min (position 0x0A) (position 0x0D)

/-- The content that can be read, what stays to be read, and, if the content has ended, whether the
boundary was the last. -/
def takeContent (mark buffer : List UInt8) (isFirst : Bool) :
    List UInt8 × List UInt8 × Option Bool :=
  let start := if isFirst then buffer.length - ((afterBreak? buffer).getD buffer).length else 0
  let held := start + lastBreak (buffer.drop start)
  if Text.occursInList mark buffer then
    match cutAtBoundary? mark true [] buffer with
    | some (before, isLast, rest) => (before.drop start, rest, some isLast)
    | none => ((buffer.take held).drop start, buffer.drop held, none)
  else
    let stop := if buffer.length - held > mark.length + 1 then buffer.length else held
    ((buffer.take stop).drop start, buffer.drop stop, none)

namespace Reader

/-- The stage after a boundary. -/
def afterBoundary (isLast : Bool) : Stage := if isLast then .epilogue else .headers

/-- Keeps a part that was read as a whole. -/
def keep (reader : Reader) (part : Part) (content : List UInt8) : Reader :=
  match part.isFile, part.name with
  | false, some name =>
    let field := (String.ofList name, String.ofList (part.charset.decode content))
    { reader with fields := field :: reader.fields }
  | _, _ => reader

/-- Reads a part's headers. -/
def readHeaders (reader : Reader) (headers rest : List UInt8) : Except Fault Reader :=
  match (headersOf? headers).bind partOf? with
  | none => .error .malformed
  | some part =>
    if reader.partCount ≥ partLimit then .error .tooLarge
    else .ok { reader with
      stage := .content part [] true, buffer := rest, partCount := reader.partCount + 1 }

/-- Reads some content of a part. -/
def readContent (reader : Reader) (part : Part) (taken : List (List UInt8)) (isFirst : Bool) :
    Except Fault (Option Reader) :=
  let (piece, rest, ended) := takeContent reader.mark reader.buffer isFirst
  let taken := piece :: taken
  if !part.isFile && (taken.map List.length).foldr (· + ·) 0 > sizeLimit then .error .tooLarge
  else
    match ended with
    | some isLast =>
      .ok (some { reader.keep part taken.reverse.flatten with
        stage := afterBoundary isLast, buffer := rest })
    | none =>
      if isFirst || !piece.isEmpty then
        .ok (some { reader with stage := .content part taken false, buffer := rest })
      else .ok none

/-- Reads as much as one stage allows; none if more has to arrive. -/
def step (reader : Reader) : Except Fault (Option Reader) :=
  match reader.stage with
  | .preamble =>
    match cutAtBoundary? reader.mark false [] (reader.buffer.drop reader.searched) with
    | some (_, isLast, rest) =>
      .ok (some { reader with stage := afterBoundary isLast, buffer := rest })
    | none => .ok none
  | .headers =>
    match cutAtEmptyLine? [] reader.buffer with
    | some (headers, rest) => (reader.readHeaders headers rest).map some
    | none => .ok none
  | .content part taken isFirst => reader.readContent part taken isFirst
  | .epilogue => .ok none

/-- Reads until more has to arrive, at most `fuel` steps. -/
def advance : (fuel : Nat) → Reader → Except Fault Reader
  | 0, reader => .ok reader
  | fuel + 1, reader => do
    match ← reader.step with
    | some reader => advance fuel reader
    | none => return reader

/-- Takes a piece of the body. Every step but the last takes a byte from the buffer. The first
boundary can begin a little before the piece, which leaves room for a few blanks behind it. -/
def receive (reader : Reader) (piece : List UInt8) : Except Fault Reader :=
  let buffer := reader.buffer ++ piece
  let searched := reader.buffer.length - (reader.mark.length + 6)
  if buffer.length > sizeLimit then .error .tooLarge
  else advance (buffer.length + 1) { reader with buffer, searched }

/-- Takes a body in pieces, at most `fuel` of them. -/
def receiveAll : (fuel : Nat) → Reader → List UInt8 → Except Fault Reader
  | 0, reader, _ => .ok reader
  | fuel + 1, reader, body => do
    if body.isEmpty then return reader
    else receiveAll fuel (← reader.receive (body.take pieceSize)) (body.drop pieceSize)

end Reader

/-- The fields of a body, which must end with a last boundary. -/
def fields (boundary body : List UInt8) : Except Fault (List (String × String)) := do
  let reader : Reader := { mark := 0x2D :: 0x2D :: boundary }
  let reader ← reader.receiveAll (body.length + 1) body
  match reader.stage with
  | .epilogue => return reader.fields.reverse
  | _ => throw .malformed

end ScanLauncher.Http.Multipart
