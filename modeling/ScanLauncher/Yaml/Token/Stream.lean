import ScanLauncher.Yaml.Source
import ScanLauncher.Yaml.Token.Property
import ScanLauncher.Yaml.Token.Scalar

/-!
The token stream of a text. A scalar, a flow collection, a tag, an anchor or an alias may turn out
to be a key when a colon follows it on the same line; until then it is a pending key, and the tokens
that mark it are put in front of it afterwards. A token can be handed over only when it is no
pending key, so the faults of a text come after the tokens that do not wait for more.
-/
namespace ScanLauncher.Yaml

/-- The longest a key may be, in characters. -/
def keyLimit : Nat := 1024

/-- A token that may be a key: its number in the stream and its place. It is required to be one if
it starts a line of the block it stands in. -/
structure PendingKey where
  level : Nat
  token : Nat
  required : Bool
  index : Nat
  line : Nat
  column : Nat
deriving Repr

/-- What has been read so far. `indent` is the column of the innermost block, `outer` those of the
blocks around it, and `flow` counts the open brackets. -/
structure Scan where
  cursor : Cursor
  tokens : Array Token
  flow : Nat
  indent : Option Nat
  outer : List (Option Nat)
  keyAllowed : Bool
  pending : List PendingKey

namespace Scan

/-- The start of a stream. -/
def start (chars : List Char) : Scan := ⟨.start chars, #[], 0, none, [], true, []⟩

/-- Appends a token. -/
def emit (s : Scan) (t : Token) : Scan := { s with tokens := s.tokens.push t }

/-- Whether brackets are open. -/
def inFlow (s : Scan) : Bool := s.flow != 0

/-- Drops the pending keys that no longer can be keys, because their line has ended or they are too
long; a required one must not be among them. -/
def dropStale (s : Scan) : Reading Scan :=
  let isStale (key : PendingKey) : Bool :=
    key.line != s.cursor.line || s.cursor.index - key.index > keyLimit
  if s.pending.any fun key => isStale key && key.required then s.cursor.fail
  else .ok { s with pending := s.pending.filter (!isStale ·) }

/-- Drops the pending key of the current level; it must not be required. -/
def dropPending (s : Scan) : Reading Scan :=
  if s.pending.any fun key => key.level == s.flow && key.required then s.cursor.fail
  else .ok { s with pending := s.pending.filter (·.level != s.flow) }

/-- Notes that the token that comes next may be a key. -/
def notePending (s : Scan) : Reading Scan :=
  if s.keyAllowed then do
    let s ← s.dropPending
    let key : PendingKey :=
      { level := s.flow
        token := s.tokens.size
        required := !s.inFlow && s.indent == some s.cursor.column
        index := s.cursor.index
        line := s.cursor.line
        column := s.cursor.column }
    return { s with pending := key :: s.pending }
  else .ok s

/-- Whether a block at `indent` is deeper than a column. -/
def deeper (indent : Option Nat) (column : Option Nat) : Bool :=
  match indent, column with
  | some i, some c => i > c
  | some _, none => true
  | none, _ => false

/-- Closes the blocks that are deeper than a column. -/
def closeBlocks (column : Option Nat) : (outer : List (Option Nat)) → Scan → Scan
  | [], s => s
  | next :: outer, s =>
    if deeper s.indent column then
      closeBlocks column outer { s.emit .blockEnd with indent := next, outer }
    else s

/-- Closes the blocks that are deeper than a column, unless brackets are open. -/
def unwind (s : Scan) (column : Option Nat) : Scan :=
  if s.inFlow then s else closeBlocks column s.outer s

/-- Whether a column is deeper than the innermost block. -/
def opensBlock (s : Scan) (column : Nat) : Bool := deeper (some column) s.indent

/-- Makes a column the innermost block. -/
def pushIndent (s : Scan) (column : Nat) : Scan :=
  { s with outer := s.indent :: s.outer, indent := some column }

/-- Opens a block at the cursor, if the cursor is deeper than the innermost one. -/
def openBlock (s : Scan) (t : Token) : Scan :=
  let column := s.cursor.column
  if s.opensBlock column then (s.emit t).pushIndent column else s

/-- Moves past `n` characters and appends a token. -/
def take (s : Scan) (n : Nat) (t : Token) : Scan :=
  { s.emit t with cursor := s.cursor.skip n }

/-- Moves past spaces, comments and line breaks. -/
def dropBlank : (fuel : Nat) → Scan → Scan
  | 0, s => s
  | fuel + 1, s =>
    let c := s.cursor.dropSpaces.dropComment
    if isBreak c.peek then
      dropBlank fuel { s with cursor := c.lineBreak.2, keyAllowed := s.keyAllowed || !s.inFlow }
    else { s with cursor := c }

/-- Ends the stream. -/
def readEnd (s : Scan) : Reading Scan := do
  let s ← (s.unwind none).dropPending
  return s.emit .streamEnd

/-- Reads a directive. -/
def readDirectiveLine (s : Scan) : Reading Scan := do
  let s ← (s.unwind none).dropPending
  let (t, c) ← readDirective s.cursor
  return { s.emit t with cursor := c, keyAllowed := false }

/-- Reads a line that starts or ends a document. -/
def readSeparator (s : Scan) (t : Token) : Reading Scan := do
  let s ← (s.unwind none).dropPending
  return { s.take 3 t with keyAllowed := false }

/-- Reads an opening bracket. -/
def readOpen (s : Scan) (t : Token) : Reading Scan := do
  let s ← s.notePending
  return { s.take 1 t with flow := s.flow + 1, keyAllowed := true }

/-- Reads a closing bracket; one must be open. -/
def readClose (s : Scan) (t : Token) : Reading Scan := do
  let s ← s.dropPending
  if s.inFlow then return { s.take 1 t with flow := s.flow - 1, keyAllowed := false }
  else s.cursor.fail

/-- Reads a comma. -/
def readComma (s : Scan) : Reading Scan := do
  let s ← s.dropPending
  return { s.take 1 .flowEntry with keyAllowed := true }

/-- Reads the dash of a sequence entry. -/
def readDash (s : Scan) : Reading Scan := do
  if !s.inFlow && !s.keyAllowed then s.cursor.fail
  let s := if s.inFlow then s else s.openBlock .blockSequenceStart
  let s ← s.dropPending
  return { s.take 1 .blockEntry with keyAllowed := true }

/-- Reads the question mark of an explicit key. -/
def readQuestion (s : Scan) : Reading Scan := do
  if !s.inFlow && !s.keyAllowed then s.cursor.fail
  let s := if s.inFlow then s else s.openBlock .blockMappingStart
  let s ← s.dropPending
  return { s.take 1 .key with keyAllowed := !s.inFlow }

/-- Puts tokens in front of token `n`. -/
def insertTokens (s : Scan) (n : Nat) (ts : List Token) : Scan :=
  { s with tokens := s.tokens.extract 0 n ++ ts.toArray ++ s.tokens.extract n s.tokens.size }

/-- Reads the colon of a value: the pending key of this level is one, or an explicit key came
before. -/
def readColon (s : Scan) : Reading Scan := do
  match s.pending.find? (·.level == s.flow) with
  | some key =>
    let opens := !s.inFlow && s.opensBlock key.column
    let marks := if opens then [Token.blockMappingStart, .key] else [.key]
    let s := s.insertTokens key.token marks
    let s := if opens then s.pushIndent key.column else s
    return { s.take 1 .value with
      pending := s.pending.filter (·.level != s.flow), keyAllowed := false }
  | none =>
    if !s.inFlow && !s.keyAllowed then s.cursor.fail
    let s := if s.inFlow then s else s.openBlock .blockMappingStart
    let s ← s.dropPending
    return { s.take 1 .value with keyAllowed := !s.inFlow }

/-- Reads a token that may be a key. -/
def readKeyable (s : Scan) (read : Cursor → Reading (Token × Cursor)) : Reading Scan := do
  let s ← s.notePending
  let (t, c) ← read s.cursor
  return { s.emit t with cursor := c, keyAllowed := false }

/-- Reads a block scalar. -/
def readBlock (s : Scan) (folded : Bool) : Reading Scan := do
  let s ← s.dropPending
  let (text, c) ← readBlockScalar folded s.indent s.cursor
  return { s.emit (.scalar text false) with cursor := c, keyAllowed := true }

/-- Reads a plain scalar. -/
def readPlainScalar (s : Scan) : Reading Scan := do
  let s ← s.notePending
  let indent := match s.indent with | some column => column + 1 | none => 0
  let (text, c, lineStart) := readPlain s.inFlow indent (s.cursor.rest.length + 1) s.cursor [] false
  return { s.emit (.scalar (.ofChars text) true) with cursor := c, keyAllowed := lineStart }

/-- Whether a plain scalar starts with `x`, followed by `next`. -/
def startsPlain (inFlow : Bool) (x next : Char) : Bool :=
  !(isBlankOrEnd x || "-?:,[]\x7b\x7d#&*!|>'\"%@\x60".contains x) ||
    (!isBlankOrEnd next && (x == '-' || (!inFlow && (x == '?' || x == ':'))))

/-- Reads the token at the cursor. -/
def readToken (s : Scan) : Reading Scan :=
  let c := s.cursor
  let x := c.peek
  let next := c.peekAt 1
  let atStart := c.column == 0
  if x == '%' && atStart then s.readDirectiveLine
  else if atStart && c.atTriple '-' then s.readSeparator .documentStart
  else if atStart && c.atTriple '.' then s.readSeparator .documentEnd
  else if x == '[' then s.readOpen .flowSequenceStart
  else if x == '\x7b' then s.readOpen .flowMappingStart
  else if x == ']' then s.readClose .flowSequenceEnd
  else if x == '\x7d' then s.readClose .flowMappingEnd
  else if x == ',' then s.readComma
  else if x == '-' && isBlankOrEnd next then s.readDash
  else if x == '?' && (s.inFlow || isBlankOrEnd next) then s.readQuestion
  else if x == ':' && (s.inFlow || isBlankOrEnd next) then s.readColon
  else if x == '*' then s.readKeyable fun c => do
    let (name, c) ← readName c
    return (.alias name, c)
  else if x == '&' then s.readKeyable fun c => do
    let (name, c) ← readName c
    return (.anchor name, c)
  else if x == '!' then s.readKeyable readTag
  else if x == '|' && !s.inFlow then s.readBlock false
  else if x == '>' && !s.inFlow then s.readBlock true
  else if x == '\x27' then s.readKeyable fun c => do
    let (text, c) ← readQuotedScalar false c
    return (.scalar text false, c)
  else if x == '"' then s.readKeyable fun c => do
    let (text, c) ← readQuotedScalar true c
    return (.scalar text false, c)
  else if startsPlain s.inFlow x next then s.readPlainScalar
  else c.fail

/-- Whether the stream has ended. -/
def isDone (s : Scan) : Bool := s.tokens.back? == some .streamEnd

/-- How many tokens can be handed over: those before the first pending key. -/
def settled (s : Scan) : Nat := (s.pending.map PendingKey.token).foldl min s.tokens.size

/-- The furthest character that is looked at before it is known what starts at the cursor: a line of
dashes or dots may part two documents. -/
def firstLook (c : Cursor) : Nat :=
  if c.column == 0 && (c.peek == '-' || c.peek == '.') then c.index + 2 else c.index

/-- Refuses to look at a place behind the wall. -/
def before (wall : Option Wall) (index : Nat) : Except Fault Unit :=
  match wall with
  | some w => if w.index ≤ index then .error w.fault else .ok ()
  | none => .ok ()

/-- The result of reading, unless the wall was met. -/
def guarded {α : Type} (wall : Option Wall) : Reading α → Except Fault α
  | .ok a => .ok a
  | .error trouble => do
    before wall trouble.index
    .error trouble.fault

/-- Reads on until there is a new token, or the stream has ended. -/
def fetch (wall : Option Wall) (s : Scan) : Except Fault Scan := do
  let s := dropBlank (s.cursor.rest.length + 1) s
  before wall (firstLook s.cursor)
  let s ← guarded wall s.dropStale
  let s := s.unwind (some s.cursor.column)
  if s.cursor.rest.isEmpty then guarded wall s.readEnd
  else
    let s ← guarded wall s.readToken
    before wall s.cursor.index
    guarded wall s.dropStale

/-- Reads tokens up to the end of the text or the first fault. -/
def readAll (wall : Option Wall) : (fuel : Nat) → Scan → Array Token × Option Fault
  | 0, s => (s.tokens, some .malformed)
  | fuel + 1, s =>
    match fetch wall s with
    | .error fault => (s.tokens.extract 0 s.settled, some fault)
    | .ok s => if s.isDone then (s.tokens, none) else readAll wall fuel s

end Scan

/-- The tokens that can be handed over, and the fault that is met by whoever asks for more. -/
structure TokenStream where
  tokens : Array Token
  fault : Option Fault
deriving Repr

/-- The tokens of a text. A byte order mark at its start is passed over. -/
def TokenStream.ofSource (source : Source) : TokenStream :=
  let s := Scan.start source.chars
  let s := if source.chars.head? == some '\ufeff' then { s with cursor := s.cursor.advance } else s
  let (tokens, fault) :=
    match Scan.before source.wall 0 with
    | .error fault => (#[], some fault)
    | .ok () => s.readAll source.wall (source.chars.length + 2)
  { tokens, fault }

end ScanLauncher.Yaml
