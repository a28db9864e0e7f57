import ScanLauncher.Text.Utf8
import ScanLauncher.Yaml.Cursor

/-!
A text as the reader of tokens gets it. A text that is at hand is looked through at once; one that
is read from a file comes in blocks, and what is wrong with a block is noticed only when that block
is needed. The place where the block starts is then a wall: nothing behind it can be looked at.
-/
namespace ScanLauncher.Yaml

/-- The place from which on a text cannot be had, and why. -/
structure Wall where
  index : Nat
  fault : Fault
deriving DecidableEq, Repr

/-- A text, up to its wall if it has one. -/
structure Source where
  chars : List Char
  wall : Option Wall := none
deriving DecidableEq, Repr

/-- Line ends of any kind as line feeds. -/
def unifyLines : List Char → List Char
  | [] => []
  | '\r' :: '\n' :: rest => '\n' :: unifyLines rest
  | '\r' :: rest => '\n' :: unifyLines rest
  | c :: rest => c :: unifyLines rest

namespace Source

/-- A text that is at hand; a character that no document may hold is noticed at once. -/
def ofChars (chars : List Char) : Source :=
  { chars, wall := if chars.all isAllowed then none else some ⟨0, .malformed⟩ }

/-- The characters at the start of some bytes, and the bytes from the first broken character on. -/
def decodeStart : List UInt8 → List Char × List UInt8
  | [] => ([], [])
  | lead :: rest =>
    match Utf8.head? lead rest with
    | some (c, n) =>
      let (chars, broken) := decodeStart (rest.drop n)
      (c :: chars, broken)
    | none => ([], lead :: rest)
termination_by bytes => bytes.length
decreasing_by all_goals simp only [List.length_drop, List.length_cons]; omega

/-- How many characters a file has handed over after some bytes. A carriage return at their end
waits for what follows it. -/
def charsAfter (bytes : List UInt8) : Nat :=
  let chars := (decodeStart bytes).1
  (unifyLines (if chars.getLast? == some '\r' then chars.dropLast else chars)).length

/-- How many characters of a block come together. -/
def blockSize : Nat := 4096

/-- The fewest bytes that are asked of a file at once. -/
def chunkSize : Nat := 8192

/-- How many bytes of a broken character can be seen before it is known to be broken. -/
def patience (broken : List UInt8) : Nat :=
  match broken with
  | [] => 0
  | lead :: rest => if 0xC2 ≤ lead && lead ≤ 0xF4 then 1 + Utf8.brokenTail lead rest else 0

/-- The number of the block during whose reading the byte at `bad` is met. So far `position` bytes
have given `count` characters, the last of them `bytes` for `chars`. A chunk is made larger if the
last one had so many bytes for each character that it would not fill the block. -/
def blockOf (content : List UInt8) (bad : Nat) :
    (fuel : Nat) → (block position count bytes chars : Nat) → Nat
  | 0, block, _, _, _, _ => block
  | fuel + 1, block, position, count, bytes, chars =>
    let missing := (block + 1) * blockSize - count
    if missing == 0 then blockOf content bad fuel (block + 1) position count bytes chars
    else
      let size := max chunkSize (if chars == 0 then 0 else bytes * missing / chars)
      let next := min (position + size) content.length
      if bad < next || content.length ≤ position then block
      else
        let after := charsAfter (content.take next)
        blockOf content bad fuel block next after (next - position) (after - count)

/-- The place where a block becomes known; the first two come together. -/
def blockStart (block : Nat) : Nat := if block ≤ 1 then 0 else block * blockSize

/-- The nearer of two walls, and the first of two at one place. -/
def nearer : Option Wall → Option Wall → Option Wall
  | some a, some b => some (if a.index ≤ b.index then a else b)
  | a, none => a
  | none, b => b

/-- The text of a file, read block by block. -/
def ofFile (content : List UInt8) : Source :=
  let (chars, broken) := decodeStart content
  let chars := unifyLines chars
  let undecodable : Option Wall :=
    if broken.isEmpty then none
    else
      let bad := content.length - broken.length + patience broken
      some ⟨blockStart (blockOf content bad (content.length + 2) 0 0 0 0 0), .notUtf8⟩
  let forbidden : Option Wall :=
    (chars.findIdx? (!isAllowed ·)).map fun index => ⟨blockStart (index / blockSize), .malformed⟩
  { chars, wall := nearer undecodable forbidden }

end Source

end ScanLauncher.Yaml
