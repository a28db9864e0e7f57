import ScanLauncher.Text.Basic
import ScanLauncher.Text.Digit
import ScanLauncher.Text.Printable

/-!
Text shown inside quotes, so that a reader sees where it starts and ends and what it holds.
-/
namespace ScanLauncher.Text

/-- The apostrophe. -/
def apostrophe : Char := '\x27'

/-- The quotation mark. -/
def quotationMark : Char := '\x22'

/-- The mark that encloses `chars`: the apostrophe, unless only the apostrophe of the two occurs. -/
def quoteMark (chars : List Char) : Char :=
  if chars.contains apostrophe && !chars.contains quotationMark then quotationMark else apostrophe

/-- How a hidden code point is written: two, four or eight hexadecimal digits, as few as fit. -/
def hexEscape (n : Nat) : List Char :=
  if n < 0x100 then '\\' :: 'x' :: hexPadded 2 n
  else if n < 0x10000 then '\\' :: 'u' :: hexPadded 4 n
  else '\\' :: 'U' :: hexPadded 8 n

/-- One character inside quotes of kind `mark`. -/
def quoteChar (mark c : Char) : List Char :=
  if c == mark || c == '\\' then ['\\', c]
  else if c == '\n' then ['\\', 'n']
  else if c == '\r' then ['\\', 'r']
  else if c == '\t' then ['\\', 't']
  else if isPrintable c then [c]
  else hexEscape c.toNat

/-- One glyph inside quotes of kind `mark`; a surrogate is hidden. -/
def quoteGlyph (mark : Char) : Glyph → List Char
  | .char c => quoteChar mark c
  | g => hexEscape g.code

/-- A text inside quotes. -/
def quoted (t : Text) : String :=
  let mark := quoteMark t.toCharsLossy
  String.ofList (mark :: t.glyphs.flatMap (quoteGlyph mark) ++ [mark])

/-- One byte inside quotes: printable ASCII as it is, all else escaped. -/
def quoteByte (mark : Char) (b : UInt8) : List Char :=
  if b < 0x80 then quoteChar mark (Char.ofNat b.toNat) else '\\' :: 'x' :: hexPadded 2 b.toNat

/-- A byte string inside quotes, after the letter that marks it. -/
def quotedBytes (bytes : List UInt8) : String :=
  let mark := quoteMark (bytes.map fun b => Char.ofNat b.toNat)
  String.ofList ('b' :: mark :: bytes.flatMap (quoteByte mark) ++ [mark])

/-- Texts inside quotes, in brackets and separated by commas. -/
def quotedList (items : List Text) : String :=
  "[" ++ String.intercalate ", " (items.map quoted) ++ "]"

end ScanLauncher.Text
