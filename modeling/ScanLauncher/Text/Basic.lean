import ScanLauncher.Text.Utf8

/-!
Text as the program holds it: characters, and surrogates that stand alone. A byte that is no UTF-8
is read as the surrogate `U+DC00` plus its value, so that every file name has a text and the text
gives the name back. A `String` enters by `Text.ofString` and leaves by `Text.toString?`, which
fails on texts with surrogates.
-/
namespace ScanLauncher

/-- One unit of text: a character, or the surrogate `0xD800 + offset` on its own. -/
inductive Glyph where
  | char (c : Char)
  | surrogate (offset : Fin 2048)
deriving DecidableEq, Repr

namespace Glyph

instance : Inhabited Glyph := ⟨char ' '⟩

instance : Coe Char Glyph := ⟨char⟩

/-- The code point of a glyph. -/
def code : Glyph → Nat
  | char c => c.toNat
  | surrogate offset => 0xD800 + offset.val

/-- The glyph of a code point. -/
def ofCode (n : Nat) : Glyph :=
  if h : 0xD800 ≤ n ∧ n < 0xE000 then surrogate ⟨n - 0xD800, by omega⟩ else char (Char.ofNat n)

/-- The surrogate that stands for a byte. -/
def ofStray (b : UInt8) : Glyph := ofCode (0xDC00 + b.toNat)

/-- The byte that a surrogate stands for; ASCII bytes have none. -/
def strayByte? : Glyph → Option UInt8
  | char _ => none
  | surrogate offset =>
    if 0x480 ≤ offset.val && offset.val < 0x500 then some (offset.val - 0x400).toUInt8 else none

/-- The character of a glyph, if it is one. -/
def toChar? : Glyph → Option Char
  | char c => some c
  | surrogate _ => none

/-- The character of a glyph; a surrogate has the replacement character. -/
def toCharLossy : Glyph → Char
  | char c => c
  | surrogate _ => '\uFFFD'

/-- Whether a glyph is a character of a class. -/
def isIn (charClass : Char → Bool) : Glyph → Bool
  | char c => charClass c
  | surrogate _ => false

/-- The bytes of a glyph where surrogates stand for bytes. -/
def toBytes? : Glyph → Option (List UInt8)
  | char c => some (Utf8.encodeChar c)
  | g => g.strayByte?.map ([·])

end Glyph

/-- A sequence of glyphs. -/
structure Text where
  glyphs : List Glyph
deriving DecidableEq, Repr

namespace Text

instance : Inhabited Text := ⟨⟨[]⟩⟩

instance : Append Text := ⟨fun a b => ⟨a.glyphs ++ b.glyphs⟩⟩

/-- The text of some characters. -/
def ofChars (chars : List Char) : Text := ⟨chars.map .char⟩

/-- The text of a string. -/
def ofString (s : String) : Text := ofChars s.toList

instance : Coe String Text := ⟨ofString⟩

/-- The characters of a text, if it has no surrogates. -/
def toChars? (t : Text) : Option (List Char) := t.glyphs.mapM Glyph.toChar?

/-- The string of a text, if it has no surrogates. -/
def toString? (t : Text) : Option String := t.toChars?.map String.ofList

/-- The characters of a text, with the replacement character for each surrogate. -/
def toCharsLossy (t : Text) : List Char := t.glyphs.map Glyph.toCharLossy

/-- The text of bytes: UTF-8 where they are, and a surrogate for each other byte. -/
def ofBytes (bytes : List UInt8) : Text := ⟨Utf8.fold .char .ofStray bytes⟩

/-- The bytes of a text whose surrogates stand for bytes. -/
def toBytes? (t : Text) : Option (List UInt8) := (t.glyphs.mapM Glyph.toBytes?).map List.flatten

/-- The bytes of a text without surrogates. -/
def toUtf8? (t : Text) : Option (List UInt8) := t.toChars?.map Utf8.encode

/-- Whether a text has no glyphs. -/
def isEmpty (t : Text) : Bool := t.glyphs.isEmpty

/-- How many glyphs a text has. -/
def length (t : Text) : Nat := t.glyphs.length

/-- Whether a glyph occurs in a text. -/
def contains (t : Text) (g : Glyph) : Bool := t.glyphs.contains g

/-- Whether a text starts with another one. -/
def startsWith (t start : Text) : Bool := start.glyphs.isPrefixOf t.glyphs

/-- Whether a text ends with another one. -/
def endsWith (t finish : Text) : Bool := finish.glyphs.isSuffixOf t.glyphs

/-- The first `n` glyphs of a text. -/
def take (t : Text) (n : Nat) : Text := ⟨t.glyphs.take n⟩

/-- A text without its first `n` glyphs. -/
def drop (t : Text) (n : Nat) : Text := ⟨t.glyphs.drop n⟩

/-- Texts one after another. -/
def join (texts : List Text) : Text := ⟨texts.flatMap Text.glyphs⟩

/-- Texts one after another, with a divider between them. -/
def intercalate (divider : Text) (texts : List Text) : Text :=
  ⟨List.intercalate divider.glyphs (texts.map Text.glyphs)⟩

/-- The parts of a text between the occurrences of a glyph. -/
def splitOn (t : Text) (divider : Glyph) : List Text := (t.glyphs.splitOn divider).map Text.mk

/-- Whether a list stands anywhere inside another one. -/
def occursInList {α : Type} [BEq α] (pattern : List α) : List α → Bool
  | [] => pattern.isEmpty
  | a :: rest => pattern.isPrefixOf (a :: rest) || occursInList pattern rest

/-- Whether a text stands anywhere inside another one. -/
def occursIn (pattern t : Text) : Bool := occursInList pattern.glyphs t.glyphs

/-- The code points of a text. -/
def codes (t : Text) : List Nat := t.glyphs.map Glyph.code

/-- Text order: by code points, lexicographically. -/
def lt (a b : Text) : Bool := List.lex a.codes b.codes fun m n => decide (m < n)

/-- Whether a text comes no later than another one. -/
def le (a b : Text) : Bool := !b.lt a

end Text

end ScanLauncher
