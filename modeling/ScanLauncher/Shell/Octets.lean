import ScanLauncher.Text.Basic

/-!
The texts of a shell. A shell knows bytes only, so every character of its texts stands for the byte
of its number, whatever the bytes mean to others.
-/
namespace ScanLauncher.Shell

/-- The bytes of a shell's text. -/
def octets (s : String) : List UInt8 := s.toList.map fun c => c.toNat.toUInt8

/-- The characters of a shell's text for some bytes. -/
def textOf (bytes : List UInt8) : List Char := bytes.map fun b => Char.ofNat b.toNat

/-- A shell's text for some bytes. -/
def ofOctets (bytes : List UInt8) : String := String.ofList (textOf bytes)

/-- A shell's text as others read it. -/
def pathOf (s : String) : Text := .ofBytes (octets s)

/-- A shell's text for a text of others. -/
def ofText (t : Text) : String := ofOctets (t.toBytes?.getD [])

end ScanLauncher.Shell
