import ScanLauncher.Shell.Octets
import ScanLauncher.Text.Digit

/-!
Whole numbers in the arguments of commands. They are spelled with blanks and a sign in front of
their digits, and they are as long as a machine's word.
-/
namespace ScanLauncher.Shell.Integer

/-- The least number. -/
def least : Int := -0x8000000000000000

/-- The greatest number. -/
def greatest : Int := 0x7FFFFFFFFFFFFFFF

/-- Whether a character is a blank around a number. -/
def isBlank (c : Char) : Bool := c == ' ' || ('\t' ≤ c && c ≤ '\r')

/-- The value of a digit in a base. -/
def digit? (base : Nat) (c : Char) : Option Nat :=
  (Text.hexValue? c).filter (· < base)

/-- What the front of a text spells. -/
structure Reading where
  value : Int
  /-- Whether the value is one that no number reaches. -/
  isBeyond : Bool := false
  /-- What follows the number; the whole text where there is none. -/
  rest : List Char

/-- The base that the front of some digits names, and what follows its mark: a zero stands for eight
and a zero with a letter for sixteen. -/
def baseOf : List Char → Nat × List Char
  | '0' :: x :: d :: rest =>
    if (x == 'x' || x == 'X') && (digit? 16 d).isSome then (16, d :: rest)
    else (8, '0' :: x :: d :: rest)
  | '0' :: rest => (8, '0' :: rest)
  | chars => (10, chars)

/-- Reads the number at the front of a text, in a base of ten or in the one that its front names. -/
def read (namesBase : Bool) (chars : List Char) : Reading :=
  let unsigned (isNegative : Bool) (body : List Char) : Reading :=
    let (base, body) := if namesBase then baseOf body else (10, body)
    let digits := body.takeWhile fun c => (digit? base c).isSome
    if digits.isEmpty then { value := 0, rest := chars }
    else
      let magnitude := digits.foldl (fun (n : Nat) c => base * n + (digit? base c).getD 0) 0
      let value : Int := if isNegative then -(magnitude : Int) else magnitude
      { value := max least (min greatest value)
        isBeyond := value < least || greatest < value
        rest := body.drop digits.length }
  match chars.dropWhile isBlank with
  | '-' :: body => unsigned true body
  | '+' :: body => unsigned false body
  | body => unsigned false body

/-- The number that a whole text spells in ten digits. -/
def of? (s : String) : Option Int :=
  let reading := read false s.toList
  if reading.isBeyond || s.toList.length == reading.rest.length then none
  else if reading.rest.all isBlank then some reading.value
  else none

/-- The number that a whole text spells, where it is to count something. -/
def count? (s : String) : Option Nat :=
  match of? s with
  | some n => if n < 0 || 0x7FFFFFFF < n then none else some n.toNat
  | none => none

end ScanLauncher.Shell.Integer
