import ScanLauncher.Number.Binary64
import ScanLauncher.Text.Digit

/-!
Numerals in free text: blanks around them are ignored, the digits may be of any script, and a
single underscore may stand between two digits.
-/
namespace ScanLauncher.Numeral

/-- A text without the blanks around it. -/
def trim (chars : List Char) : List Char :=
  ((chars.dropWhile Text.isNumeralBlank).reverse.dropWhile Text.isNumeralBlank).reverse

/-- Replaces every decimal digit by the ASCII digit of its value. -/
def asciiDigits (chars : List Char) : List Char :=
  chars.map fun c =>
    match Text.digitValue? c with
    | some d => Char.ofNat (48 + d)
    | none => c

/-- An ASCII digit. -/
def isDigit (c : Char) : Bool := '0' ≤ c && c ≤ '9'

/-- The digits and the underscores at the start of a text, and the rest. -/
def digitRun (chars : List Char) : List Char × List Char :=
  chars.span fun c => isDigit c || c == '_'

/-- Whether underscores stand only between digits. -/
def wellSeparated : List Char → Bool
  | [] => true
  | c :: rest => isDigit c && go rest
where
  go : List Char → Bool
    | [] => true
    | '_' :: c :: rest => isDigit c && go rest
    | c :: rest => isDigit c && go rest

/-- The number that a digit run spells. -/
def valueOf (run : List Char) : Nat :=
  run.foldl (fun n c => if c == '_' then n else 10 * n + (c.toNat - 48)) 0

/-- How many digits a run has. -/
def countOf (run : List Char) : Nat := (run.filter isDigit).length

/-- Splits a sign off. -/
def takeSign : List Char → Bool × List Char
  | '-' :: rest => (true, rest)
  | '+' :: rest => (false, rest)
  | chars => (false, chars)

/-- The most digits an integer numeral may have, read or written. -/
def digitLimit : Nat := 4300

/-- The numeral of an integer, unless it would have too many digits. -/
def ofInt? (n : Int) : Option String :=
  if n.natAbs < powerOfTen digitLimit then some (Text.decimalInt n) else none

/-- What reading an integer numeral comes to. -/
inductive IntReading where
  | value (n : Int)
  | malformed
  | tooLong (digits : Nat)
deriving DecidableEq, Repr

/-- Reads an integer: an optional sign and digits. Too many digits are noticed before anything that
follows them. -/
def readInt (chars : List Char) : IntReading :=
  let (negative, rest) := takeSign (asciiDigits (trim chars))
  let (run, rest) := digitRun rest
  if run.isEmpty || !wellSeparated run then .malformed
  else if countOf run > digitLimit then .tooLong (countOf run)
  else if !rest.isEmpty then .malformed
  else
    let n : Int := valueOf run
    .value (if negative then -n else n)

/-- A digit run that may be empty. -/
def optionalRun (chars : List Char) : Option (List Char × List Char) :=
  let (run, rest) := digitRun chars
  if wellSeparated run then some (run, rest) else none

/-- Reads the exponent at the end of a numeral: nothing, or a mark, an optional sign and digits. -/
def readExponent? : List Char → Option Int
  | [] => some 0
  | mark :: rest =>
    if mark == 'e' || mark == 'E' then
      let (negative, rest) := takeSign rest
      let (run, rest) := digitRun rest
      if run.isEmpty || !wellSeparated run || !rest.isEmpty then none
      else some (if negative then -(valueOf run : Int) else valueOf run)
    else none

/-- Reads an unsigned decimal: digits with an optional point among or around them, then an
optional exponent. -/
def readDecimal? (negative : Bool) (chars : List Char) : Option Binary64 := do
  let (whole, rest) ← optionalRun chars
  let (fraction, rest) ←
    match rest with
    | '.' :: rest => optionalRun rest
    | rest => some ([], rest)
  if whole.isEmpty && fraction.isEmpty then none
  let exponent ← readExponent? rest
  return Binary64.ofDecimal negative (valueOf (whole ++ fraction)) (exponent - countOf fraction)

/-- Reads a double: a decimal, an infinity or a NaN, with an optional sign. -/
def readFloat? (chars : List Char) : Option Binary64 :=
  let (negative, rest) := takeSign (asciiDigits (trim chars))
  let word := String.ofList (rest.map Char.toLower)
  if word == "inf" || word == "infinity" then some (.infinity negative)
  else if word == "nan" then some .nan
  else readDecimal? negative rest

end ScanLauncher.Numeral
