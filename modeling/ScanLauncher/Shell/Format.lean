import ScanLauncher.Number.Decimal
import ScanLauncher.Number.Numeral
import ScanLauncher.Shell.Integer

/-!
Formatted output: texts with escapes, and texts with places for arguments.
-/
namespace ScanLauncher.Shell.Format

/-- The value of an octal digit. -/
def octal? (c : Char) : Option Nat :=
  if '0' ≤ c && c ≤ '7' then some (c.toNat - '0'.toNat) else none

/-- The byte that at most `count` octal digits spell, and what follows them. -/
def takeOctal : (count : Nat) → (value : Nat) → List Char → UInt8 × List Char
  | 0, value, chars => (value.toUInt8, chars)
  | _, value, [] => (value.toUInt8, [])
  | count + 1, value, c :: rest =>
    match octal? c with
    | some d => takeOctal count (value * 8 + d) rest
    | none => (value.toUInt8, c :: rest)

/-- The byte of an escape that is a single letter. -/
def letterByte? (c : Char) : Option UInt8 :=
  match c with
  | 'a' => some 7
  | 'b' => some 8
  | 'e' => some 27
  | 'f' => some 12
  | 'n' => some 10
  | 'r' => some 13
  | 't' => some 9
  | 'v' => some 11
  | '\\' => some 0x5C
  | _ => none

/-- What an escape at the front of a text comes to, after its backslash. -/
inductive Escape where
  | bytes (content : List UInt8) (rest : List Char)
  /-- Nothing is written any more. -/
  | stop

/-- The escape after a backslash. In the text of an argument there is one that stops the output, and
a zero may stand in front of octal digits. -/
def escape (isArgument : Bool) : List Char → Escape
  | [] => .bytes [0x5C] []
  | 'c' :: rest => if isArgument then .stop else .bytes [0x5C, 0x63] rest
  | c :: rest =>
    match letterByte? c with
    | some b => .bytes [b] rest
    | none =>
      if isArgument && c == '0' then
        match takeOctal 3 0 rest with
        | (b, rest) => .bytes [b] rest
      else if (octal? c).isSome then
        match takeOctal 3 0 (c :: rest) with
        | (b, rest) => .bytes [b] rest
      else .bytes [0x5C, c.toNat.toUInt8] rest

/-- The bytes of a text with escapes, and whether one of them stops the output. -/
def unescape (fuel : Nat) (chars : List Char) : List UInt8 × Bool :=
  match fuel, chars with
  | 0, _ | _, [] => ([], false)
  | fuel + 1, '\\' :: rest =>
    match escape true rest with
    | .stop => ([], true)
    | .bytes content rest =>
      match unescape fuel rest with
      | (more, stops) => (content ++ more, stops)
  | fuel + 1, c :: rest =>
    match unescape fuel rest with
    | (more, stops) => (c.toNat.toUInt8 :: more, stops)

/-- The bytes of a whole text with escapes. -/
def unescaped (s : String) : List UInt8 × Bool := unescape s.length s.toList

/-- The options of an echo that knows several of them: whether the line stays open, and whether
escapes are read. -/
def echoOptions (isOpen hasEscapes : Bool) : List String → Bool × Bool × List String
  | [] => (isOpen, hasEscapes, [])
  | word :: rest =>
    match word.toList with
    | '-' :: c :: letters =>
      let letters := c :: letters
      if letters.all "neE".toList.contains then
        let last := (letters.reverse.find? (· != 'n')).map (· == 'e')
        echoOptions (isOpen || letters.contains 'n') (last.getD hasEscapes) rest
      else (isOpen, hasEscapes, word :: rest)
    | _ => (isOpen, hasEscapes, word :: rest)

/-- Words as a line: one blank between them, and a line end unless an option says that there is
none. An echo that always reads escapes knows only that option. -/
def echo (hasEscapes : Bool) (arguments : List String) : List UInt8 :=
  let (isOpen, hasEscapes, arguments) :=
    if !hasEscapes then echoOptions false false arguments
    else
      match arguments with
      | "-n" :: rest => (true, true, rest)
      | arguments => (false, true, arguments)
  let line := String.intercalate " " arguments
  let ending : List UInt8 := if isOpen then [] else [10]
  if hasEscapes then
    match unescaped line with
    | (bytes, true) => bytes
    | (bytes, false) => bytes ++ ending
  else octets line ++ ending

/-- A place for an argument: flags, a least width, a precision and a kind. -/
structure Place where
  flags : List Char := []
  width : Nat := 0
  precision : Option Nat := none
  kind : Char := 's'

/-- The number that the digits at the front spell, and what follows. -/
def takeNumber (chars : List Char) : Nat × List Char :=
  let digits := chars.takeWhile Char.isDigit
  (digits.foldl (fun n c => 10 * n + (c.toNat - '0'.toNat)) 0, chars.drop digits.length)

/-- Output so far: its bytes, what was not right, the status, the arguments not used yet, and
whether it was stopped. -/
structure Printing where
  bytes : List UInt8 := []
  complaints : List String := []
  status : Nat := 0
  arguments : List String
  isStopped : Bool := false

namespace Printing

/-- Adds bytes. -/
def add (p : Printing) (bytes : List UInt8) : Printing := { p with bytes := p.bytes ++ bytes }

/-- Notes that something was not right. -/
def note (p : Printing) (status : Nat) (complaint : String) : Printing :=
  { p with status, complaints := p.complaints ++ [complaint] }

/-- Ends the output with something that makes no sense. -/
def abandon (p : Printing) (complaint : String) : Printing :=
  { p.note 2 complaint with isStopped := true }

/-- The next argument; an empty one where none is left. -/
def next (p : Printing) : String × Printing :=
  (p.arguments.headD "", { p with arguments := p.arguments.tail })

/-- The whole number that the next argument spells; a quote before a character means its code. What
does not belong to a number is noted. -/
def nextNumber (p : Printing) : Int × Printing :=
  let (argument, p) := p.next
  match argument.toList with
  | '"' :: c :: _ | '\x27' :: c :: _ => (c.toNat, p)
  | chars =>
    let reading := Integer.read true chars
    if !reading.rest.isEmpty && reading.rest.length == chars.length then
      (0, p.note 1 (argument ++ ": expected numeric value"))
    else if !reading.rest.isEmpty then
      (reading.value, p.note 1 (argument ++ ": not completely converted"))
    else if reading.isBeyond then
      (reading.value, p.note 1 (argument ++ ": Numerical result out of range"))
    else (reading.value, p)

/-- The number with a fraction that the next argument spells. -/
def nextFraction (p : Printing) : Binary64 × Printing :=
  let (argument, p) := p.next
  if argument.isEmpty then (.zero false, p)
  else
    match Numeral.readFloat? argument.toList with
    | some x => (x, p)
    | none => (.zero false, p.note 1 (argument ++ ": expected numeric value"))

/-- The number at the front of a format, which an asterisk takes from the arguments. -/
def takeSize (p : Printing) : List Char → Int × List Char × Printing
  | '*' :: rest =>
    match p.nextNumber with
    | (n, p) => (n, rest, p)
  | chars =>
    match takeNumber chars with
    | (n, rest) => (n, rest, p)

end Printing

/-- The place that is written after a percent sign, and what follows it. -/
def takePlace (chars : List Char) (p : Printing) : Place × List Char × Printing :=
  let isFlag (c : Char) : Bool := "-+ #0".toList.contains c
  let flags := chars.takeWhile isFlag
  let (width, rest, p) := p.takeSize (chars.drop flags.length)
  let flags := if width < 0 then '-' :: flags else flags
  match rest with
  | '.' :: rest =>
    match p.takeSize rest with
    | (precision, rest, p) =>
      (⟨flags, width.natAbs, if precision < 0 then none else some precision.toNat, rest.headD ' '⟩,
        rest, p)
  | rest => (⟨flags, width.natAbs, none, rest.headD ' '⟩, rest, p)

/-- Bytes brought to a least width. -/
def pad (place : Place) (bytes : List UInt8) : List UInt8 :=
  let missing := List.replicate (place.width - bytes.length) (32 : UInt8)
  if place.flags.contains '-' then bytes ++ missing else missing ++ bytes

/-- The sign that stands before a number. -/
def signOf (place : Place) (isNegative : Bool) : List Char :=
  if isNegative then ['-']
  else if place.flags.contains '+' then ['+']
  else if place.flags.contains ' ' then [' ']
  else []

/-- A sign and digits at a place, with zeros between them if the place is filled. -/
def padNumber (place : Place) (isFilled : Bool) (sign digits : List Char) : List UInt8 :=
  let zeros :=
    if isFilled && place.flags.contains '0' && !place.flags.contains '-' then
      List.replicate (place.width - sign.length - digits.length) '0'
    else []
  pad place (octets (String.ofList (sign ++ zeros ++ digits)))

/-- A whole number at a place. -/
def numberText (place : Place) (n : Int) : List UInt8 :=
  let base :=
    if place.kind == 'o' then 8 else if place.kind == 'x' || place.kind == 'X' then 16 else 10
  let isSigned := place.kind == 'd' || place.kind == 'i'
  let magnitude := if isSigned then n.natAbs else (n % 0x10000000000000000).toNat
  let digits :=
    if place.precision == some 0 && magnitude == 0 then [] else Nat.toDigits base magnitude
  let digits := if place.kind == 'X' then digits.map Char.toUpper else digits
  let digits := List.replicate ((place.precision.getD 0) - digits.length) '0' ++ digits
  let isMarked := place.flags.contains '#'
  let digits := if isMarked && base == 8 && digits.head? != some '0' then '0' :: digits else digits
  let mark := if isMarked && base == 16 && magnitude != 0 then ['0', place.kind] else []
  let sign := if isSigned then signOf place (n < 0) else mark
  padNumber place place.precision.isNone sign digits

/-- Digits with an exponent, in the number of significant digits that is asked for. -/
def scientificText (places : Nat) (num den : Nat) : String :=
  let d := if num == 0 then ⟨0, 1, 1⟩ else Decimal.significant (places + 1) num den
  let chars := (Text.zeroPadded d.count d.digits).toList
  let fraction := chars.drop 1 ++ List.replicate (places + 1 - chars.length) '0'
  String.ofList (chars.take 1) ++ (if places == 0 then "" else "." ++ String.ofList fraction) ++
    Decimal.exponentText (d.point - 1)

/-- Digits with a fixed number of places after the point. -/
def fixedText (places : Nat) (num den : Nat) : String :=
  let n := Binary64.roundDiv (num * powerOfTen places) den
  let chars := (Text.zeroPadded (places + 1) n).toList
  let whole := chars.take (chars.length - places)
  let fraction := chars.drop (chars.length - places)
  String.ofList whole ++ if places == 0 then "" else "." ++ String.ofList fraction

/-- A number with a fraction at a place. -/
def fractionText (place : Place) (x : Binary64) : List UInt8 :=
  let places := place.precision.getD 6
  let upper (s : String) : List Char :=
    if place.kind.isUpper then s.toList.map Char.toUpper else s.toList
  match x with
  | .nan => padNumber place false (signOf place false) (upper "nan")
  | .infinity isNegative => padNumber place false (signOf place isNegative) (upper "inf")
  | .finite isNegative significand exponent =>
    let (num, den) := Binary64.ratio significand exponent
    let text :=
      match place.kind.toLower with
      | 'f' => fixedText places num den
      | 'e' => scientificText places num den
      | _ =>
        let count := max 1 places
        if num == 0 then "0"
        else Decimal.Layout.text ⟨-4, count, false⟩ (Decimal.significant count num den)
    padNumber place true (signOf place isNegative) (upper text)

/-- The next argument at a place. -/
def fill (place : Place) (p : Printing) : Printing :=
  let cut (bytes : List UInt8) : List UInt8 := (place.precision.map bytes.take).getD bytes
  match place.kind with
  | 's' =>
    let (argument, p) := p.next
    p.add (pad place (cut (octets argument)))
  | 'c' =>
    let (argument, p) := p.next
    p.add (pad place [(octets argument).headD 0])
  | 'b' =>
    let (argument, p) := p.next
    match unescaped argument with
    | (content, isStopped) => { p.add (pad place (cut content)) with isStopped }
  | kind =>
    if "diouxX".toList.contains kind then
      match p.nextNumber with
      | (n, p) => p.add (numberText place n)
    else if "eEfFgG".toList.contains kind then
      match p.nextFraction with
      | (x, p) => p.add (fractionText place x)
    else p

/-- One pass over a format. -/
def printOnce (fuel : Nat) (chars : List Char) (p : Printing) : Printing :=
  match fuel, chars with
  | 0, _ | _, [] => p
  | fuel + 1, '\\' :: rest =>
    match escape false rest with
    | .stop => { p with isStopped := true }
    | .bytes content rest => printOnce fuel rest (p.add content)
  | fuel + 1, '%' :: '%' :: rest => printOnce fuel rest (p.add [0x25])
  | fuel + 1, '%' :: chars =>
    match takePlace chars p with
    | (_, [], p) => p.abandon "missing format character"
    | (place, kind :: rest, p) =>
      if "sbcdiouxXeEfFgG".toList.contains kind then
        let p := fill place p
        if p.isStopped then p else printOnce fuel rest p
      else
        let written := chars.take (chars.length - rest.length)
        p.abandon ("%" ++ String.ofList written ++ ": invalid directive")
  | fuel + 1, c :: rest => printOnce fuel rest (p.add [c.toNat.toUInt8])

/-- Passes over a format until all arguments are used; one that uses none is not repeated. -/
def printAll (fuel : Nat) (format : List Char) (p : Printing) : Printing :=
  match fuel with
  | 0 => p
  | fuel + 1 =>
    let count := p.arguments.length
    let p := printOnce format.length format p
    if p.isStopped || p.arguments.isEmpty || p.arguments.length == count then p
    else printAll fuel format p

/-- Arguments in a format. -/
def print (format : String) (arguments : List String) : Printing :=
  printAll (arguments.length + 1) format.toList { arguments }

end ScanLauncher.Shell.Format
