import ScanLauncher.Number.Numeral
import ScanLauncher.Value.Basic
import ScanLauncher.Yaml.Cursor

/-!
What a scalar means. A plain scalar's kind follows from its text: `ScalarKind.ofText` is the YAML
1.1 rule. Each kind has a reader, which a scalar can also be sent to by a tag, and which then may
fail.
-/
namespace ScanLauncher.Yaml

/-- The tags of the standard types begin with this. -/
def standardTag : String := "tag:yaml.org,2002:"

/-- The tag of sequences. -/
def sequenceTag : String := standardTag ++ "seq"

/-- The tag of mappings. -/
def mappingTag : String := standardTag ++ "map"

/-- The kinds of plain scalars. -/
inductive ScalarKind where
  | null
  | bool
  | int
  | float
  | timestamp
  | text
  /-- The key that merges another mapping. -/
  | merge
  /-- The key that holds the default value of a mapping. -/
  | default
  /-- An indicator on its own, which has no meaning. -/
  | indicator
deriving DecidableEq, Repr

/-- The words for null. -/
def nullWords : List String := ["", "~", "null", "Null", "NULL"]

/-- The words for true and false, in lower case. -/
def boolWords : List (String × Bool) :=
  [("yes", true), ("no", false), ("true", true), ("false", false), ("on", true), ("off", false)]

/-- A word in lower case, capitalised and in upper case. -/
def casings (word : String) : List String := [word, word.capitalize, word.toUpper]

/-- Whether a scalar is a word for true or false. -/
def isBoolWord (s : String) : Bool := boolWords.any fun (word, _) => (casings word).contains s

/-- A digit or an underscore. -/
def isDigitOrLine (c : Char) : Bool := c.isDigit || c == '_'

/-- Splits a sign off. -/
def dropSign : List Char → List Char
  | '-' :: rest => rest
  | '+' :: rest => rest
  | chars => chars

/-- Splits a text at every colon. -/
def colonParts (chars : List Char) : List (List Char) := chars.splitOn ':'

/-- Whether a text is at most two digits and below sixty: a place of a base-sixty number. -/
def isSixtieth : List Char → Bool
  | [a] => a.isDigit
  | [a, b] => '0' ≤ a && a ≤ '5' && b.isDigit
  | _ => false

/-- An unsigned integer in one of the bases. -/
def isUnsignedInt (chars : List Char) : Bool :=
  match chars with
  | '0' :: 'b' :: rest => !rest.isEmpty && rest.all fun c => c == '0' || c == '1' || c == '_'
  | '0' :: 'x' :: rest =>
    !rest.isEmpty && rest.all fun c => (Text.hexValue? c).isSome || c == '_'
  | '0' :: rest => rest.all fun c => ('0' ≤ c && c ≤ '7') || c == '_'
  | c :: _ =>
    c.isDigit &&
      match colonParts chars with
      | [] => false
      | whole :: places => whole.all isDigitOrLine && places.all isSixtieth
  | [] => false

/-- An exponent, which always has a sign. -/
def isExponent : List Char → Bool
  | [] => true
  | mark :: sign :: rest =>
    (mark == 'e' || mark == 'E') && (sign == '-' || sign == '+') && !rest.isEmpty &&
      rest.all Char.isDigit
  | _ => false

/-- A fraction after its point: digits, then an exponent. -/
def isFraction (chars : List Char) : Bool := isExponent (chars.dropWhile isDigitOrLine)

/-- A float in one of its forms. -/
def isFloat (chars : List Char) : Bool :=
  let unsigned := dropSign chars
  let isSigned := unsigned.length != chars.length
  match unsigned with
  | '.' :: rest =>
    let word := String.ofList rest
    ["inf", "Inf", "INF"].contains word ||
      (!isSigned && (["nan", "NaN", "NAN"].contains word ||
        ((rest.headD ' ').isDigit && isFraction rest)))
  | c :: _ =>
    c.isDigit &&
      let (whole, rest) := unsigned.span (· != '.')
      match rest with
      | [] => false
      | _ :: fraction =>
        match colonParts whole with
        | [whole] => whole.all isDigitOrLine && isFraction fraction
        | whole :: places =>
          whole.all isDigitOrLine && places.all isSixtieth && fraction.all isDigitOrLine
        | [] => false
  | [] => false

/-- The parts of a timestamp. -/
structure Stamp where
  year : List Char
  month : List Char
  day : List Char
  time : Option (List Char × List Char × List Char × List Char)
  /-- The sign, hours and minutes of the offset; a sign alone is universal time. -/
  zone : Option (Char × List Char × List Char)
deriving Repr

/-- At least `low` and at most `high` digits at the start of a text, and the rest. -/
def digits? (low high : Nat) (chars : List Char) : Option (List Char × List Char) :=
  let run := (chars.take high).takeWhile Char.isDigit
  if low ≤ run.length then some (run, chars.drop run.length) else none

/-- One character at the start of a text, and the rest. -/
def char? (c : Char) : List Char → Option (List Char)
  | x :: rest => if x == c then some rest else none
  | [] => none

/-- A blank inside a timestamp. -/
def isStampBlank (c : Char) : Bool := c == ' ' || c == '\t'

/-- Reads the zone at the end of a timestamp: nothing, a `Z`, or an offset. -/
def readZone? (chars : List Char) : Option (Option (Char × List Char × List Char)) :=
  match chars.dropWhile isStampBlank with
  | [] => if chars.isEmpty then some none else none
  | ['Z'] => some (some ('Z', [], []))
  | sign :: rest =>
    if sign == '-' || sign == '+' then do
      let (hours, rest) ← digits? 1 2 rest
      match rest with
      | [] => some (some (sign, hours, []))
      | ':' :: rest =>
        let (minutes, rest) ← digits? 2 2 rest
        if rest.isEmpty then some (some (sign, hours, minutes)) else none
      | _ => none
    else none

/-- Reads a timestamp: a date, or a date and a time of day. -/
def Stamp.read? (chars : List Char) : Option Stamp := do
  let (year, rest) ← digits? 4 4 chars
  let (month, rest) ← digits? 1 2 (← char? '-' rest)
  let (day, rest) ← digits? 1 2 (← char? '-' rest)
  match rest with
  | [] => return { year, month, day, time := none, zone := none }
  | divider :: afterDivider =>
    let rest ←
      if divider == 'T' || divider == 't' then some afterDivider
      else if isStampBlank divider then some (rest.dropWhile isStampBlank)
      else none
    let (hour, rest) ← digits? 1 2 rest
    let (minute, rest) ← digits? 2 2 (← char? ':' rest)
    let (second, rest) ← digits? 2 2 (← char? ':' rest)
    let (fraction, rest) :=
      match rest with
      | '.' :: rest => rest.span Char.isDigit
      | rest => ([], rest)
    let zone ← readZone? rest
    return { year, month, day, time := some (hour, minute, second, fraction), zone }

/-- Whether a plain scalar is a timestamp: without a time of day, month and day have two digits. -/
def isTimestamp (chars : List Char) : Bool :=
  match Stamp.read? chars with
  | some stamp => stamp.time.isSome || (stamp.month.length == 2 && stamp.day.length == 2)
  | none => false

namespace ScalarKind

/-- Characters without one newline at their end. -/
def chopNewline (chars : List Char) : List Char :=
  if chars.getLast? == some '\n' then chars.dropLast else chars

/-- The kind of a plain scalar. -/
def ofText (text : Text) : ScalarKind :=
  let all := text.toCharsLossy
  let chars := if all == ['\n'] then all else chopNewline all
  let s := String.ofList chars
  if nullWords.contains s then .null
  else if isBoolWord s then .bool
  else if isFloat chars then .float
  else if isUnsignedInt (dropSign chars) then .int
  else if s == "<<" then .merge
  else if isTimestamp chars then .timestamp
  else if s == "=" then .default
  else if s == "!" || s == "&" || s == "*" then .indicator
  else .text

/-- The tag of a kind. -/
def tag : ScalarKind → String
  | null => standardTag ++ "null"
  | bool => standardTag ++ "bool"
  | int => standardTag ++ "int"
  | float => standardTag ++ "float"
  | timestamp => standardTag ++ "timestamp"
  | text => standardTag ++ "str"
  | merge => standardTag ++ "merge"
  | default => standardTag ++ "value"
  | indicator => standardTag ++ "yaml"

end ScalarKind

/-- The number that a run of digits spells. -/
def natOf (digits : List Char) : Nat := digits.foldl (fun n d => 10 * n + (d.toNat - 48)) 0

/-- Reads an integer in a base, which may be named in front of the digits. -/
def readBase (base : Nat) (letter : Char) (chars : List Char) : Except Fault Int :=
  let trimmed := Numeral.trim chars
  let (negative, rest) := Numeral.takeSign (Numeral.asciiDigits trimmed)
  let rest :=
    match rest with
    | '0' :: c :: more => if c.toLower == letter && !more.isEmpty then more else rest
    | _ => rest
  let values := rest.filterMap fun c => (Text.hexValue? c).filter (· < base)
  if rest.isEmpty || values.length != rest.length then .error .badLiteral
  else
    let n : Nat := values.foldl (fun n d => base * n + d) 0
    .ok (if negative then -(n : Int) else n)

/-- Reads an integer in base ten. -/
def readTen (chars : List Char) : Except Fault Int :=
  match Numeral.readInt chars with
  | .value n => .ok n
  | _ => .error .badLiteral

/-- Reads a float of a single part. -/
def readPart (chars : List Char) : Except Fault Binary64 :=
  match Numeral.readFloat? chars with
  | some x => .ok x
  | none => .error .badLiteral

/-- Reads an integer: underscores are ignored, a leading zero means base eight, and colons part the
places of a number in base sixty. -/
def readInt (text : Text) : Except Fault Int := do
  let chars := text.toCharsLossy.filter (· != '_')
  let negative := chars.head? == some '-'
  let unsigned := if chars.isEmpty then [] else dropSign chars
  let magnitude ←
    match unsigned with
    | [] => .error .emptyNumber
    | ['0'] => pure 0
    | '0' :: 'b' :: rest => readBase 2 'b' rest
    | '0' :: 'x' :: rest => readBase 16 'x' rest
    | '0' :: _ => readBase 8 'o' unsigned
    | _ =>
      if unsigned.contains ':' then do
        let places ← (colonParts unsigned).mapM readTen
        pure (places.foldl (fun n d => 60 * n + d) 0)
      else readTen unsigned
  return if negative then -magnitude else magnitude

/-- The float of a number in base sixty: its places, the last first, summed from the least. Every
power of sixty must be a double. -/
def sumSixty : (places : List Binary64) → (base : Nat) → (sum : Binary64) → Except Fault Binary64
  | [], _, sum => .ok sum
  | place :: rest, base, sum =>
    match Binary64.ofInt base with
    | .infinity _ => .error .hugeCode
    | factor => sumSixty rest (60 * base) (sum.add (place.mul factor))

/-- Reads a float: underscores are ignored, and colons part the places of a number in base sixty. A
NaN that is spelt out as such is always the same one; any other takes `label`. -/
def readFloat (text : Text) (label : Nat) : Except Fault Value := do
  let chars := (text.toCharsLossy.filter (· != '_')).map Char.toLower
  if chars.isEmpty then .error .emptyNumber
  let negative := chars.head? == some '-'
  let unsigned := dropSign chars
  if unsigned == ".nan".toList then return .float .nan Value.nanLabel
  let magnitude ←
    if unsigned == ".inf".toList then pure (.infinity false)
    else if unsigned.contains ':' then do
      let places ← (colonParts unsigned).mapM readPart
      sumSixty places.reverse 1 (.zero false)
    else readPart unsigned
  return .float (if negative then magnitude.neg else magnitude) label

/-- Reads a truth value. -/
def readBool (text : Text) : Except Fault Bool :=
  let word := String.ofList (text.toCharsLossy.map Char.toLower)
  match boolWords.find? (·.1 == word) with
  | some (_, b) => .ok b
  | none => .error .unknownWord

/-- The offset of a zone in minutes. -/
def zoneOffset : Option (Char × List Char × List Char) → Option Int
  | none => none
  | some ('Z', _, _) => some 0
  | some (sign, hours, minutes) =>
    let total : Int := 60 * natOf hours + natOf minutes
    some (if sign == '-' then -total else total)

/-- The microseconds of a fraction of a second; further digits are dropped. -/
def microsOf (fraction : List Char) : Nat :=
  let kept := fraction.take 6
  natOf kept * powerOfTen (6 - kept.length)

/-- Reads a date or a moment; it must exist. -/
def readTimestamp (text : Text) : Except Fault Value :=
  match Stamp.read? (ScalarKind.chopNewline text.toCharsLossy) with
  | none => .error .notTimestamp
  | some stamp =>
    let date : Date := ⟨natOf stamp.year, natOf stamp.month, natOf stamp.day⟩
    match stamp.time with
    | none => if date.isValid then .ok (.date date) else .error .badLiteral
    | some (hour, minute, second, fraction) =>
      let moment : Moment :=
        { date, hour := natOf hour, minute := natOf minute, second := natOf second
          micro := microsOf fraction, offset := zoneOffset stamp.zone }
      if moment.isValid then .ok (.moment moment) else .error .badLiteral

/-- The value of a base-64 digit. -/
def sextet? (c : Char) : Option Nat :=
  if 'A' ≤ c && c ≤ 'Z' then some (c.toNat - 65)
  else if 'a' ≤ c && c ≤ 'z' then some (c.toNat - 71)
  else if c.isDigit then some (c.toNat + 4)
  else if c == '+' then some 62
  else if c == '/' then some 63
  else none

/-- Reads base-64 digits, four to three bytes. Other characters are passed over, and padding ends
the data once a group is complete; an incomplete group is a fault. -/
def readBase64 : (chars : List Char) → (place left pads : Nat) → Except Fault (List UInt8)
  | [], place, _, _ => if place == 0 then .ok [] else .error .malformed
  | c :: rest, place, left, pads =>
    if c == '=' then
      if place ≥ 2 && place + pads + 1 ≥ 4 then .ok []
      else readBase64 rest place left (if place ≥ 2 then pads + 1 else pads)
    else
      match sextet? c with
      | none => readBase64 rest place left pads
      | some d =>
        match place with
        | 0 => readBase64 rest 1 d 0
        | 1 => do return (left * 4 + d / 16).toUInt8 :: (← readBase64 rest 2 (d % 16) 0)
        | 2 => do return (left * 16 + d / 4).toUInt8 :: (← readBase64 rest 3 (d % 4) 0)
        | _ => do return (left * 64 + d).toUInt8 :: (← readBase64 rest 0 0 0)

/-- Reads bytes in base 64; the text is ASCII. -/
def readBinary (text : Text) : Except Fault (List UInt8) :=
  let chars := text.toCharsLossy
  if chars.all fun c => c.toNat < 0x80 then readBase64 chars 0 0 0
  else .error .malformed

end ScanLauncher.Yaml
