import ScanLauncher.Http.Target

/-!
Parameters of a header: after its main value, names and values with equals signs between them and
semicolons around them. A value is a word or stands in quotes; a name may announce an encoding, and
a value may come in numbered parts.
-/
namespace ScanLauncher.Http

/-- A blank around a part of a header: a space or a tab. All other white space belongs to the part.
-/
def isHeaderBlank (c : Char) : Bool := c == ' ' || c == '\t'

/-- A text without blanks around it. -/
def trim (chars : List Char) : List Char :=
  ((chars.dropWhile isHeaderBlank).reverse.dropWhile isHeaderBlank).reverse

/-- An encoding that parameters and parts may use. -/
inductive Charset where
  | ascii
  | utf8
  | latin1
deriving DecidableEq, Repr

namespace Charset

/-- The charset of a name. Others are not taken. -/
def ofName? (name : List Char) : Option Charset :=
  let name := String.ofList (name.map Char.toLower)
  if name == "ascii" || name == "us-ascii" then some ascii
  else if name == "utf-8" then some utf8
  else if name == "iso-8859-1" then some latin1
  else none

/-- Decodes bytes; what is broken is replaced. -/
def decode : Charset → List UInt8 → List Char
  | ascii, bytes => bytes.map fun b => if b < 0x80 then Char.ofNat b.toNat else '\uFFFD'
  | utf8, bytes => Utf8.decodeLossy bytes
  | latin1, bytes => bytes.map fun b => Char.ofNat b.toNat

end Charset

namespace Parameter

/-- A character of a word. -/
def isWordChar (c : Char) : Bool := c.isAlphanum || "_!#$%&'*+-.^\x60|~".contains c

/-- Splits a name off, in lower case: a word right before an equals sign. -/
def takeName? (chars : List Char) : Option (List Char × List Char) :=
  let name := chars.takeWhile isWordChar
  match name, chars.drop name.length with
  | _ :: _, '=' :: rest => some (name.map Char.toLower, rest)
  | _, _ => none

/-- The characters of a quoted value up to its closing quote, and the rest. -/
def takeQuoted? : List Char → Option (List Char × List Char)
  | '\\' :: '\\' :: rest =>
    (takeQuoted? rest).map fun (value, rest) => ('\\' :: '\\' :: value, rest)
  | '\\' :: '"' :: rest => (takeQuoted? rest).map fun (value, rest) => ('\\' :: '"' :: value, rest)
  | '"' :: rest => some (['"'], rest)
  | c :: rest => (takeQuoted? rest).map fun (value, rest) => (c :: value, rest)
  | [] => none

/-- Splits a value off, as it is written; none if there is none. -/
def takeValue (chars : List Char) : Option (List Char) × List Char :=
  let word := chars.takeWhile isWordChar
  if !word.isEmpty then (some word, chars.drop word.length)
  else
    match chars with
    | '"' :: rest =>
      match takeQuoted? rest with
      | some (value, rest) => (some ('"' :: value), rest)
      | none => (none, chars)
    | _ => (none, chars)

/-- The names and values of some parameters, as they are written. What is none is passed over up to
the next semicolon. -/
def written : (fuel : Nat) → List Char → List (List Char × List Char)
  | 0, _ => []
  | fuel + 1, chars =>
    let (found, rest) :=
      match takeName? chars with
      | none => ([], chars)
      | some (name, rest) =>
        match takeValue rest with
        | (some value, rest) => ([(name, value)], rest)
        | (none, rest) => ([], rest)
    match rest.dropWhile (· != ';') with
    | [] => found
    | _ :: rest => found ++ written fuel (rest.dropWhile isHeaderBlank)

/-- Replaces every occurrence of a pattern, from left to right. -/
def replace (pattern plain : List Char) : (fuel : Nat) → List Char → List Char
  | 0, chars => chars
  | _, [] => []
  | fuel + 1, c :: rest =>
    if pattern.isPrefixOf (c :: rest) then
      plain ++ replace pattern plain fuel ((c :: rest).drop pattern.length)
    else c :: replace pattern plain fuel rest

/-- A value without its quotes, if it stands in some. -/
def unquote (chars : List Char) : List Char :=
  if chars.head? == some '"' && chars.getLast? == some '"' then
    let inner := (chars.drop 1).dropLast
    let inner := replace ['\\', '\\'] ['\\'] inner.length inner
    let inner := replace ['\\', '"'] ['"'] inner.length inner
    replace ['%', '2', '2'] ['"'] inner.length inner
  else chars

/-- A charset, a language and a value, each ended by an apostrophe but the last. -/
def takeCharset? (chars : List Char) : Option (List Char × List Char) :=
  let isPlain (c : Char) : Bool := isWordChar c && c != '\x27'
  let charset := chars.takeWhile isPlain
  match chars.drop charset.length with
  | '\x27' :: rest =>
    match rest.dropWhile isPlain with
    | '\x27' :: rest =>
      let value := rest.takeWhile isWordChar
      if value.isEmpty then none else some (charset, value)
    | _ => none
  | _ => none

/-- What was read of parameters so far: their values, the name of the last charset, and the charset
that the next part of a value takes. -/
structure Reading where
  values : List (List Char × List Char) := []
  charset : Option (List Char) := none
  continued : Option (List Char) := none

/-- Sets a value; a later one replaces an earlier one. -/
def set (values : List (List Char × List Char)) (name value : List Char) :
    List (List Char × List Char) :=
  (name, value) :: values.filter (·.1 != name)

/-- The name of a value that comes in parts, if a number follows a star at its end. -/
def partName? (name : List Char) : Option (List Char) :=
  let digits := (name.reverse.takeWhile Char.isDigit).length
  match name.reverse.drop digits with
  | '*' :: rest => if digits == 0 then none else some rest.reverse
  | _ => none

/-- Decodes an escaped value with the charset that it names, or else with the one before it. -/
def decodeValue (reading : Reading) (value : List Char) : Reading × List Char :=
  let (charset, value) :=
    match takeCharset? value with
    | some (charset, value) => (some (charset.map Char.toLower), value)
    | none => (reading.charset, value)
  let charset := (charset.filter (!·.isEmpty)).or reading.continued
  match charset.bind Charset.ofName? with
  | some known =>
    ({ reading with charset, continued := charset }, decodeRuns known.decode value)
  | none => ({ reading with charset }, value)

/-- Reads one parameter. -/
def step (reading : Reading) (parameter : List Char × List Char) : Reading :=
  let (name, value) := parameter
  let (name, reading, value) :=
    if name.getLast? == some '*' then
      let (reading, value) := decodeValue reading value
      (name.dropLast, reading, value)
    else (name, reading, value)
  let value := unquote value
  let values :=
    match partName? name with
    | some whole => set reading.values whole ((reading.values.lookup whole).getD [] ++ value)
    | none => set reading.values name value
  { reading with values }

end Parameter

/-- A header taken apart: its main value, and the values of its parameters. -/
structure HeaderValue where
  main : List Char
  parameters : List (List Char × List Char)
deriving Repr

namespace HeaderValue

/-- Takes a header apart. Without a main value there are no parameters. -/
def ofChars (chars : List Char) : HeaderValue :=
  let main := trim (chars.takeWhile (· != ';'))
  let rest := trim ((chars.dropWhile (· != ';')).drop 1)
  let parameters :=
    if main.isEmpty || rest.isEmpty then []
    else ((Parameter.written (rest.length + 1) rest).foldl Parameter.step {}).values
  { main, parameters }

/-- The value of a parameter. -/
def get? (header : HeaderValue) (name : String) : Option (List Char) :=
  header.parameters.lookup name.toList

end HeaderValue

end ScanLauncher.Http
