import ScanLauncher.Http.Authority

/-!
The target of a request: a URL, whole or in part, that names a path on the server. Its escapes are
replaced after it was taken apart.
-/
namespace ScanLauncher.Http

/-- The parts of a URL. The fragment is dropped. -/
structure Url where
  scheme : List Char
  /-- The host and what stands around it, or nothing. -/
  authority : List Char
  path : List Char
  query : List Char
deriving DecidableEq, Repr

namespace Url

/-- A control character or a space, as it may stand in front of a URL. -/
def isPadding (c : Char) : Bool := c.toNat ≤ 0x20

/-- A tab or a line break, which is dropped wherever it stands. -/
def isDropped (c : Char) : Bool := c == '\t' || c == '\r' || c == '\n'

/-- A character of a scheme. -/
def isSchemeChar (c : Char) : Bool := c.isAlphanum || c == '+' || c == '-' || c == '.'

/-- Splits a scheme off: a letter and more before the first colon. -/
def takeScheme (chars : List Char) : List Char × List Char :=
  let scheme := chars.takeWhile (· != ':')
  match chars.drop scheme.length with
  | _ :: rest =>
    if (scheme.head?.map Char.isAlpha).getD false && scheme.all isSchemeChar then
      (scheme.map Char.toLower, rest)
    else ([], chars)
  | [] => ([], chars)

/-- Splits an authority off, which follows two slashes. -/
def takeAuthority : List Char → List Char × List Char
  | '/' :: '/' :: rest =>
    let isPart (c : Char) : Bool := c != '/' && c != '?' && c != '#'
    (rest.takeWhile isPart, rest.dropWhile isPart)
  | chars => ([], chars)

/-- Takes a URL apart, if what stands in the place of its authority can be one. -/
def split? (chars : List Char) : Option Url :=
  let chars := (chars.dropWhile isPadding).filter (!isDropped ·)
  let (scheme, rest) := takeScheme chars
  let (authority, rest) := takeAuthority rest
  if !Authority.isPossible authority then none
  else
    let rest := rest.takeWhile (· != '#')
    some { scheme, authority, path := rest.takeWhile (· != '?')
           query := (rest.dropWhile (· != '?')).drop 1 }

/-- A URL put together again, without its query and with the plain form of its authority. -/
def text (url : Url) : Except Authority.Fault (List Char) := do
  let authority ← Authority.plain url.authority
  return (if url.scheme.isEmpty then [] else url.scheme ++ [':']) ++
    (if authority.isEmpty then [] else '/' :: '/' :: authority) ++ url.path

end Url

/-- Replaces escapes by the bytes they stand for. What is no escape stays as it is. -/
def unescape : List Char → List UInt8
  | '%' :: a :: b :: rest =>
    match Text.hexValue? a, Text.hexValue? b with
    | some high, some low => (16 * high + low).toUInt8 :: unescape rest
    | _, _ => 0x25 :: unescape (a :: b :: rest)
  | c :: rest => Utf8.encodeChar c ++ unescape rest
  | [] => []
termination_by chars => chars.length

/-- Whether a character is ASCII. -/
def isAscii (c : Char) : Bool := c.toNat < 0x80

/-- Decodes a text: the escapes in each run of ASCII are replaced, and `decode` reads the bytes of
that run; the characters between the runs stay. -/
def decodeRuns (decode : List UInt8 → List Char) (chars : List Char) : List Char :=
  (chars.splitBy fun a b => isAscii a == isAscii b).flatMap fun run =>
    if run.all isAscii then decode (unescape run) else run

/-- Where a request goes. -/
structure Target where
  scheme : List Char
  host : List Char
  /-- The path, which is empty or starts with exactly one slash. -/
  path : List Char
  query : List Char
deriving DecidableEq, Repr

namespace Target

/-- Why a text is no target. -/
inductive Fault where
  | authority (fault : Authority.Fault)
  | unencodable
deriving DecidableEq, Repr

/-- A path with one slash in front, unless it is empty. -/
def rooted (path : List Char) : List Char :=
  if path.isEmpty then [] else '/' :: path.dropWhile (· == '/')

/-- The target that a text names. The text is taken apart once for the host, and what remains of it
once more for the path. -/
def ofText? (t : Text) : Except Fault Target := do
  let split (chars : List Char) : Except Fault Url :=
    match Url.split? chars with
    | some url => .ok url
    | none => .error (.authority .malformed)
  let outer ← split t.toCharsLossy
  let query := if outer.query.isEmpty then [] else '?' :: outer.query
  let inner ← split (outer.path ++ query)
  let last ← split inner.path
  let path ← last.text.mapError .authority
  let scheme := if outer.scheme.isEmpty then "http".toList else outer.scheme
  let host ←
    if outer.authority.isEmpty then pure "localhost".toList
    else (Authority.plain outer.authority).mapError .authority
  if (t.glyphs.takeWhile (· != .char '#')).all fun g => g.toChar?.isSome then
    return { scheme, host := Authority.withoutOwnPort scheme host
             path := rooted (Utf8.decodeLossy (unescape path)), query := inner.query }
  else throw .unencodable

/-- Whether the target asks for a connection that stays open in both directions. -/
def isSocket (target : Target) : Bool :=
  target.scheme == "ws".toList || target.scheme == "wss".toList

/-- Whether the host is a name, also where a user stands in front of it. -/
def isNamed (target : Target) : Bool := Authority.isName (cutAt ':' target.host).1

/-- The target as a URL at another path. -/
def urlAt (target : Target) (path : List Char) : List Char :=
  target.scheme ++ "://".toList ++ target.host.map Char.toLower ++ path ++
    (if target.query.isEmpty then [] else '?' :: target.query)

end Target

end ScanLauncher.Http
