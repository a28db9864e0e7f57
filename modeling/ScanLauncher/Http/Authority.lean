import ScanLauncher.Text.Basic
import ScanLauncher.Text.Digit

/-!
The authority of a URL: the host that it names, with a user in front and a port behind. A host in
brackets is an address of eight groups of hexadecimal digits, or one of a later version.
-/
namespace ScanLauncher.Http

/-- A byte as an escape, in upper case. -/
def escapeByte (b : UInt8) : List Char := '%' :: (Text.hexPadded 2 b.toNat).map Char.toUpper

/-- A text in which only plain characters stand for themselves. -/
def escapeUnless (isPlain : Char → Bool) (chars : List Char) : List Char :=
  chars.flatMap fun c => if isPlain c then [c] else (Utf8.encodeChar c).flatMap escapeByte

/-- A character that no escape needs to stand for, wherever it stands. -/
def isUnreserved (c : Char) : Bool := c.isAlphanum || "_.-~".contains c

/-- Splits a text at the first of a character, which is dropped. Without one, nothing is behind. -/
def cutAt (mark : Char) (chars : List Char) : List Char × List Char :=
  (chars.takeWhile (· != mark), (chars.dropWhile (· != mark)).drop 1)

namespace Address

/-- A number of an address in decimal: up to 255, without a zero in front. -/
def isOctet (chars : List Char) : Bool :=
  !chars.isEmpty && chars.length ≤ 3 && chars.all Char.isDigit &&
    (chars.length == 1 || chars.head? != some '0') &&
    (String.ofList chars).toNat?.any (· ≤ 255)

/-- An address of four numbers. -/
def isQuad (chars : List Char) : Bool :=
  let parts := chars.splitOn '.'
  parts.length == 4 && parts.all isOctet

/-- A group of hexadecimal digits. -/
def isGroup (chars : List Char) : Bool :=
  !chars.isEmpty && chars.length ≤ 4 && chars.all fun c => (Text.hexValue? c).isSome

/-- The groups of an address; four numbers at its end stand for two groups. -/
def groups? (chars : List Char) : Option (List (List Char)) :=
  let parts := chars.splitOn ':'
  let final := parts.getLastD []
  if parts.length < 3 then none
  else if final.contains '.' then
    if isQuad final then some (parts.dropLast ++ [['0'], ['0']]) else none
  else some parts

/-- Whether groups make an address: eight of them, or fewer with one gap. A gap is an empty group
inside; at an end of the address, the group before or behind it is empty as well. -/
def areWhole (groups : List (List Char)) : Bool :=
  let inner := (groups.drop 1).dropLast
  let before := groups.take (1 + (inner.takeWhile (!·.isEmpty)).length)
  let after := groups.drop (before.length + 1)
  match inner.countP (·.isEmpty) with
  | 0 => groups.length == 8 && groups.all isGroup
  | 1 =>
    let before := if before == [[]] then [] else before
    let after := if after == [[]] then [] else after
    before.all isGroup && after.all isGroup && before.length + after.length < 8
  | _ => false

/-- An address of groups, which may name a zone after a percent sign. -/
def isGrouped (chars : List Char) : Bool :=
  let (address, zone) := cutAt '%' chars
  (!chars.contains '%' || (!zone.isEmpty && !zone.contains '%')) && (groups? address).any areWhole

/-- An address of a later version: a number in hexadecimal and more behind a dot. -/
def isFuture (chars : List Char) : Bool :=
  let (version, more) := cutAt '.' (chars.drop 1)
  !version.isEmpty && version.all (fun c => (Text.hexValue? c).isSome) && !more.isEmpty &&
    !more.contains '\n'

/-- What may stand in brackets. -/
def isBracketed (chars : List Char) : Bool :=
  if chars.head? == some 'v' then isFuture chars else isGrouped chars

end Address

namespace Authority

/-- Why an authority names no host. -/
inductive Fault where
  | malformed
  /-- The name of the host is no name. -/
  | noName
deriving DecidableEq, Repr

/-- Characters that look as if the authority ended there, or had a user or a port. -/
def misleading : List Char :=
  ['⁇', '⁈', '⁉', '℀', '℁', '℅', '℆', '⩴', '︓', '︖', '﹕', '﹖', '﹟', '﹫', '＃', '／', '：', '？',
    '＠']

/-- Whether a text can be an authority at all. -/
def isPossible (chars : List Char) : Bool :=
  let opens := chars.contains '['
  let inBrackets := (cutAt ']' (cutAt '[' chars).2).1
  opens == chars.contains ']' && (!opens || Address.isBracketed inBrackets) &&
    !chars.any misleading.contains

/-- The user in front of the last at sign, and what follows it. -/
def takeUser (chars : List Char) : List Char × List Char :=
  let host := (chars.reverse.takeWhile (· != '@')).reverse
  (chars.take (chars.length - host.length - 1), host)

/-- The host and the port, both as they are written. -/
def takeHost (chars : List Char) : List Char × List Char :=
  if chars.contains '[' then
    let (host, rest) := cutAt ']' (cutAt '[' chars).2
    (host, (cutAt ':' rest).2)
  else cutAt ':' chars

/-- A host in lower case, up to the zone of an address. -/
def lowerHost (host : List Char) : List Char :=
  (host.takeWhile (· != '%')).map Char.toLower ++ host.dropWhile (· != '%')

/-- Whether a host is made of labels that are neither empty nor too long; the last may be empty. -/
def isName (host : List Char) : Bool :=
  let labels := host.splitOn '.'
  labels.all (·.length < 64) && labels.dropLast.all (!·.isEmpty) && !host.contains '\uFFFD'

/-- A user with a password, escaped. -/
def escapeUser (user : List Char) : List Char :=
  let escape := escapeUnless fun c => isUnreserved c || "%!$&\x27()*+,;=".contains c
  let (name, password) := cutAt ':' user
  if name.isEmpty then []
  else escape name ++ (if password.isEmpty then [] else ':' :: escape password) ++ ['@']

/-- The port, none if it is missing or zero. -/
def port? (written : List Char) : Except Fault (Option Nat) :=
  if written.isEmpty then .ok none
  else
    match if written.all Char.isDigit then (String.ofList written).toNat? else none with
    | some port => if port ≤ 65535 then .ok (some port |>.filter (· != 0)) else .error .malformed
    | none => .error .malformed

/-- An authority in its plain form: the host in lower case, and the port without zeros in front. -/
def plain (chars : List Char) : Except Fault (List Char) := do
  let (user, rest) := takeUser chars
  let (host, written) := takeHost rest
  if !isName host then throw .noName
  let port ← port? written
  let host := lowerHost host
  return escapeUser user ++ (if host.contains ':' then '[' :: host ++ [']'] else host) ++
    (match port with | some port => ':' :: (Text.decimal port).toList | none => [])

/-- A host with its port, unless that is the one of the scheme. -/
def withoutOwnPort (scheme host : List Char) : List Char :=
  let own :=
    match String.ofList scheme with
    | "http" | "ws" => ":80".toList
    | "https" | "wss" => ":443".toList
    | _ => []
  if own.isSuffixOf host then host.take (host.length - own.length) else host

end Authority

end ScanLauncher.Http
