import ScanLauncher.Http.Multipart

/-!
Form fields in a request body. A body in URL encoding is cut at ampersands; one in parts is cut at
its boundary. A body that cannot be read has no fields at all.
-/
namespace ScanLauncher.Http

/-- The fields of a form, in order. -/
abbrev Form := List (String × String)

namespace Form

/-- The first value of a field. -/
def get? (form : Form) (name : String) : Option String := form.lookup name

/-- Bytes as text; a byte that belongs to no character is written as an escape. -/
def readable (bytes : List UInt8) : List Char := (Utf8.fold ([·]) escapeByte bytes).flatten

/-- Decodes a name or a value: a plus is a space, and escapes are replaced. -/
def decode (chars : List Char) : String :=
  String.ofList (decodeRuns readable (chars.map fun c => if c == '+' then ' ' else c))

/-- One field: its name ends at the first equals sign. -/
def ofPair (pair : List Char) : String × String :=
  (decode (pair.takeWhile (· != '=')), decode ((pair.dropWhile (· != '=')).drop 1))

/-- The fields of a body in URL encoding. -/
def ofUrlEncoded (body : List UInt8) : Form :=
  match Utf8.decode? body with
  | some chars => ((chars.splitOn '&').filter (!·.isEmpty)).map ofPair
  | none => []

/-- The fields of a body in parts, none if it is too large. -/
def ofMultipart? (boundary : List Char) (body : List UInt8) : Option Form :=
  if boundary.isEmpty || !boundary.all isAscii then some []
  else
    match Multipart.fields (Utf8.encode boundary) body with
    | .ok form => some form
    | .error .malformed => some []
    | .error .tooLarge => none

/-- The fields of a body, by its content type; none if it is too large. Only forms have fields. -/
def ofBody? (contentType : Text) (body : List UInt8) : Option Form :=
  let header := HeaderValue.ofChars contentType.toCharsLossy
  let kind := String.ofList (header.main.map Char.toLower)
  if kind == "application/x-www-form-urlencoded" then
    if body.length > Multipart.sizeLimit then none else some (ofUrlEncoded body)
  else if kind == "multipart/form-data" then
    ofMultipart? ((header.get? "boundary").getD []) body
  else some []

end Form

end ScanLauncher.Http
