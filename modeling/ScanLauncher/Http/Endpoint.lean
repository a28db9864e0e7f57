import ScanLauncher.Http.Form
import ScanLauncher.Run.Body

/-!
The endpoint: a POST runs one scan and streams its body. Any other method starts nothing. The first
item of a response is made while the request is handled, the others as they are taken.
-/
namespace ScanLauncher.Http

/-- A request. -/
structure Request where
  method : Text
  /-- The target, with its query. -/
  target : Text
  contentType : Text
  body : List UInt8
deriving DecidableEq, Repr

namespace Request

/-- The capitals of a letter, as far as methods are made of them. -/
def capitals (c : Char) : List Char :=
  match c with
  | 'ß' => ['S', 'S']
  | 'ı' => ['I']
  | 'ſ' => ['S']
  | 'ﬀ' => ['F', 'F']
  | 'ﬁ' => ['F', 'I']
  | 'ﬂ' => ['F', 'L']
  | 'ﬃ' => ['F', 'F', 'I']
  | 'ﬄ' => ['F', 'F', 'L']
  | 'ﬅ' => ['S', 'T']
  | 'ﬆ' => ['S', 'T']
  | c => [c.toUpper]

/-- The method in capitals; its case does not matter. -/
def verb (request : Request) : String :=
  String.ofList (request.method.toCharsLossy.flatMap capitals)

end Request

/-- Where the items of a response come from. -/
inductive Payload where
  | fixed (items : List (List UInt8))
  | live (body : Body)
deriving Repr

/-- A response that is being sent. -/
structure Response where
  status : Nat
  contentType : String
  /-- Whether proxies and caches are told to pass the body on as it comes. -/
  isStream : Bool := false
  /-- Items made and not yet taken. -/
  ready : List (List UInt8) := []
  payload : Payload
deriving Repr

namespace Response

/-- The type of pages. -/
def htmlType : String := "text/html; charset=utf-8"

/-- The type of error texts. -/
def textType : String := "text/plain; charset=utf-8"

/-- A page that is not written out. -/
def page (status : Nat) : Response := { status, contentType := htmlType, payload := .fixed [] }

/-- A page with a title and a paragraph. -/
def written (status : Nat) (title heading paragraph : String) : Response :=
  { page status with
    payload := .fixed [Utf8.encode ("<!doctype html>\n<html lang=en>\n<title>" ++ title ++
      "</title>\n<h1>" ++ heading ++ "</h1>\n<p>" ++ paragraph ++ "\n").toList] }

/-- The answer to a body that is too large. -/
def tooLarge : Response :=
  written 413 "413 Request Entity Too Large" "Request Entity Too Large"
    "The data value transmitted exceeds the capacity limit.</p>"

/-- The answer to a request to no host, or for another kind of connection. -/
def notUnderstood : Response :=
  written 400 "400 Bad Request" "Bad Request"
    "The browser (or proxy) sent a request that this server could not understand.</p>"

/-- A character of a page. -/
def escape (c : Char) : List Char :=
  match c with
  | '&' => "&amp;".toList
  | '<' => "&lt;".toList
  | '>' => "&gt;".toList
  | '\x27' => "&#39;".toList
  | '\x22' => "&#34;".toList
  | c => [c]

/-- The way to another URL. -/
def redirect (url : List Char) : Response :=
  let shown := String.ofList (url.flatMap escape)
  written 308 "Redirecting..." "Redirecting..."
    ("You should be redirected automatically to the target URL: <a href=\"" ++ shown ++ "\">" ++
      shown ++ "</a>. If not, click the link.")

/-- An error in words. -/
def error (status : Nat) (words : List UInt8) : Response :=
  { status, contentType := textType
    payload := .fixed [Utf8.encode "error: ".toList ++ words ++ [0x0A]] }

/-- A response without its body. -/
def headOnly (response : Response) : Response := { response with payload := .fixed [] }

/-- A run's body, with its first item made. -/
def stream (run : Run) : Act Response := do
  let (first, body) ← Body.next.runOn { run }
  let ready := (← Act.ofExcept id first).toList
  return { status := 200, contentType := htmlType, isStream := true, ready, payload := .live body }

/-- The next item from where the items come from. -/
def nextItem : ActOn Response (Option (List UInt8)) := do
  match (← get).payload with
  | .fixed [] => return none
  | .fixed (item :: rest) =>
    modify fun response => { response with payload := .fixed rest }
    return some item
  | .live body =>
    Body.next.part (fun _ => body) fun response body => { response with payload := .live body }

/-- The next item. -/
def next : ActOn Response (Option (List UInt8)) := do
  match (← get).ready with
  | item :: rest =>
    modify fun response => { response with ready := rest }
    return some item
  | [] => nextItem

/-- The next items, at most `count` of them, as one piece. -/
def take : (count : Nat) → ActOn Response (List UInt8)
  | 0 => return []
  | count + 1 => do
    match ← next with
    | some item => return item ++ (← take count)
    | none => return []

/-- More items than a response can still have. -/
def bound : ActOn Response Nat := do
  match (← get).payload with
  | .fixed items => return (← get).ready.length + items.length + 1
  | .live body => return (← get).ready.length + body.itemBound (← ActOn.lift get) + 1

/-- Closes the response: the body is given up, and then the run is closed, also if the body was
never begun. -/
def close : ActOn Response Unit := do
  match (← get).payload with
  | .fixed _ => return
  | .live body =>
    (do Body.close; Body.onRun Run.close : ActOn Body Unit).part (fun _ => body)
      fun response body => { response with payload := .live body }

/-- All items that are left; the response is closed after the last. -/
def takeAll : ActOn Response (List UInt8) := do
  let rest ← take (← bound)
  close
  return rest

end Response

/-- What is served at a path. -/
inductive Resource where
  | scans
  /-- Files that go with pages; there are none. -/
  | files
deriving DecidableEq, Repr

namespace Resource

/-- The methods that a resource takes. -/
def methods : Resource → List String
  | scans => ["GET", "HEAD", "POST", "PUT", "DELETE", "PATCH", "OPTIONS"]
  | files => ["GET", "HEAD", "OPTIONS"]

/-- Whether what follows the directory of files names one: it starts with no slash, and no line
ends in it. -/
def isFileName : List Char → Bool
  | [] => false
  | c :: rest => c != '/' && !rest.contains '\n'

/-- What is served at a path. -/
def at? (path : List Char) : Option Resource :=
  let folder := "/static/".toList
  if path == "/".toList || path == "/process_input.php".toList then some scans
  else if folder.isPrefixOf path && isFileName (path.drop folder.length) then some files
  else none

end Resource

/-- Where a request leads to. -/
inductive Route where
  | served (resource : Resource)
  /-- The resource is at another path. -/
  | moved (path : List Char)
  | wrongMethod
  /-- The host has no name, or the resource takes no connections that stay open. -/
  | notUnderstood
  | missing
deriving DecidableEq, Repr

namespace Route

/-- Replaces every two slashes by one. -/
def mergeSlashes : List Char → List Char
  | '/' :: '/' :: rest => '/' :: mergeSlashes rest
  | c :: rest => c :: mergeSlashes rest
  | [] => []

/-- A path with escapes, as a redirection names it. -/
def escapePath (path : List Char) : List Char :=
  escapeUnless (fun c => isUnreserved c || "!$&\x27()*+,/:;=@".contains c) path

/-- The route to a resource, which is `found` if the resource takes such a request. -/
def toResource (resource : Resource) (verb : String) (isSocket : Bool) (found : Route) : Route :=
  if !resource.methods.contains verb then .wrongMethod
  else if isSocket then .notUnderstood
  else found

/-- The route of a path and a method. A path with doubled slashes leads to the one without. -/
def ofPath (path : List Char) (verb : String) (isSocket : Bool) : Route :=
  match path, Resource.at? path with
  | [], _ =>
    if Resource.scans.methods.contains verb && !isSocket then .moved ['/'] else .missing
  | _, some resource => toResource resource verb isSocket (.served resource)
  | _, none =>
    let merged := mergeSlashes path
    match Resource.at? merged with
    | some resource => toResource resource verb isSocket (.moved (escapePath merged))
    | none => .missing

/-- The route of a target and a method. -/
def of (target : Target) (verb : String) : Route :=
  if target.isNamed then ofPath target.path verb target.isSocket else .notUnderstood

end Route

namespace Endpoint

/-- Opens the endpoint. -/
def create (config : Config) : Act Unit :=
  Act.log .debug .endpoint ("App created, report directory " ++ config.reportDir.text)

/-- Starts a scan with the fields of a form; a missing field is empty. -/
def startScan (config : Config) (form : Form) : Act Run := do
  let field (name : String) : Option Text := some ((form.get? name).getD "")
  let (started, run) ←
    (Run.start (field "url") (field "hash") (field "subdir")).runOn { config }
  Act.ofExcept id started
  return run

/-- Notes that a request met a failure that has no answer of its own. -/
def crash (path : List Char) (verb : String) : Act Response := do
  Act.log .error .endpoint
    ("Exception on " ++ Text.ofChars path ++ " [" ++ verb ++ "]")
  return .page 500

/-- Answers a POST. A rejected scan and a failed launch are answered in words; any other failure is
noted. -/
def post (config : Config) (path : List Char) (request : Request) : Act Response := do
  match Form.ofBody? request.contentType request.body with
  | none => return .tooLarge
  | some form =>
    match ← (startScan config form).attempt with
    | .ok run => Response.stream run
    | .error .busy => return .error 409 (Utf8.encode Failure.busyMessage.toList)
    | .error (.launch message) =>
      match message.toUtf8? with
      | some words => return .error 500 words
      | none => crash path request.verb
    | .error _ => crash path request.verb

/-- Answers a request whose target is known. -/
def answer (config : Config) (target : Target) (request : Request) : Act Response := do
  let bare (response : Response) : Response :=
    if request.verb == "HEAD" then response.headOnly else response
  match Route.of target request.verb with
  | .missing => return .page 404
  | .wrongMethod => return .page 405
  | .notUnderstood => return bare .notUnderstood
  | .moved path => return bare (.redirect (target.urlAt path))
  | .served .files => return .page (if request.verb == "OPTIONS" then 200 else 404)
  | .served .scans =>
    if request.verb == "POST" then post config target.path request else return .page 200

/-- Answers a request. It has to have a target, and a header is one line. -/
def handle (config : Config) (request : Request) : Act Response := do
  match Target.ofText? request.target with
  | .error (.authority .malformed) => throw .badRequest
  | .error (.authority .noName) => throw .badHost
  | .error .unencodable => throw .notEncodable
  | .ok target =>
    if request.contentType.contains '\n' || request.contentType.contains '\r' then
      throw .badRequest
    else answer config target request

end Endpoint

end ScanLauncher.Http
