import ScanLauncher.Value.Basic

/-!
Scan requests: what a caller asks for, made safe to hand on, and the command that it becomes.
-/
namespace ScanLauncher

/-- The marks that a URL may carry besides letters and digits. -/
def urlMarks : List Char := "$-_.+!*\x27(),\x7b\x7d|\\^~[]\x60<>#%\x22;/?:@&=".toList

/-- A character that a URL may carry. -/
def isUrlChar (c : Char) : Bool := c.isAlphanum || urlMarks.contains c

/-- A text without the characters that no URL carries. Whether it is a URL is not checked. -/
def sanitizeUrl (raw : Text) : Text := ⟨raw.glyphs.filter (·.isIn isUrlChar)⟩

/-- The parameters of one run of the analysis script. -/
structure ScanRequest where
  sourceUrl : Text
  revision : Text := "HEAD"
  subdirFilter : Text := "."
deriving DecidableEq, Repr

namespace ScanRequest

/-- A text, or a fallback for one that is missing or empty. -/
def orElse (given : Option Text) (fallback : Text) : Text :=
  match given with
  | some s => if s.isEmpty then fallback else s
  | none => fallback

/-- A request from what a caller gave. It never fails: what is missing or empty takes its fallback.
-/
def normalize (url revision subdir : Option Text) : ScanRequest :=
  { sourceUrl := sanitizeUrl (url.getD "")
    revision := orElse revision "HEAD"
    subdirFilter := orElse subdir "." }

/-- The command of a request: an optional interpreter, the script and its four arguments, each a
separate item, so that no shell ever reads them. -/
def command (request : ScanRequest) (executable outputRoot : Text)
    (interpreter : Option Value) : List Value :=
  let script := [executable, request.sourceUrl, outputRoot, request.revision,
    request.subdirFilter].map Value.text
  match interpreter with
  | some program => if program.isGiven then program :: script else script
  | none => script

end ScanRequest

end ScanLauncher
