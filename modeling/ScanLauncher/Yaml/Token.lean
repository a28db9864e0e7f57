import ScanLauncher.Text.Basic

/-!
The tokens of a YAML text: indicators, node properties and scalars, with the block structure that
indentation implies made explicit.
-/
namespace ScanLauncher.Yaml

/-- A directive at the head of a document. -/
inductive Directive where
  | version (major minor : Nat)
  | tagHandle (handle expansion : String)
  | other
deriving DecidableEq, Repr

/-- A token. A scalar is plain if it was written without quotes and not as a block. -/
inductive Token where
  | streamEnd
  | directive (d : Directive)
  | documentStart
  | documentEnd
  | blockSequenceStart
  | blockMappingStart
  | blockEnd
  | flowSequenceStart
  | flowSequenceEnd
  | flowMappingStart
  | flowMappingEnd
  | blockEntry
  | flowEntry
  | key
  | value
  | alias (name : String)
  | anchor (name : String)
  | tag (handle : Option String) (suffix : String)
  | scalar (text : Text) (plain : Bool)
deriving DecidableEq, Repr

end ScanLauncher.Yaml
