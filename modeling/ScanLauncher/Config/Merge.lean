import ScanLauncher.Value.Basic

/-!
Layers of configuration. A layer laid over another one replaces what it names, except that two
mappings under one key are merged in turn.
-/
namespace ScanLauncher.Config

mutual

/-- The entries of `base` with those of `overlay` laid over them. Keys that `base` has keep their
place; the others follow in the order of `overlay`. -/
def merge (base : Entries) : (overlay : List (Value × Value)) → Entries
  | [] => base
  | (key, value) :: rest => merge (base.insert key (mergeValue (base.get? key) value)) rest

/-- The value under a key that `overlay` names: two mappings are merged, anything else is replaced.
-/
def mergeValue (base : Option Value) : (overlay : Value) → Value
  | .map entries =>
    match base with
    | some (.map below) => .map (merge below entries)
    | _ => .map entries
  | value => value

end

end ScanLauncher.Config
