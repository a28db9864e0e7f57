import ScanLauncher.Number.Binary64
import ScanLauncher.Text.Basic
import ScanLauncher.Value.Calendar

/-!
Configuration data: the values a configuration document can hold. A mapping keeps its entries in
insertion order, and its keys are values too.
-/
namespace ScanLauncher

/-- One configuration value. `pair` occurs only inside lists of ordered pairs. The label of a double
tells NaNs apart: two of them are one key only if they share a label other than zero. `cycle` stands
where a collection that holds itself is met again. -/
inductive Value where
  | null
  | bool (b : Bool)
  | int (n : Int)
  | float (x : Binary64) (label : Nat)
  | text (s : Text)
  | bytes (content : List UInt8)
  | date (d : Date)
  | moment (m : Moment)
  | list (items : List Value)
  | pair (first second : Value)
  | map (entries : List (Value × Value))
  | set (items : List Value)
  | cycle (isMap : Bool)
deriving Repr

/-- The entries of a mapping, in order. -/
abbrev Entries := List (Value × Value)

namespace Value

instance : Inhabited Value := ⟨null⟩

/-- A key that is a truth value counts as the number 0 or 1. -/
def asNumber : Value → Value
  | bool b => int (if b then 1 else 0)
  | v => v

/-- The label of the NaNs that a document spells out. -/
def nanLabel : Nat := 1

/-- Whether two doubles are the same key: they are equal, or one NaN under its label. -/
def sameFloat (x : Binary64) (label : Nat) (y : Binary64) (other : Nat) : Bool :=
  x.compare? y == some .eq || (x == .nan && y == .nan && label == other && label != 0)

/-- Whether two values are the same key. Numbers are compared by value, whatever their kind; values
that cannot be keys are no key's equal. -/
def sameKey (a b : Value) : Bool :=
  match a.asNumber, b.asNumber with
  | null, null => true
  | int m, int n => m == n
  | int n, float x _ | float x _, int n => x.compareInt? n == some .eq
  | float x label, float y other => sameFloat x label y other
  | text s, text t => s == t
  | bytes s, bytes t => s == t
  | date d, date e => d == e
  | moment m, moment n => m.same n
  | _, _ => false

/-- Whether a value counts as given: neither null, false, zero nor empty. -/
def isGiven : Value → Bool
  | null => false
  | bool b => b
  | int n => n != 0
  | float x _ => !x.isZero
  | text s => !s.isEmpty
  | bytes content => !content.isEmpty
  | list items | set items => !items.isEmpty
  | map entries => !entries.isEmpty
  | date _ | moment _ | pair _ _ | cycle _ => true

/-- The word for a value's kind in messages. -/
def kind : Value → String
  | null => "NoneType"
  | bool _ => "bool"
  | int _ => "int"
  | float _ _ => "float"
  | text _ => "str"
  | bytes _ => "bytes"
  | date _ => "date"
  | moment _ => "datetime"
  | list _ => "list"
  | pair _ _ => "tuple"
  | map _ => "dict"
  | set _ => "set"
  | cycle isMap => if isMap then "dict" else "list"

end Value

namespace Entries

/-- The value of the first entry whose key is `key`. -/
def get? (entries : Entries) (key : Value) : Option Value :=
  (entries.find? fun entry => entry.1.sameKey key).map (·.2)

/-- The value under a text key. -/
def field? (entries : Entries) (name : Text) : Option Value := entries.get? (.text name)

/-- Sets the value under a key: in place if the key is there, else as a new last entry. The key that
was there first stays. -/
def insert (entries : Entries) (key value : Value) : Entries :=
  match entries with
  | [] => [(key, value)]
  | (k, v) :: rest =>
    if k.sameKey key then (k, value) :: rest else (k, v) :: Entries.insert rest key value

/-- The entries that remain when pairs are inserted in order. -/
def ofPairs (pairs : List (Value × Value)) : Entries :=
  pairs.foldl (fun entries entry => Entries.insert entries entry.1 entry.2) []

end Entries

end ScanLauncher
