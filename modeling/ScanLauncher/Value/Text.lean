import ScanLauncher.Number.Decimal
import ScanLauncher.Number.Numeral
import ScanLauncher.Text.Quoted
import ScanLauncher.Value.Basic

/-!
Values as text: `Value.nested?` inside a larger value, where texts are quoted, and `Value.plain?` on
its own, where they are not. An integer of too many digits has no text, and neither has a value that
holds one.
-/
namespace ScanLauncher

namespace Value

mutual

/-- A value as it appears inside another one. -/
def nested? : Value → Option Text
  | null => some "None"
  | bool b => some (if b then "True" else "False" : String)
  | int n => (Numeral.ofInt? n).map Text.ofString
  | float x _ => some x.text
  | text s => some (Text.quoted s)
  | bytes content => some (Text.quotedBytes content)
  | date d => some d.constructorText
  | moment m => some m.constructorText
  | list items => do return "[" ++ Text.intercalate ", " (← nestedItems? items) ++ "]"
  | pair first second => do
    return "(" ++ (← nested? first) ++ ", " ++ (← nested? second) ++ ")"
  | map entries => do
    return "\x7b" ++ Text.intercalate ", " (← nestedEntries? entries) ++ "\x7d"
  | set [] => some "set()"
  | set items => do return "\x7b" ++ Text.intercalate ", " (← nestedItems? items) ++ "\x7d"
  | cycle isMap => some (if isMap then "\x7b...\x7d" else "[...]" : String)

/-- The items of a list, each shown. -/
def nestedItems? : List Value → Option (List Text)
  | [] => some []
  | item :: rest => do return (← nested? item) :: (← nestedItems? rest)

/-- The entries of a mapping, each shown as key and value. -/
def nestedEntries? : List (Value × Value) → Option (List Text)
  | [] => some []
  | (key, value) :: rest => do
    return ((← nested? key) ++ ": " ++ (← nested? value)) :: (← nestedEntries? rest)

end

/-- A value on its own: a text as it is, a date in digits, all else as inside another value. -/
def plain? : Value → Option Text
  | text s => some s
  | date d => some d.text
  | moment m => some (m.text " ")
  | v => v.nested?

end Value

end ScanLauncher
