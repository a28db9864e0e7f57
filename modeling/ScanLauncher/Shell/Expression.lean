import ScanLauncher.Shell.Integer
import ScanLauncher.Shell.Regex

/-!
Expressions whose operands and operators are words of their own. Sums bind closer than comparisons,
and products closer than sums.
-/
namespace ScanLauncher.Shell.Expression

/-- Why an expression has no value. -/
inductive Fault where
  | noOperand
  | missing (after : String)
  | unexpected (word : String)
  | notNumber
  | divisionByZero
deriving DecidableEq, Repr

namespace Fault

/-- The fault in words. -/
def message : Fault → String
  | noOperand => "missing operand\nTry 'expr --help' for more information."
  | missing word => "syntax error: missing argument after '" ++ word ++ "'"
  | unexpected word => "syntax error: unexpected argument '" ++ word ++ "'"
  | notNumber => "non-integer argument"
  | divisionByZero => "division by zero"

/-- The status that goes with a fault. -/
def status (_ : Fault) : Nat := 2

end Fault

/-- The operators, from those that bind least to those that bind most. -/
def levels : List (List String) :=
  [["|"], ["&"], ["<", "<=", "=", "==", "!=", ">=", ">"], ["+", "-"], ["*", "/", "%"], [":"]]

/-- The whole number of a word. -/
def numberOf? (s : String) : Option Int :=
  match s.toList with
  | '-' :: d :: rest => if (d :: rest).all Char.isDigit then Integer.of? s else none
  | d :: rest => if (d :: rest).all Char.isDigit then Integer.of? s else none
  | [] => none

/-- Whether a value counts as nothing. -/
def isNull (s : String) : Bool := s.isEmpty || numberOf? s == some 0

/-- The value of a comparison. -/
def comparison (operator : String) (order : Ordering) : Bool :=
  match operator with
  | "<" => order == .lt
  | "<=" => order != .gt
  | ">" => order == .gt
  | ">=" => order != .lt
  | "!=" => order != .eq
  | _ => order == .eq

/-- The value of an operator between two values. -/
def combine (operator a b : String) : Except Fault String :=
  let truth (p : Bool) : Except Fault String := .ok (if p then "1" else "0")
  let numbers (f : Int → Int → Int) : Except Fault String :=
    match numberOf? a, numberOf? b with
    | some x, some y => .ok (Text.decimalInt (f x y))
    | _, _ => .error .notNumber
  match operator with
  | "|" => .ok (if !isNull a then a else if !isNull b then b else "0")
  | "&" => .ok (if isNull a || isNull b then "0" else a)
  | "+" => numbers (· + ·)
  | "-" => numbers (· - ·)
  | "*" => numbers (· * ·)
  | "/" | "%" =>
    match numberOf? a, numberOf? b with
    | some x, some y =>
      if y == 0 then .error .divisionByZero
      else .ok (Text.decimalInt (if operator == "/" then x.tdiv y else x.tmod y))
    | _, _ => .error .notNumber
  | ":" =>
    match (Regex.ofChars ('^' :: b.toList)).find? a.toList with
    | some (_, taken, _) => .ok (Text.decimal taken.length)
    | none => .ok "0"
  | operator =>
    match numberOf? a, numberOf? b with
    | some x, some y => truth (comparison operator (compare x y))
    | _, _ => truth (comparison operator (compare a b))

mutual

/-- The value at the front of some words, of the operators from a level on. -/
def chain (fuel : Nat) (operators : List (List String)) (words : List String) (last : String) :
    Except Fault (String × List String) :=
  match fuel with
  | 0 => .error .noOperand
  | fuel + 1 =>
    match operators with
    | [] => operand fuel words last
    | here :: closer => do
      let (value, rest) ← chain fuel closer words last
      chainFrom fuel here closer value rest

/-- Combines a value with what follows it, from the left to the right. -/
def chainFrom (fuel : Nat) (here : List String) (closer : List (List String)) (value : String)
    (words : List String) : Except Fault (String × List String) :=
  match fuel with
  | 0 => .error .noOperand
  | fuel + 1 =>
    match words with
    | [] => .ok (value, [])
    | operator :: rest =>
      if here.contains operator then do
        let (second, rest) ← chain fuel closer rest operator
        chainFrom fuel here closer (← combine operator value second) rest
      else .ok (value, operator :: rest)

/-- A single value at the front of some words. -/
def operand (fuel : Nat) (words : List String) (last : String) :
    Except Fault (String × List String) :=
  match fuel with
  | 0 => .error .noOperand
  | fuel + 1 =>
    match words with
    | [] => .error (.missing last)
    | "(" :: rest => do
      match ← chain fuel levels rest "(" with
      | (value, ")" :: rest) => return (value, rest)
      | (_, word :: _) => throw (.unexpected word)
      | (_, []) => throw (.missing ((words.getLast?).getD "("))
    | "length" :: text :: rest => .ok (Text.decimal text.length, rest)
    | word :: rest => .ok (word, rest)

end

/-- The value of an expression. -/
def evaluate (words : List String) : Except Fault String :=
  if words.isEmpty then .error .noOperand
  else
    match chain (8 * words.length + 16) levels words "" with
    | .ok (value, []) => .ok value
    | .ok (_, word :: _) => .error (.unexpected word)
    | .error fault => .error fault

end ScanLauncher.Shell.Expression
