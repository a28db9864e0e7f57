import ScanLauncher.Shell.Token
import ScanLauncher.Text.Digit

/-!
Arithmetic in shell programs: integers of sixty-four bits, the usual operators, and variables that
can be assigned to.
-/
namespace ScanLauncher.Shell

namespace Arithmetic

/-- Why an expression has no value. -/
inductive Fault where
  | noOperand
  /-- The expression ends, and yet more follows. -/
  | notAtEnd
  /-- A sign is missing. -/
  | missing (sign : Char)
  | divisionByZero
  /-- A variable holds a text that is no number. -/
  | notNumber (text : String)
deriving DecidableEq, Repr

namespace Fault

/-- The fault of an expression in words. -/
def message (fault : Fault) (expression : String) : String :=
  let about (reason : String) : String :=
    "arithmetic expression: " ++ reason ++ ": \"" ++ expression ++ "\""
  match fault with
  | noOperand => about "expecting primary"
  | notAtEnd => about "expecting EOF"
  | missing sign => about ("expecting '" ++ String.ofList [sign] ++ "'")
  | divisionByZero => about "division by zero"
  | notNumber text => "Illegal number: " ++ text

end Fault

/-- What is left of an expression, and the variables so far. -/
structure Progress where
  rest : List Char
  bindings : List (String × String)

/-- A reader of expressions. -/
abbrev Reader := StateT Progress (Except Fault)

/-- The number in sixty-four bits. -/
def wrap (n : Int) : Int := Int.bmod n 0x10000000000000000

/-- The largest number. -/
def largest : Int := 0x7FFFFFFFFFFFFFFF

/-- A blank in an expression or around a number. -/
def isBlank (c : Char) : Bool := c == ' ' || c == '\t' || c == '\n'

/-- Skips blanks. -/
def skipBlanks : Reader Unit := modify fun p => { p with rest := p.rest.dropWhile isBlank }

/-- The number that the digits at the front of a text spell, and what follows them: hexadecimal
after a zero and an x, octal after a zero. -/
def takeNumber (chars : List Char) : Nat × List Char :=
  let inBase (base : Nat) (chars : List Char) : Nat × List Char :=
    let isDigit (c : Char) : Bool := (Text.hexValue? c).any (· < base)
    ((chars.takeWhile isDigit).foldl (fun n c => n * base + (Text.hexValue? c).getD 0) 0,
      chars.dropWhile isDigit)
  match chars with
  | '0' :: x :: c :: rest =>
    if (x == 'x' || x == 'X') && (Text.hexValue? c).isSome then inBase 16 (c :: rest)
    else inBase 8 chars
  | '0' :: rest => inBase 8 rest
  | chars => inBase 10 chars

/-- The number that a text spells as a whole, between blanks; a text of blanks is zero. -/
def numberOf? (text : String) : Option Int :=
  let chars := text.toList.dropWhile isBlank
  let (isNegative, digits) :=
    match chars with
    | '-' :: digits => (true, digits)
    | '+' :: digits => (false, digits)
    | digits => (false, digits)
  let (n, rest) := takeNumber digits
  let value : Int := if isNegative then -(n : Int) else n
  if chars.isEmpty then some 0
  else if (digits.head?.any Char.isDigit) && rest.all isBlank && value == wrap value then some value
  else none

/-- The number that a variable holds: none is zero. -/
def valueOf (bindings : List (String × String)) (name : String) : Except Fault Int :=
  let text := (bindings.lookup name).getD ""
  (numberOf? text).elim (.error (.notNumber text)) .ok

/-- Gives a variable a value. -/
def assign (name : String) (value : Int) : Reader Unit :=
  modify fun p =>
    { p with
      bindings := (name, Text.decimalInt value) :: p.bindings.filter (·.1 != name) }

/-- The operators that take two numbers and need both, those that bind least first. -/
def levels : List (List String) := [
  ["|"], ["^"], ["&"], ["==", "!="], ["<=", ">=", "<", ">"], ["<<", ">>"], ["+", "-"],
  ["*", "/", "%"]]

/-- What is not the operator it begins with, but a longer one or an assignment. -/
def isLonger (operator : String) (rest : List Char) : Bool :=
  match rest.head? with
  | some c =>
    (c == '=' && !(["==", "!=", "<=", ">=", "||", "&&", "?", ":"].contains operator)) ||
      ((operator == "|" || operator == "&" || operator == "<" || operator == ">") &&
        operator.toList == [c])
  | none => false

/-- One as true and zero as false. -/
def ofBool (b : Bool) : Int := if b then 1 else 0

/-- Two numbers under an operator. -/
def apply (operator : String) (a b : Int) : Except Fault Int :=
  match operator with
  | "==" => .ok (ofBool (a == b))
  | "!=" => .ok (ofBool (a != b))
  | "<=" => .ok (ofBool (a ≤ b))
  | ">=" => .ok (ofBool (b ≤ a))
  | "<" => .ok (ofBool (a < b))
  | ">" => .ok (ofBool (b < a))
  | "+" => .ok (wrap (a + b))
  | "-" => .ok (wrap (a - b))
  | "*" => .ok (wrap (a * b))
  | "/" => if b == 0 then .error .divisionByZero else .ok (wrap (a.tdiv b))
  | "%" => if b == 0 then .error .divisionByZero else .ok (wrap (a.tmod b))
  | "<<" => .ok (Int64.ofInt a <<< Int64.ofInt b).toInt
  | ">>" => .ok (Int64.ofInt a >>> Int64.ofInt b).toInt
  | "&" => .ok (Int64.ofInt a &&& Int64.ofInt b).toInt
  | "|" => .ok (Int64.ofInt a ||| Int64.ofInt b).toInt
  | _ => .ok (Int64.ofInt a ^^^ Int64.ofInt b).toInt

/-- The operator of a level that comes next. -/
def takeOperator (operators : List String) : Reader (Option String) := do
  skipBlanks
  match Token.takeOneOf operators (← get).rest with
  | some (operator, rest) =>
    if isLonger operator rest then return none
    modify fun p => { p with rest }
    return some operator
  | none => return none

/-- Takes a sign, which must come next. -/
def demand (sign : Char) : Reader Unit := do
  skipBlanks
  match (← get).rest with
  | c :: rest => if c == sign then modify fun p => { p with rest } else throw (.missing sign)
  | [] => throw (.missing sign)

/-- The operators that change a variable. -/
def assignments : List String :=
  ["<<=", ">>=", "+=", "-=", "*=", "/=", "%=", "&=", "|=", "^=", "="]

/-- The variable at the front of a text, and what follows it. -/
def takeVariable? (chars : List Char) : Option (String × List Char) :=
  if chars.head?.any Char.isDigit then none
  else
    let name := chars.takeWhile Word.isNameChar
    if name.isEmpty then none else some (String.ofList name, chars.drop name.length)

/-- The assignment that comes next: a variable, and an equals sign with an operator before it or
none. -/
def takeAssignment : Reader (Option (String × String)) := do
  skipBlanks
  match takeVariable? (← get).rest with
  | none => return none
  | some (name, rest) =>
    match Token.takeOneOf assignments (rest.dropWhile isBlank) with
    | some ("=", '=' :: _) | none => return none
    | some (operator, rest) =>
      modify fun p => { p with rest }
      return some (name, String.ofList operator.toList.dropLast)

mutual

/-- Reads an assignment or a plain value. What is idle has no effect and no faults of its numbers.
-/
def readAssignment (fuel : Nat) (isIdle : Bool) : Reader Int :=
  match fuel with
  | 0 => throw .noOperand
  | fuel + 1 => do
    match ← takeAssignment with
    | none => readChoice fuel isIdle
    | some (name, operator) =>
      let value ← readAssignment fuel isIdle
      if isIdle then return value
      let value ←
        if operator.isEmpty then pure value
        else do apply operator (← valueOf (← get).bindings name) value
      assign name value
      return value

/-- Reads a choice between two values, or a plain value. The value that is not chosen is idle. -/
def readChoice (fuel : Nat) (isIdle : Bool) : Reader Int :=
  match fuel with
  | 0 => throw .noOperand
  | fuel + 1 => do
    let condition ← readEither fuel isIdle
    match ← takeOperator ["?"] with
    | none => return condition
    | some _ =>
      let first ← readAssignment fuel (isIdle || condition == 0)
      demand ':'
      let second ← readChoice fuel (isIdle || condition != 0)
      return if condition != 0 then first else second

/-- Reads values of which one must be true. After a true one the others are idle. -/
def readEither (fuel : Nat) (isIdle : Bool) : Reader Int :=
  match fuel with
  | 0 => throw .noOperand
  | fuel + 1 => do
    let first ← readBoth fuel isIdle
    match ← takeOperator ["||"] with
    | none => return first
    | some _ =>
      let second ← readEither fuel (isIdle || first != 0)
      return ofBool (first != 0 || second != 0)

/-- Reads values of which all must be true. After a false one the others are idle. -/
def readBoth (fuel : Nat) (isIdle : Bool) : Reader Int :=
  match fuel with
  | 0 => throw .noOperand
  | fuel + 1 => do
    let first ← readLevel fuel isIdle levels
    match ← takeOperator ["&&"] with
    | none => return first
    | some _ =>
      let second ← readBoth fuel (isIdle || first == 0)
      return ofBool (first != 0 && second != 0)

/-- Reads operands joined by the operators of some levels. -/
def readLevel (fuel : Nat) (isIdle : Bool) (levels : List (List String)) : Reader Int :=
  match fuel with
  | 0 => throw .noOperand
  | fuel + 1 =>
    match levels with
    | [] => readOperand fuel isIdle
    | operators :: tighter => do
      let first ← readLevel fuel isIdle tighter
      readMore fuel isIdle operators tighter first

/-- Reads what is joined to a first operand by the operators of one level. -/
def readMore (fuel : Nat) (isIdle : Bool) (operators : List String) (tighter : List (List String))
    (first : Int) : Reader Int :=
  match fuel with
  | 0 => throw .noOperand
  | fuel + 1 => do
    match ← takeOperator operators with
    | none => return first
    | some operator =>
      let second ← readLevel fuel isIdle tighter
      let value ← if isIdle then pure second else apply operator first second
      readMore fuel isIdle operators tighter value

/-- Reads one operand: a sign and an operand, parentheses, a number or a variable. -/
def readOperand (fuel : Nat) (isIdle : Bool) : Reader Int :=
  match fuel with
  | 0 => throw .noOperand
  | fuel + 1 => do
    skipBlanks
    let all := (← get).rest
    let pass (rest : List Char) : Reader Unit := modify fun p => { p with rest }
    match all with
    | '-' :: rest =>
      pass rest
      return wrap (-(← readOperand fuel isIdle))
    | '+' :: rest =>
      pass rest
      readOperand fuel isIdle
    | '!' :: rest =>
      pass rest
      return ofBool ((← readOperand fuel isIdle) == 0)
    | '~' :: rest =>
      pass rest
      return -(← readOperand fuel isIdle) - 1
    | '(' :: rest =>
      pass rest
      let value ← readAssignment fuel isIdle
      demand ')'
      return value
    | all =>
      if all.head?.any Char.isDigit then
        let (n, rest) := takeNumber all
        pass rest
        return min n largest
      match takeVariable? all with
      | none => throw .noOperand
      | some (name, rest) =>
        pass rest
        if isIdle then return 0 else valueOf (← get).bindings name

end

/-- The value of an expression, and the variables after it. An empty one is zero. -/
def evaluate (bindings : List (String × String)) (chars : List Char) :
    Except Fault (Int × List (String × String)) :=
  if chars.all isBlank then .ok (0, bindings)
  else
    match (readAssignment (24 * chars.length + 24) false).run ⟨chars, bindings⟩ with
    | .error fault => .error fault
    | .ok (value, progress) =>
      if progress.rest.all isBlank then .ok (value, progress.bindings) else .error .notAtEnd

end Arithmetic

end ScanLauncher.Shell
