import ScanLauncher.Files.Walk
import ScanLauncher.Shell.Integer

/-!
Conditions on texts, numbers and files, as a row of words spells them: operands, operators that
stand before one operand or between two, and words that join conditions. Whether a word is an
operator depends on the words that follow it.
-/
namespace ScanLauncher.Shell.Predicate

/-- Why a condition has no answer. -/
inductive Fault where
  | notNumber (text : String)
  /-- Words are left over after this one. -/
  | leftOver (text : String)
  | noArgument (operator : String)
  | notClosed
deriving DecidableEq, Repr

namespace Fault

/-- The fault in words. -/
def message : Fault → String
  | notNumber text => "Illegal number: " ++ text
  | leftOver text => (if text.isEmpty then "" else text ++ ": ") ++ "unexpected operator"
  | noArgument operator => operator ++ ": argument expected"
  | notClosed => "closing paren expected"

end Fault

/-- What conditions are about. -/
structure Scene where
  files : FileSystem
  /-- Whether a path leads to a program of the system. -/
  isProgram : String → Bool
  /-- Whether two equals signs mean the same as one. -/
  knowsDouble : Bool

/-- The part that a word can play. -/
inductive Role where
  | unary
  | binary
  | negation
  | both
  | either
  | opening
  | closing
deriving DecidableEq, Repr

/-- The part that a word plays where it is no operand. -/
def roleOf? (scene : Scene) (word : String) : Option Role :=
  let unary := ["-r", "-w", "-x", "-e", "-f", "-d", "-c", "-b", "-p", "-u", "-g", "-k", "-s", "-t",
    "-z", "-n", "-h", "-O", "-G", "-L", "-S"]
  let binary := ["=", "!=", "<", ">", "-eq", "-ne", "-ge", "-gt", "-le", "-lt", "-nt", "-ot", "-ef"]
  if unary.contains word then some .unary
  else if binary.contains word || (word == "==" && scene.knowsDouble) then some .binary
  else
    match word with
    | "!" => some .negation
    | "-a" => some .both
    | "-o" => some .either
    | "(" => some .opening
    | ")" => some .closing
    | _ => none

/-- Whether a word that may stand before an operand is itself one: it is at the end, or a comparison
follows. -/
def isOperand (scene : Scene) : List String → Bool
  | [] => true
  | [_] => false
  | next :: _ => roleOf? scene next == some .binary

/-- What the word at the front is. -/
inductive Token where
  | finish
  | operand
  | operator (role : Role)
deriving DecidableEq, Repr

/-- What the word at the front of some words is. -/
def token (scene : Scene) : List String → Token
  | [] => .finish
  | word :: rest =>
    match roleOf? scene word with
    | some .unary => if isOperand scene rest then .operand else .operator .unary
    | some .opening => if rest.isEmpty then .operand else .operator .opening
    | some role => .operator role
    | none => .operand

/-- The number that a text spells. -/
def numberOf (s : String) : Except Fault Int :=
  match Integer.of? s with
  | some n => .ok n
  | none => .error (.notNumber s)

/-- The directories that every system has. -/
def systemDirectories : List String :=
  ["/", "/bin", "/dev", "/etc", "/home", "/lib", "/proc", "/root", "/sbin", "/sys", "/tmp", "/usr",
    "/usr/bin", "/usr/lib", "/usr/local", "/usr/local/bin", "/usr/sbin", "/var", "/var/tmp"]

/-- Whether a path leads to something that has a property. -/
def holds (scene : Scene) (follow : Bool) (path : String) (property : Entry → Bool) : Bool :=
  match scene.files.lookup follow (pathOf path) with
  | .ok (_, entry) => property entry
  | .error _ =>
    if scene.isProgram path then property (.file [0] true)
    else systemDirectories.contains path && property .directory

/-- The devices that every system has. -/
def isDevice (path : String) : Bool :=
  ["/dev/null", "/dev/zero", "/dev/full", "/dev/random", "/dev/urandom", "/dev/tty"].contains path

/-- A condition on one text. -/
def unary (scene : Scene) (operator operand : String) : Except Fault Bool :=
  match operator with
  | "-n" => .ok (!operand.isEmpty)
  | "-z" => .ok operand.isEmpty
  | "-e" | "-r" | "-w" | "-O" | "-G" =>
    .ok (isDevice operand || holds scene true operand fun _ => true)
  | "-c" => .ok (isDevice operand)
  | "-f" => .ok (holds scene true operand Entry.isRegular)
  | "-d" => .ok (holds scene true operand Entry.isDirectory)
  | "-L" | "-h" => .ok (holds scene false operand Entry.isLink)
  | "-p" => .ok (holds scene true operand (· == .fifo))
  | "-s" => .ok (holds scene true operand fun
    | .file content _ => !content.isEmpty
    | entry => entry.isDirectory)
  | "-x" => .ok (holds scene true operand fun
    | .file _ isExecutable => isExecutable
    | entry => entry.isDirectory)
  | "-t" => do
    let _ ← numberOf operand
    return false
  | _ => .ok false

/-- A condition on two texts. -/
def binary (scene : Scene) (operator a b : String) : Except Fault Bool :=
  let numbers (compare : Int → Int → Bool) : Except Fault Bool := do
    return compare (← numberOf a) (← numberOf b)
  match operator with
  | "=" | "==" => .ok (a == b)
  | "!=" => .ok (a != b)
  | "<" => .ok (decide (a < b))
  | ">" => .ok (decide (b < a))
  | "-eq" => numbers (· == ·)
  | "-ne" => numbers (· != ·)
  | "-lt" => numbers fun x y => x < y
  | "-le" => numbers fun x y => x ≤ y
  | "-gt" => numbers fun x y => y < x
  | "-ge" => numbers fun x y => y ≤ x
  | "-ef" =>
    match scene.files.locate true (pathOf a), scene.files.locate true (pathOf b) with
    | .ok first, .ok second => .ok (first == second && holds scene true a fun _ => true)
    | _, _ => .ok false
  | _ => .ok false

mutual

/-- Conditions of which one is enough. A reading begins with what the front is, and ends on the last
word that it took. -/
def either (fuel : Nat) (scene : Scene) (front : Token) (words : List String) :
    Except Fault (Bool × List String) :=
  match fuel with
  | 0 => .ok (false, [])
  | fuel + 1 => do
    let (first, words) ← both fuel scene front words
    if token scene words.tail == .operator .either then
      let words := words.drop 2
      let (second, words) ← either fuel scene (token scene words) words
      return (first || second, words)
    return (first, words)

/-- Conditions that are all needed. -/
def both (fuel : Nat) (scene : Scene) (front : Token) (words : List String) :
    Except Fault (Bool × List String) :=
  match fuel with
  | 0 => .ok (false, [])
  | fuel + 1 => do
    let (first, words) ← negated fuel scene front words
    if token scene words.tail == .operator .both then
      let words := words.drop 2
      let (second, words) ← both fuel scene (token scene words) words
      return (first && second, words)
    return (first, words)

/-- A condition that may be turned around. -/
def negated (fuel : Nat) (scene : Scene) (front : Token) (words : List String) :
    Except Fault (Bool × List String) :=
  match fuel with
  | 0 => .ok (false, [])
  | fuel + 1 => do
    if front == .operator .negation then
      let next := token scene words.tail
      let (answer, words) ← negated fuel scene next
        (if next == .finish then words else words.tail)
      return (!answer, words)
    primary fuel scene front words

/-- A single condition, or others in brackets. -/
def primary (fuel : Nat) (scene : Scene) (front : Token) (words : List String) :
    Except Fault (Bool × List String) :=
  match fuel with
  | 0 => .ok (false, [])
  | fuel + 1 =>
    match front, words with
    | .finish, _ | _, [] => .ok (false, words)
    | .operator .opening, _ :: rest => do
      let inner := token scene rest
      if inner == .operator .closing then return (false, rest)
      let (answer, words) ← either fuel scene inner rest
      if token scene words.tail == .operator .closing then return (answer, words.tail)
      throw .notClosed
    | .operator .unary, operator :: rest =>
      match rest with
      | [] => .error (.noArgument operator)
      | operand :: _ => do return (← unary scene operator operand, rest)
    | _, first :: rest =>
      match token scene rest, rest with
      | .operator .binary, operator :: after =>
        match after with
        | [] => .error (.noArgument operator)
        | second :: _ => do return (← binary scene operator first second, after)
      | _, _ => .ok (!first.isEmpty, words)

end

/-- Reads all words; the last one that a condition took must be the last of all. -/
def whole (scene : Scene) (isNegated : Bool) (front : Token) (words : List String) :
    Except Fault Bool := do
  match ← either (4 * words.length + 8) scene front words with
  | (_, last :: _ :: _) => throw (.leftOver last)
  | (answer, _) => return answer != isNegated

/-- Whether the condition that some words spell holds. Three words around a comparison are that
comparison, whatever else they could mean. -/
def evaluate (scene : Scene) (isNegated : Bool) (words : List String) : Except Fault Bool :=
  let comparison := words.length == 3 && (words.drop 1).head?.bind (roleOf? scene) == some .binary
  let isShort := words.length == 3 || words.length == 4
  match words with
  | [] => .ok isNegated
  | first :: rest =>
    if comparison then whole scene isNegated .operand words
    else if isShort && first == "(" && rest.getLast? == some ")" then
      whole scene isNegated (token scene rest.dropLast) rest.dropLast
    else if isShort && first == "!" then evaluate scene true rest
    else whole scene isNegated (token scene words) words

end ScanLauncher.Shell.Predicate
