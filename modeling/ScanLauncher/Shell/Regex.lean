import ScanLauncher.Shell.Pattern

/-!
Regular expressions in their basic form: a point is any character, a star repeats what stands before
it, brackets choose, and two signs stand for the ends of a line.
-/
namespace ScanLauncher.Shell

/-- One character of a regular expression. -/
inductive RegexUnit where
  | literal (c : Char)
  | any
  | oneOf (isNegated : Bool) (ranges : List (Char × Char))
deriving DecidableEq, Repr

/-- A part of a regular expression. -/
inductive RegexPart where
  | once (u : RegexUnit)
  | star (u : RegexUnit)
  | lineEnd
deriving DecidableEq, Repr

/-- A regular expression, which may be tied to the start of a line. -/
structure Regex where
  isAnchored : Bool
  parts : List RegexPart
deriving DecidableEq, Repr

namespace Regex

/-- Whether a character fits a unit. -/
def fitsUnit (u : RegexUnit) (c : Char) : Bool :=
  match u with
  | .literal d => c == d
  | .any => true
  | .oneOf isNegated ranges => (ranges.any fun (a, b) => a ≤ c && c ≤ b) != isNegated

/-- The unit at the front of a text, and what follows. -/
def takeUnit : List Char → Option (RegexUnit × List Char)
  | [] => none
  | '.' :: rest => some (.any, rest)
  | '\\' :: c :: rest => some (.literal c, rest)
  | '[' :: rest =>
    match Pattern.takeBrackets (rest.map (·, false)) with
    | some (.oneOf isNegated ranges, rest) => some (.oneOf isNegated ranges, rest.map (·.1))
    | _ => some (.literal '[', rest)
  | c :: rest => some (.literal c, rest)

/-- The parts that a text spells. -/
def partsOf (fuel : Nat) (chars : List Char) : List RegexPart :=
  match fuel, chars with
  | 0, _ => []
  | _, ['$'] => [.lineEnd]
  | fuel + 1, chars =>
    match takeUnit chars with
    | none => []
    | some (u, '*' :: rest) => .star u :: partsOf fuel rest
    | some (u, rest) => .once u :: partsOf fuel rest

/-- The expression that a text spells. -/
def ofChars : List Char → Regex
  | '^' :: rest => ⟨true, partsOf rest.length rest⟩
  | chars => ⟨false, partsOf chars.length chars⟩

/-- What is left after the longest match at the front of a text. -/
def matchFront : List RegexPart → List Char → Option (List Char)
  | [], chars => some chars
  | .lineEnd :: parts, chars => if chars.isEmpty then matchFront parts chars else none
  | .once u :: parts, chars =>
    match chars with
    | c :: rest => if fitsUnit u c then matchFront parts rest else none
    | [] => none
  | .star u :: parts, chars =>
    let most := (chars.takeWhile (fitsUnit u)).length
    (List.range (most + 1)).reverse.findSome? fun n => matchFront parts (chars.drop n)

/-- The first match in a text: what stands before it, the match and what follows. -/
def find? (regex : Regex) (chars : List Char) : Option (List Char × List Char × List Char) :=
  let starts := if regex.isAnchored then [0] else List.range (chars.length + 1)
  starts.findSome? fun n =>
    (matchFront regex.parts (chars.drop n)).map fun rest =>
      (chars.take n, (chars.drop n).take (chars.length - n - rest.length), rest)

/-- A replacement with the match put in for its sign. -/
def fillIn (found : List Char) : List Char → List Char
  | [] => []
  | '\\' :: c :: rest => c :: fillIn found rest
  | '&' :: rest => found ++ fillIn found rest
  | c :: rest => c :: fillIn found rest

/-- A text with its matches replaced: the first `count` of them. -/
def replace (regex : Regex) (replacement : List Char) : (count : Nat) → List Char → List Char
  | 0, chars => chars
  | count + 1, chars =>
    match regex.find? chars with
    | none => chars
    | some (before, found, rest) =>
      let put := before ++ fillIn found replacement
      if found.isEmpty then
        match rest with
        | [] => put
        | c :: rest =>
          put ++ c :: if regex.isAnchored then rest else replace regex replacement count rest
      else put ++ if regex.isAnchored then rest else replace regex replacement count rest

end Regex

end ScanLauncher.Shell
