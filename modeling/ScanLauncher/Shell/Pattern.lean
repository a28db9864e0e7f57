import ScanLauncher.Files.Walk
import ScanLauncher.Shell.Octets

/-!
Patterns that texts and file names are held against: a star stands for anything, a question mark for
one character, brackets for one of several. What was quoted stands for itself.
-/
namespace ScanLauncher.Shell

/-- A part of a pattern. -/
inductive PatternPart where
  | literal (c : Char)
  | one
  | many
  /-- One character inside, or outside, some ranges. -/
  | oneOf (isNegated : Bool) (ranges : List (Char × Char))
deriving DecidableEq, Repr

/-- A pattern. -/
abbrev Pattern := List PatternPart

/-- Characters, each with whether it was quoted. -/
abbrev MarkedText := List (Char × Bool)

namespace Pattern

/-- The ranges written inside brackets. -/
def ranges : List Char → List (Char × Char)
  | a :: '-' :: b :: rest => (a, b) :: ranges rest
  | c :: rest => (c, c) :: ranges rest
  | [] => []

/-- The brackets at the front of a text, after the opening one, and what follows them. A closing
bracket right at the start stands for itself. -/
def takeBrackets (chars : MarkedText) : Option (PatternPart × MarkedText) :=
  let (isNegated, chars) :=
    match chars with
    | ('!', false) :: rest | ('^', false) :: rest => (true, rest)
    | chars => (false, chars)
  let (first, rest) := (chars.take 1, chars.drop 1)
  let inner := rest.takeWhile (·.1 != ']')
  match rest.drop inner.length with
  | _ :: after => some (.oneOf isNegated (ranges ((first ++ inner).map (·.1))), after)
  | [] => none

/-- The pattern that a text spells. -/
def ofMarked (fuel : Nat) (chars : MarkedText) : Pattern :=
  match fuel, chars with
  | 0, _ | _, [] => []
  | fuel + 1, (c, isQuoted) :: rest =>
    if isQuoted then .literal c :: ofMarked fuel rest
    else if c == '*' then .many :: ofMarked fuel rest
    else if c == '?' then .one :: ofMarked fuel rest
    else if c == '[' then
      match takeBrackets rest with
      | some (part, rest) => part :: ofMarked fuel rest
      | none => .literal c :: ofMarked fuel rest
    else .literal c :: ofMarked fuel rest

/-- The pattern that a whole text spells. -/
def ofText (chars : MarkedText) : Pattern := ofMarked chars.length chars

/-- Whether a text as a whole fits a pattern. -/
def fits : Pattern → List Char → Bool
  | [], chars => chars.isEmpty
  | .many :: parts, chars =>
    (List.range (chars.length + 1)).any fun n => fits parts (chars.drop n)
  | _ :: _, [] => false
  | .one :: parts, _ :: rest => fits parts rest
  | .literal c :: parts, d :: rest => c == d && fits parts rest
  | .oneOf isNegated ranges :: parts, d :: rest =>
    (ranges.any fun (a, b) => a ≤ d && d ≤ b) != isNegated && fits parts rest

/-- A text without the shortest, or longest, front that fits. -/
def dropFront (pattern : Pattern) (longest : Bool) (chars : List Char) : List Char :=
  let counts := List.range (chars.length + 1)
  let counts := if longest then counts.reverse else counts
  match counts.find? fun n => fits pattern (chars.take n) with
  | some n => chars.drop n
  | none => chars

/-- A text without the shortest, or longest, end that fits. -/
def dropEnd (pattern : Pattern) (longest : Bool) (chars : List Char) : List Char :=
  let counts := List.range (chars.length + 1)
  let counts := if longest then counts else counts.reverse
  match counts.find? fun n => fits pattern (chars.drop n) with
  | some n => chars.take n
  | none => chars

end Pattern

/-- Whether a text holds anything that makes it a pattern. -/
def hasPattern (chars : MarkedText) : Bool :=
  chars.any fun (c, isQuoted) => !isQuoted && "*?[".toList.contains c

/-- Texts in the order of their bytes. -/
def sortTexts (texts : List String) : List String :=
  texts.mergeSort fun a b => !List.lex b.toList a.toList fun c d => decide (c < d)

/-- The names in a directory that fit a pattern, in order. Names that start with a dot fit only a
pattern that does. -/
def namesIn (files : FileSystem) (directory : String) (chars : MarkedText) : List String :=
  let pattern := Pattern.ofText chars
  let place := if directory.isEmpty then "." else directory
  let entries := (files.list (pathOf place)).toOption.getD []
  let names := sortTexts (entries.map fun (name, _) => Shell.ofText name)
  names.filter fun name =>
    pattern.fits name.toList && (!name.startsWith "." || chars.head?.any (·.1 == '.'))

/-- The paths that fit a row of components, from a directory on. -/
def pathsFrom (files : FileSystem) (directory : String) : List MarkedText → List String
  | [] => [directory]
  | chars :: rest =>
    let next (name : String) : List String :=
      pathsFrom files (directory ++ name ++ if rest.isEmpty then "" else "/") rest
    if hasPattern chars then (namesIn files directory chars).flatMap next
    else next (String.ofList (chars.map (·.1)))

/-- The paths that fit a text, or the text itself where there are none. -/
def matchingPaths (files : FileSystem) (chars : MarkedText) : List String :=
  let plain := String.ofList (chars.map (·.1))
  if !hasPattern chars then [plain]
  else
    let found := (pathsFrom files "" (chars.splitOn ('/', false))).filter fun (path : String) =>
      (files.lookup false (pathOf path)).toOption.isSome
    if found.isEmpty then [plain] else found

end ScanLauncher.Shell
