import ScanLauncher.Shell.Arithmetic
import ScanLauncher.Shell.Pattern
import ScanLauncher.Shell.State

/-!
What words come to: parameters, numbers and the output of commands are put in, the result is cut
into fields where it was not quoted, and fields that are patterns become the paths that fit them.
-/
namespace ScanLauncher.Shell

/-- A part of a word after everything has been put in. -/
inductive Part where
  | char (c : Char) (isQuoted : Bool)
  /-- A blank at which the word is cut. -/
  | blank (c : Char)
  /-- A mark at which the word is cut, even if nothing stands before it. -/
  | mark (c : Char)
  /-- The boundary between two positional parameters. -/
  | boundary
  /-- Quotes, which make a field even if it is empty. -/
  | kept
deriving DecidableEq, Repr

namespace Part

/-- The character that a part stands for where a word is not cut. -/
def plain : Part → List Char
  | char c _ | blank c | mark c => [c]
  | boundary => [' ']
  | kept => []

/-- The same, with whether it was quoted. -/
def marked : Part → MarkedText
  | char c isQuoted => [(c, isQuoted)]
  | part => part.plain.map (·, false)

end Part

/-- The fields that parts are cut into. The field at work comes first. -/
def fieldsFrom (current : Option MarkedText) : List Part → List MarkedText
  | [] => current.toList
  | .char c isQuoted :: rest => fieldsFrom (some (current.getD [] ++ [(c, isQuoted)])) rest
  | .kept :: rest => fieldsFrom (some (current.getD [])) rest
  | .blank _ :: rest | .boundary :: rest => current.toList ++ fieldsFrom none rest
  | .mark _ :: rest => current.getD [] :: fieldsFrom none rest

namespace Frame

/-- The value of a parameter. -/
def parameter? (frame : Frame) (jobs : Nat) (name : String) : Option String :=
  match name with
  | "#" => some (Text.decimal frame.parameters.length)
  | "?" => some (Text.decimal frame.status)
  | "$" => some (Text.decimal frame.pid)
  | "!" => if jobs == 0 then none else some (Text.decimal (Job.pidOf jobs))
  | "0" => some frame.name
  | "-" => some (String.ofList ("ubaCEVvxsnmiIfe".toList.filter frame.has))
  | "@" | "*" =>
    if frame.parameters.isEmpty then none else some (String.intercalate " " frame.parameters)
  | name =>
    match name.toNat? with
    | some n => frame.parameters[n - 1]?
    | none => frame.bindings.lookup name

/-- The characters at which values are cut. -/
def separators (frame : Frame) : List Char :=
  ((frame.bindings.lookup "IFS").getD " \t\n").toList

/-- A value as parts. -/
def partsOf (frame : Frame) (isQuoted : Bool) (value : List Char) : List Part :=
  if isQuoted then .kept :: value.map (.char · true)
  else
    value.map fun c =>
      if !frame.separators.contains c then .char c false
      else if c == ' ' || c == '\t' || c == '\n' then .blank c
      else .mark c

/-- The positional parameters as parts. -/
def positionalParts (frame : Frame) (name : String) (isQuoted : Bool) : List Part :=
  let values := frame.parameters.map fun value => frame.partsOf isQuoted value.toList
  if name == "*" && isQuoted then
    let joint := (frame.separators.take 1).map (Part.char · true)
    .kept :: List.intercalate joint values
  else List.intercalate [.boundary] values

end Frame

/-- The value of an arithmetic expression, as text. -/
def arithmetic (chars : List Char) : Work (List Char) := do
  match Arithmetic.evaluate (← Work.frame).bindings chars with
  | .ok (value, bindings) =>
    Work.modifyFrame fun frame => { frame with bindings }
    return (Text.decimalInt value).toList
  | .error fault =>
    Work.complain (fault.message (String.ofList chars))
    throw (.exit 2)

/-- The value of a parameter that may be missing. -/
def plainValue (name : String) (value : Option String) : Work (List Char) := do
  match value with
  | some s => return s.toList
  | none =>
    if (← Work.frame).has 'u' && name != "@" && name != "*" then
      Work.complain (name ++ ": parameter not set")
      throw (.exit 2)
    return []

mutual

/-- The parts of a piece. `substitute` runs a program and gives its output. -/
def expandPiece (substitute : String → Work (List Char)) : Piece → Work (List Part)
  | .text s isQuoted =>
    return (if isQuoted then [.kept] else []) ++ s.toList.map (.char · isQuoted)
  | .arithmetic expression isQuoted => do
    let parts ← expandPieces substitute expression
    return (← Work.frame).partsOf isQuoted (← arithmetic (parts.flatMap Part.plain))
  | .output source isQuoted => do
    let text ← substitute source
    return (← Work.frame).partsOf isQuoted text
  | .unfit => do
    Work.complain "Bad substitution"
    throw (.exit 2)
  | .parameter name adjustment operand isQuoted => do
    let frame ← Work.frame
    let value := frame.parameter? (← get).jobCount name
    let isMissing (orEmpty : Bool) : Bool := value.isNone || (orEmpty && value == some "")
    let given : List Part :=
      if name == "@" || name == "*" then frame.positionalParts name isQuoted
      else frame.partsOf isQuoted (value.getD "").toList
    match adjustment with
    | .asIs =>
      let _ ← plainValue name value
      return given
    | .length =>
      let text ← plainValue name value
      return frame.partsOf isQuoted (Text.decimal text.length).toList
    | .fallback orEmpty =>
      if isMissing orEmpty then expandPieces substitute operand else return given
    | .instead orEmpty =>
      if isMissing orEmpty then return [] else expandPieces substitute operand
    | .assign orEmpty =>
      if !isMissing orEmpty then return given
      let text := (← expandPieces substitute operand).flatMap Part.plain
      Work.assign name (String.ofList text)
      return (← Work.frame).partsOf isQuoted text
    | .demand orEmpty =>
      if !isMissing orEmpty then return given
      let text := String.ofList ((← expandPieces substitute operand).flatMap Part.plain)
      let reason := if orEmpty then "parameter not set or null" else "parameter not set"
      Work.complain (name ++ ": " ++ if text.isEmpty then reason else text)
      throw (.exit 2)
    | .dropFront longest =>
      let pattern := Pattern.ofText ((← expandPieces substitute operand).flatMap Part.marked)
      let text ← plainValue name value
      return frame.partsOf isQuoted (pattern.dropFront longest text)
    | .dropEnd longest =>
      let pattern := Pattern.ofText ((← expandPieces substitute operand).flatMap Part.marked)
      let text ← plainValue name value
      return frame.partsOf isQuoted (pattern.dropEnd longest text)

/-- The parts of pieces in a row. -/
def expandPieces (substitute : String → Work (List Char)) : List Piece → Work (List Part)
  | [] => return []
  | piece :: rest => do
    let parts ← expandPiece substitute piece
    return parts ++ (← expandPieces substitute rest)

end

/-- A word with the user's directory put in for a tilde at its start. -/
def expandTilde (word : Word) : Work Word := do
  match word with
  | .text s false :: rest =>
    match s.toList, (← Work.frame).bindings.lookup "HOME" with
    | ['~'], some home => return .text home true :: rest
    | '~' :: '/' :: path, some home =>
      return .text home true :: .text (String.ofList ('/' :: path)) false :: rest
    | _, _ => return word
  | word => return word

/-- The text of a word that is not cut. -/
def expandText (substitute : String → Work (List Char)) (word : Word) : Work String := do
  return String.ofList ((← expandPieces substitute (← expandTilde word)).flatMap Part.plain)

/-- The pattern that a word spells. -/
def expandPattern (substitute : String → Work (List Char)) (word : Word) : Work Pattern := do
  return Pattern.ofText ((← expandPieces substitute word).flatMap Part.marked)

/-- The fields of a word. -/
def expandWord (substitute : String → Work (List Char)) (word : Word) : Work (List String) := do
  let fields := fieldsFrom none (← expandPieces substitute (← expandTilde word))
  if (← Work.frame).has 'f' then return fields.map fun field => String.ofList (field.map (·.1))
  return fields.flatMap (matchingPaths (← Work.files))

/-- The fields of words in a row. -/
def expandWords (substitute : String → Work (List Char)) : List Word → Work (List String)
  | [] => return []
  | word :: rest => do
    let fields ← expandWord substitute word
    return fields ++ (← expandWords substitute rest)

end ScanLauncher.Shell
