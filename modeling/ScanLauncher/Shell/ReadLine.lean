import ScanLauncher.Shell.Expand
import ScanLauncher.Shell.Options

/-!
Reading a line into variables. A backslash takes the meaning from the character after it, and the
line is cut into as many parts as there are variables, the last of which takes all that is left.
-/
namespace ScanLauncher.Shell.ReadLine

/-- The characters of a line, with whether a backslash stood before them. -/
structure Line where
  chars : List (Char × Bool) := []
  /-- What follows the line. -/
  rest : List UInt8 := []
  /-- Whether the line has an end of its own. -/
  isEnded : Bool := false

/-- The first line of some bytes. A backslash joins two lines, unless it stands for itself. -/
def takeLine (isRaw : Bool) : List UInt8 → Line
  | [] => {}
  | b :: rest =>
    if b == 10 then { rest, isEnded := true }
    else if b == 0 then takeLine isRaw rest
    else if b == 0x5C && !isRaw then
      match rest with
      | [] => {}
      | c :: rest =>
        let line := takeLine isRaw rest
        if c == 10 then line else { line with chars := (Char.ofNat c.toNat, true) :: line.chars }
    else
      let line := takeLine isRaw rest
      { line with chars := (Char.ofNat b.toNat, false) :: line.chars }

/-- Cutting a line into parts. -/
structure Cutting where
  /-- The parts that are done. -/
  parts : List (List Char) := []
  current : List Char := []
  /-- How many parts may still end; the last part takes all that is left. -/
  left : Nat
  /-- Whether the last separator was a blank, so that others may belong to it. -/
  isAfterBlank : Bool := false
  /-- Where the separators begin that would end the last part. -/
  ending : Option Nat := none

namespace Cutting

/-- Adds a character to the part at work. -/
def add (cutting : Cutting) (c : Char) : Cutting :=
  { cutting with current := cutting.current ++ [c] }

/-- Takes one character. Blanks at the front are dropped, blanks around a separator belong to it,
and in the last part separators are kept, those at the very end apart. -/
def step (separators : List Char) (cutting : Cutting) : Char × Bool → Cutting
  | (c, true) => { cutting.add c with isAfterBlank := false }
  | (c, false) =>
    let isSeparator := separators.contains c
    let isBlank := isSeparator && (c == ' ' || c == '\t' || c == '\n')
    if cutting.left == 0 then
      if isBlank then
        { cutting.add c with ending := cutting.ending.or (some cutting.current.length) }
      else
        let ending := if isSeparator && cutting.isAfterBlank then cutting.ending else none
        { cutting.add c with ending, isAfterBlank := false }
    else if isSeparator && cutting.isAfterBlank then
      { cutting with current := [], isAfterBlank := isBlank }
    else if !isSeparator then { cutting.add c with isAfterBlank := false }
    else if isBlank && cutting.current.isEmpty then { cutting with isAfterBlank := false }
    else if cutting.left == 1 then
      { cutting.add c with
        left := 0, ending := some cutting.current.length, isAfterBlank := isBlank }
    else
      { cutting with
        parts := cutting.parts ++ [cutting.current]
        current := []
        left := cutting.left - 1
        isAfterBlank := isBlank }

/-- All parts. -/
def finish (cutting : Cutting) : List (List Char) :=
  let current := (cutting.ending.map cutting.current.take).getD cutting.current
  if current.isEmpty then cutting.parts else cutting.parts ++ [current]

end Cutting

/-- The parts of a line, at most `count` of them. -/
def parts (separators : List Char) (count : Nat) (chars : List (Char × Bool)) : List (List Char) :=
  (chars.foldl (Cutting.step separators) { left := count }).finish

open Work

/-- Gives variables the parts of a line; those that get none are empty. -/
def fill : List String → List (List Char) → Work Unit
  | [], _ => return
  | name :: names, parts => do
    assign name (String.ofList (parts.headD []))
    fill names parts.tail

/-- The next line of the input. -/
def nextLine (isRaw : Bool) : Work Line := do
  match (← frame).streams.lookup 0 with
  | some .supply =>
    let line := takeLine isRaw (← get).outside.supply.bytes
    modifyOutside fun o => { o with supply := { o.supply with bytes := line.rest } }
    return line
  | _ => return {}

/-- Reads a line into variables. The status says whether the line had an end. -/
def read (arguments : List String) : Work Nat := do
  match Options.read ['r'] ['p'] arguments with
  | .error complaint => failWith 2 ("read: " ++ complaint)
  | .ok options =>
    if options.operands.isEmpty then return ← failWith 2 "read: arg count"
    let line ← nextLine (options.has 'r')
    let given := parts (← frame).separators options.operands.length line.chars
    let good := options.operands.takeWhile Command.isName
    fill good given
    match options.operands.drop good.length with
    | [] => return if line.isEnded then 0 else 1
    | name :: _ => failWith 2 ("read: " ++ name ++ ": bad variable name")

end ScanLauncher.Shell.ReadLine
