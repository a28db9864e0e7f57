import ScanLauncher.Shell.Regex
import ScanLauncher.Shell.Stream

/-!
The programs that turn lines and bytes into others.
-/
namespace ScanLauncher.Shell.Utility

open Work

/-- Copies. -/
def cat (arguments : List String) : Work Nat :=
  eachSupply "cat" (arguments.filter (· != "-u")) (putSupply "cat")

/-- How much of a supply is wanted: whether bytes are counted instead of lines, how many, and the
paths. -/
def amount : List String → Bool × Nat × List String
  | "-n" :: n :: paths => (false, natOf n, paths)
  | "-c" :: n :: paths => (true, natOf n, paths)
  | argument :: paths =>
    match argument.toList with
    | '-' :: 'n' :: n => (false, natOf (String.ofList n), paths)
    | '-' :: 'c' :: n => (true, natOf (String.ofList n), paths)
    | '-' :: c :: n =>
      if c.isDigit then (false, natOf (String.ofList (c :: n)), paths)
      else (false, 10, argument :: paths)
    | _ => (false, 10, argument :: paths)
  | [] => (false, 10, [])

/-- Shows the beginning. -/
def head (arguments : List String) : Work Nat :=
  let (isBytes, count, paths) := amount arguments
  eachSupply "head" paths fun supply =>
    put "head" (if isBytes then supply.take count else supply.takeLines count)

/-- Shows the end. -/
def tail (arguments : List String) : Work Nat :=
  let (isBytes, count, paths) := amount arguments
  eachSupply "tail" paths fun supply =>
    if isBytes then put "tail" (supply.bytes.drop (supply.bytes.length - count))
    else
      let lines := linesOf supply.bytes
      put "tail" (ofLines (lines.drop (lines.length - count)))

/-- How many words a text has. -/
def wordCount (bytes : List UInt8) : Nat :=
  ((bytes.map fun b => if b == 9 || b == 10 || b == 13 then 32 else b).splitOn 32).countP
    (!·.isEmpty)

/-- Counts lines, words or bytes. A single count stands alone; others stand in columns as wide as
the number of all bytes, or as seven places where that is not known beforehand. -/
def wc (arguments : List String) : Work Nat := do
  let letters := (arguments.filter (·.startsWith "-")).flatMap fun s => s.toList.drop 1
  let paths := arguments.filter (!·.startsWith "-")
  let wanted := if letters.isEmpty then "lwc".toList
    else "lwmc".toList.filter letters.contains
  let countsOf (bytes : List UInt8) : List Nat := wanted.map fun
    | 'l' => bytes.count 10
    | 'w' => wordCount bytes
    | _ => bytes.length
  let supplies ← (if paths.isEmpty then ["-"] else paths).mapM fun path => do
    return (path, ← supplyOf path)
  let contents := supplies.filterMap fun (_, content) => content.toOption.map (·.bytes)
  let width :=
    if wanted.length == 1 && paths.length ≤ 1 then 1
    else if paths.isEmpty then 7
    else (Text.decimal contents.flatten.length).length
  let tell (counts : List Nat) (name : String) : Work Nat :=
    let columns := counts.map fun n =>
      String.ofList (List.replicate (width - (Text.decimal n).length) ' ') ++ Text.decimal n
    let suffix := if paths.isEmpty then "" else " " ++ name
    put "wc" (octets (String.intercalate " " columns ++ suffix ++ "\n"))
  let status ← supplies.foldlM (fun (status : Nat) (path, content) => do
    match content with
    | .ok supply => return max status (← tell (countsOf supply.bytes) path)
    | .error fault =>
      complainAbout "wc" path fault
      return 1) 0
  if paths.length ≤ 1 then return status
  let totals := wanted.zipIdx.map fun (_, n) =>
    contents.foldl (fun sum bytes => sum + (countsOf bytes).getD n 0) 0
  let _ ← tell totals "total"
  return status

/-- Numbers in a row. -/
def seq (arguments : List String) : Work Nat :=
  let numbers := arguments.map fun s => (Integer.of? s).getD 0
  let (first, step, last) : Int × Int × Int :=
    match numbers with
    | [last] => (1, 1, last)
    | [first, last] => (first, 1, last)
    | [first, step, last] => (first, step, last)
    | _ => (1, 1, 0)
  let count := if step == 0 then 0 else ((last - first).fdiv step + 1).toNat
  put "seq" (ofLines ((List.range count).map fun (n : Nat) =>
    octets (Text.decimalInt (first + step * n))))

/-- The characters of a set, with its ranges written out. -/
def setOf : List Char → List Char
  | a :: '-' :: b :: rest =>
    (List.range (b.toNat + 1 - a.toNat)).map (fun n => Char.ofNat (a.toNat + n)) ++ setOf rest
  | '\\' :: 'n' :: rest => '\n' :: setOf rest
  | '\\' :: 't' :: rest => '\t' :: setOf rest
  | c :: rest => c :: setOf rest
  | [] => []

/-- Replaces characters, or drops them. -/
def tr (arguments : List String) : Work Nat := do
  let bytes := (← takeInput).bytes
  let byteSet (s : String) : List UInt8 := (setOf s.toList).map fun c => c.toNat.toUInt8
  match arguments with
  | ["-d", set] => put "tr" (bytes.filter fun b => !(byteSet set).contains b)
  | [old, new] =>
    let new := byteSet new
    let pairs := (byteSet old).zipIdx.map fun (b, n) => (b, new.getD n (new.getLastD b))
    put "tr" (bytes.map fun b => (pairs.lookup b).getD b)
  | _ => return 1

/-- The command of a stream editor: a mark, an expression, a replacement and flags. -/
def substitution? (script : List Char) : Option (Regex × List Char × Bool) :=
  match script with
  | 's' :: mark :: rest =>
    match rest.splitOn mark with
    | [expression, replacement, flags] =>
      some (Regex.ofChars expression, replacement, flags.contains 'g')
    | _ => none
  | _ => none

/-- Replaces in every line. -/
def sed (arguments : List String) : Work Nat :=
  let arguments := arguments.filter fun s => s != "-e"
  match arguments with
  | [] => return 1
  | script :: paths =>
    match substitution? script.toList with
    | none => return 1
    | some (regex, replacement, isGlobal) =>
      eachSupply "sed" paths fun supply => do
        let edit (line : List UInt8) : List UInt8 :=
          octets (String.ofList
            (regex.replace replacement (if isGlobal then line.length + 1 else 1) (textOf line)))
        let edited := ofLines ((linesOf supply.bytes).map edit)
        put "sed" (if supply.bytes.getLast? == some 10 then edited else edited.dropLast)

/-- Picks lines by an expression. -/
def grep (arguments : List String) : Work Nat := do
  let flags := (arguments.takeWhile (·.startsWith "-")).flatMap fun s => s.toList.drop 1
  match arguments.dropWhile (·.startsWith "-") with
  | [] => return 2
  | expression :: paths =>
    let regex := Regex.ofChars expression.toList
    let fits (line : List UInt8) : Bool :=
      ((regex.find? (textOf line)).isSome) != flags.contains 'v'
    let paths := if paths.isEmpty then ["-"] else paths
    paths.foldlM (fun (status : Nat) (path : String) => do
      match ← supplyOf path with
      | .error fault =>
        complainAbout "grep" path fault
        return 2
      | .ok supply =>
        let lines := (linesOf supply.bytes).filter fits
        if flags.contains 'c' then
          let _ ← put "grep" (octets (Text.decimal lines.length ++ "\n"))
        else if !flags.contains 'q' then
          let _ ← put "grep" (ofLines lines)
        return if lines.isEmpty then status else 0) 1

/-- The number at the front of a line. -/
def lineNumber (line : List UInt8) : Int := (Integer.read false (textOf line)).value

/-- Sorts lines, by their bytes or by the numbers at their fronts. -/
def sort (arguments : List String) : Work Nat :=
  let letters := (arguments.filter (·.startsWith "-")).flatMap fun s => s.toList.drop 1
  let precedes (a b : List UInt8) : Bool := a == b || List.lex a b
  let inOrder (a b : List UInt8) : Bool :=
    if letters.contains 'n' then
      lineNumber a < lineNumber b || (lineNumber a == lineNumber b && precedes a b)
    else precedes a b
  eachSupply "sort" (arguments.filter (!·.startsWith "-")) fun supply =>
    let lines := (linesOf supply.bytes).mergeSort inOrder
    let lines := if letters.contains 'u' then lines.eraseReps else lines
    put "sort" (ofLines (if letters.contains 'r' then lines.reverse else lines))

/-- Shows lines that repeat the one before them only once. -/
def uniq (arguments : List String) : Work Nat :=
  let letters := (arguments.filter (·.startsWith "-")).flatMap fun s => s.toList.drop 1
  eachSupply "uniq" (arguments.filter (!·.startsWith "-")) fun supply =>
    let groups := (linesOf supply.bytes).splitBy fun a b => a == b
    let groups := groups.filter fun group =>
      !(letters.contains 'd' && group.length == 1) && !(letters.contains 'u' && group.length != 1)
    put "uniq" (ofLines (groups.map fun group =>
      let count := Text.decimal group.length
      let front := if letters.contains 'c'
        then String.ofList (List.replicate (7 - count.length) ' ') ++ count ++ " " else ""
      octets front ++ group.headD []))

/-- Shows lines from the last to the first. -/
def tac (arguments : List String) : Work Nat :=
  eachSupply "tac" arguments fun supply => put "tac" (ofLines (linesOf supply.bytes).reverse)

/-- Shows lines from back to front. -/
def rev (arguments : List String) : Work Nat :=
  eachSupply "rev" arguments fun supply =>
    put "rev" (ofLines ((linesOf supply.bytes).map List.reverse))

/-- The positions that a list of ranges names. -/
def isChosen (ranges : String) (position : Nat) : Bool :=
  (ranges.toList.splitOn ',').any fun range =>
    match (range.splitOn '-').map fun digits => (digits, natOf (String.ofList digits)) with
    | [(_, n)] => position == n
    | [(_, first), (last, n)] => first ≤ position && (last.isEmpty || position ≤ n)
    | _ => false

/-- The value of an option, in its own word or in the next one. -/
def valueOf? (letter : Char) : List String → Option String
  | [] => none
  | word :: rest =>
    match word.toList with
    | '-' :: c :: value =>
      if c != letter then valueOf? letter rest
      else if value.isEmpty then rest.head?
      else some (String.ofList value)
    | _ => valueOf? letter rest

/-- Shows parts of lines: bytes at positions, or fields between marks. -/
def cut (arguments : List String) : Work Nat := do
  let bytes := (← takeInput).bytes
  let mark := (octets ((valueOf? 'd' arguments).getD "\t")).headD 9
  let pick {α : Type} (ranges : String) (items : List α) : List α :=
    (items.zipIdx.filter fun (_, n) => isChosen ranges (n + 1)).map (·.1)
  let positions := (valueOf? 'c' arguments).or (valueOf? 'b' arguments)
  put "cut" (ofLines ((linesOf bytes).filterMap fun line =>
    match positions, valueOf? 'f' arguments with
    | some ranges, _ => some (pick ranges line)
    | none, some ranges =>
      if line.contains mark then some (List.intercalate [mark] (pick ranges (line.splitOn mark)))
      else if arguments.contains "-s" then none
      else some line
    | none, none => none))

end ScanLauncher.Shell.Utility
