import ScanLauncher.Shell.Format
import ScanLauncher.Shell.State

/-!
How programs read and write: what a path or the input holds, the lines of it, and the complaints
about paths that lead nowhere.
-/
namespace ScanLauncher.Shell

namespace Supply

/-- The first bytes of a supply. -/
def take (supply : Supply) (count : Nat) : List UInt8 :=
  let missing := count - supply.bytes.length
  let rounds := if supply.cycle.isEmpty then 0 else missing / supply.cycle.length + 1
  (supply.bytes ++ (List.replicate rounds supply.cycle).flatten).take count

/-- The first lines of a supply, with their ends. -/
def takeLines (supply : Supply) (count : Nat) : List UInt8 :=
  let rounds := if supply.cycle.isEmpty then 0 else count
  let bytes := supply.bytes ++ (List.replicate rounds supply.cycle).flatten
  (bytes.foldl (fun (lines, taken) b =>
    if lines == 0 then (0, taken)
    else (if b == 10 then lines - 1 else lines, b :: taken)) (count, ([] : List UInt8))).2.reverse

end Supply

/-- The lines of a text, without their ends. -/
def linesOf (bytes : List UInt8) : List (List UInt8) :=
  let lines := bytes.splitOn 10
  if lines.getLast? == some [] then lines.dropLast else lines

/-- Lines as bytes. -/
def ofLines (lines : List (List UInt8)) : List UInt8 := lines.flatMap (· ++ [10])

namespace Utility

open Work

/-- Writes to the output stream; a stream that is not open makes the program fail. -/
def put (program : String) (bytes : List UInt8) : Work Nat := do
  if ← write 1 bytes then return 0
  if (← frame).dialect == .plain then complain (program ++ ": " ++ program ++ ": I/O error")
  else writeText 2 (program ++ ": write error: Bad file descriptor\n")
  return 1

/-- Writes a supply to the output stream, to its end. -/
def putSupply (program : String) (supply : Supply) : Work Nat := do
  let status ← put program supply.bytes
  if supply.cycle.isEmpty then return status
  match (← frame).streams.lookup 1 with
  | some .buffer =>
    modifyOutside fun o => { o with bufferedCycle := supply.cycle }
    return 0
  | _ => throw .endless

/-- The complaint of a program about a path. -/
def complainAbout (program path : String) (fault : PathFault) : Work Unit :=
  let reason :=
    match fault with
    | .errno e => e.description
    | _ => Errno.notFound.description
  writeText 2 (program ++ ": " ++ path ++ ": " ++ reason ++ "\n")

/-- What a path, or the input, holds. -/
def supplyOf (path : String) : Work (Except PathFault Supply) := do
  match path with
  | "-" | "/dev/stdin" => return .ok (← takeInput)
  | "/dev/null" => return .ok {}
  | "/dev/zero" => return .ok { cycle := [0] }
  | path => return ((← files).read (pathOf path)).map fun bytes => { bytes }

/-- Does something with each of some paths, or with the input where there are none; the status says
whether all could be read. -/
def eachSupply (program : String) (paths : List String) (act : Supply → Work Nat) : Work Nat := do
  let paths := if paths.isEmpty then ["-"] else paths
  paths.foldlM (fun (status : Nat) (path : String) => do
    match ← supplyOf path with
    | .ok supply => return max status (← act supply)
    | .error fault =>
      complainAbout program path fault
      return 1) 0

/-- The number that a text spells, where only digits are expected. -/
def natOf (s : String) : Nat := (Format.takeNumber s.toList).1

end Utility

end ScanLauncher.Shell
