import ScanLauncher.Cli.Markup
import ScanLauncher.World

/-!
What a user sees of the program: two plain streams, lines of markup and tables printed on either of
them, the addresses that are served, and the status at the end.
-/
namespace ScanLauncher.Cli

/-- How the program ends. -/
inductive ExitCode where
  | success
  | toolFailure
  | launchError
  | invalidUsage
deriving DecidableEq, Repr

namespace ExitCode

/-- The number that the caller of the program gets. -/
def number : ExitCode → Nat
  | success => 0
  | toolFailure => 1
  | launchError => 2
  | invalidUsage => 3

end ExitCode

/-- The streams of a terminal. -/
inductive Channel where
  | stdout
  | stderr
deriving DecidableEq, Repr

/-- A table of marked-up cells. -/
structure Table where
  title : Text
  columns : List Text
  rows : List (List Text)
deriving DecidableEq, Repr

namespace Table

/-- The width of a column: that of its longest cell. -/
def width (rows : List (List Text)) (column : Nat) : Nat :=
  (rows.map fun row => (row.getD column "").length).foldl max 0

/-- A cell filled up to a width. -/
def padded (width : Nat) (cell : Text) : Text :=
  cell ++ .ofChars (List.replicate (width - cell.length) ' ')

/-- A row whose cells are filled up to their widths. -/
def paddedRow (widths : List Nat) (row : List Text) : Text :=
  Text.intercalate "  " (List.zipWith padded widths row)

/-- A table as plain lines. -/
def lines (table : Table) : List Text :=
  let rows := (table.columns :: table.rows).map fun row => row.map Markup.plain
  let widths := (List.range table.columns.length).map (width rows)
  Markup.plain table.title :: rows.map (paddedRow widths)

end Table

/-- Something printed: a line of markup, or a table. -/
inductive Display where
  | line (markup : Text)
  | table (t : Table)
deriving DecidableEq, Repr

namespace Display

/-- What was printed as plain lines. -/
def lines : Display → List Text
  | line markup => [Markup.plain markup]
  | table t => t.lines

end Display

/-- An address that is served. -/
structure Address where
  host : Text
  port : Int
deriving DecidableEq, Repr

namespace Address

/-- An address as text, unless its port has too many digits. -/
def text (address : Address) : Except Failure Text :=
  match Numeral.ofInt? address.port with
  | some port => .ok (address.host ++ ":" ++ port)
  | none => .error .longNumber

end Address

/-- What a user has seen so far. -/
structure Terminal where
  /-- The bytes written to the first stream. -/
  output : List UInt8 := []
  /-- The complaints about a command line, on the second stream. -/
  complaints : Text := ""
  /-- What was printed, with the stream it went to. -/
  printed : List (Channel × Display) := []
  served : List Address := []
  /-- The least level at which log records are shown; until it is chosen there are none. -/
  threshold : LogLevel := .warning
deriving Repr

namespace Terminal

/-- Writes bytes to the first stream. -/
def write (bytes : List UInt8) : ActOn Terminal Unit :=
  modify fun terminal => { terminal with output := terminal.output ++ bytes }

/-- Writes a text to the first stream. -/
def writeText (text : String) : ActOn Terminal Unit := write (Utf8.encode text.toList)

/-- Complains about a command line. -/
def complain (text : Text) : ActOn Terminal Unit :=
  modify fun terminal => { terminal with complaints := terminal.complaints ++ text }

/-- Prints on a stream. -/
def display (channel : Channel) (item : Display) : ActOn Terminal Unit :=
  modify fun terminal => { terminal with printed := terminal.printed ++ [(channel, item)] }

/-- Prints a line of markup. -/
def say (channel : Channel) (markup : Text) : ActOn Terminal Unit :=
  display channel (.line markup)

/-- Serves an address. -/
def serve (address : Address) : ActOn Terminal Unit :=
  modify fun terminal => { terminal with served := terminal.served ++ [address] }

/-- The records of a log that the user sees. -/
def shown (terminal : Terminal) (log : List LogRecord) : List LogRecord :=
  log.filter fun record => terminal.threshold.rank ≤ record.level.rank

end Terminal

end ScanLauncher.Cli
