import ScanLauncher.Cli.Paragraph
import ScanLauncher.Text.Basic

/-!
Grammars of command lines, and the texts that explain them. The usage is one line if it fits, and
else the options and the operands are packed into lines of their own. The help text has the usage, a
description, and sections whose entries stand in two columns.
-/
namespace ScanLauncher.Cli

/-- What an option takes. -/
inductive OptionKind where
  /-- Nothing: the option asks for the help text. -/
  | help
  /-- Nothing: the option is there or not. -/
  | flag
  | text
  | int
  | float
  | path
deriving DecidableEq, Repr

/-- An option: its spellings, the setting it sets, and what it takes. -/
structure OptionSpec where
  names : List String
  setting : String
  kind : OptionKind
  /-- The word for the value, if there is one. -/
  valueWord : String := ""
  explanation : String
  /-- The section of the help text. -/
  group : String := "options"
deriving DecidableEq, Repr

namespace OptionSpec

/-- An option as messages name it. -/
def display (option : OptionSpec) : String := String.intercalate "/" option.names

/-- Whether an option takes a value. -/
def takesValue (option : OptionSpec) : Bool := option.kind != .help && option.kind != .flag

/-- A spelling, with the word for the value behind it. -/
def withValue (option : OptionSpec) (name : String) : String :=
  if option.takesValue then name ++ " " ++ option.valueWord else name

/-- An option as the help text shows it. -/
def label (option : OptionSpec) : String :=
  String.intercalate ", " (option.names.map option.withValue)

/-- An option as the usage shows it. -/
def usage (option : OptionSpec) : String :=
  "[" ++ option.withValue (option.names.headD "") ++ "]"

end OptionSpec

/-- What a command line wants besides options. -/
inductive Operands where
  | none
  /-- One operand, which must be there. -/
  | one (setting explanation : String)
  /-- A command, which takes the rest of the line: the words for commands, with explanations. -/
  | command (choices : List (String × String))
deriving DecidableEq, Repr

namespace Operands

/-- The operands as the usage shows them. -/
def usage : Operands → List String
  | none => []
  | one setting _ => [setting]
  | command _ => ["COMMAND", "..."]

end Operands

/-- A grammar of command lines. -/
structure Grammar where
  program : String
  description : String := ""
  /-- Lines that follow all else; their own line breaks stay. -/
  epilogue : List String := []
  options : List OptionSpec
  operands : Operands
deriving DecidableEq, Repr

/-- An entry of a section of the help text. -/
structure HelpEntry where
  label : String
  explanation : String
  /-- Whether the entry belongs to the one before it. -/
  isInner : Bool := false

namespace HelpEntry

/-- A run of blanks. -/
def blanks (count : Nat) : String := String.ofList (List.replicate count ' ')

/-- How far an entry is set in. -/
def indent (entry : HelpEntry) : Nat := if entry.isInner then 4 else 2

/-- Where the second column starts: after the widest label, but not too far to the right. -/
def column (width : Int) (entries : List HelpEntry) : Nat :=
  let widest := (entries.map fun entry => entry.label.length + 2).foldl max 0
  min (widest + 2) (min 24 (max (width - 20).toNat 4))

/-- The lines of an entry. A label that is too wide has a line of its own. -/
def lines (width : Int) (column : Nat) (entry : HelpEntry) : List String :=
  let label := blanks entry.indent ++ entry.label
  if entry.explanation.isEmpty then [label]
  else
    let filled := Paragraph.fill (max (width - column) 11).toNat entry.explanation
    let later := (filled.drop 1).map (blanks column ++ ·)
    if label.length + 2 ≤ column then
      (label ++ blanks (column - label.length) ++ filled.headD "") :: later
    else label :: (blanks column ++ filled.headD "") :: later

end HelpEntry

namespace Grammar

/-- The word before a usage. -/
def usageMark : String := "usage: "

/-- Packs parts into lines. `used` characters of the line are taken, and the blank before the next
part is counted with it. -/
def pack (width : Int) (indent : Nat) (used : Int) (line : List String) :
    List String → List (List String)
  | [] => if line.isEmpty then [] else [line]
  | part :: rest =>
    if used + 1 + part.length > width && !line.isEmpty then
      line :: pack width indent (indent + part.length) [part] rest
    else pack width indent (used + 1 + part.length) (line ++ [part]) rest

/-- Parts in lines that are set in. -/
def packed (width : Int) (indent : Nat) (parts : List String) : List String :=
  (pack width indent (indent - 1) [] parts).map fun line =>
    HelpEntry.blanks indent ++ String.intercalate " " line

/-- Lines with line breaks. -/
def broken (lines : List String) : String := String.join (lines.map (· ++ "\n"))

/-- The usage, in lines of some width. -/
def usage (grammar : Grammar) (width : Int) : String :=
  let options := grammar.options.map OptionSpec.usage
  let operands := grammar.operands.usage
  let whole := String.intercalate " " (grammar.program :: options ++ operands)
  let markSize := usageMark.length
  let lines :=
    if markSize + whole.length ≤ width then [whole]
    else if 4 * (markSize + grammar.program.length) ≤ 3 * width then
      let indent := markSize + grammar.program.length + 1
      match pack width indent (markSize - 1) [] (grammar.program :: options) with
      | [] => []
      | first :: rest =>
        String.intercalate " " first :: (rest.map fun line =>
          HelpEntry.blanks indent ++ String.intercalate " " line) ++ packed width indent operands
    else
      let together := packed width markSize (options ++ operands)
      grammar.program ::
        if together.length > 1 then packed width markSize options ++ packed width markSize operands
        else together
  usageMark ++ broken lines

/-- The entries of the options of a group. -/
def optionEntries (grammar : Grammar) (group : String) : List HelpEntry :=
  (grammar.options.filter (·.group == group)).map fun option =>
    ⟨option.label, option.explanation, false⟩

/-- The entry of an operand. -/
def operandEntries (grammar : Grammar) : List HelpEntry :=
  match grammar.operands with
  | .one setting explanation => [⟨setting, explanation, false⟩]
  | _ => []

/-- The entries of the commands. -/
def commandEntries (grammar : Grammar) : List HelpEntry :=
  match grammar.operands with
  | .command choices =>
    ⟨"COMMAND", "", false⟩ :: choices.map fun (name, explanation) => ⟨name, explanation, true⟩
  | _ => []

/-- The description in lines; where a fixed epilogue follows it stays as it is written. -/
def descriptionLines (grammar : Grammar) (width : Int) : List String :=
  if grammar.epilogue.isEmpty then Paragraph.fill (max width 11).toNat grammar.description
  else [grammar.description]

/-- The sections of the help text: a title, lines before the entries, and the entries. -/
def sections (grammar : Grammar) : List (String × List String × List HelpEntry) :=
  [("positional arguments", [], grammar.operandEntries),
    ("options", [], grammar.optionEntries "options"),
    ("tool", [], grammar.optionEntries "tool"),
    ("commands", ["  Available commands:", ""], grammar.commandEntries)].filter
      fun (_, _, entries) => !entries.isEmpty

/-- The help text, in lines of some width. All sections have the same columns. -/
def help (grammar : Grammar) (width : Int) : String :=
  let column := HelpEntry.column width (grammar.sections.flatMap (·.2.2))
  let parts := grammar.sections.map fun (title, intro, entries) =>
    (title ++ ":") :: intro ++ entries.flatMap (HelpEntry.lines width column)
  let blocks := [grammar.descriptionLines width] ++ parts ++ [grammar.epilogue]
  grammar.usage width ++
    String.join ((blocks.filter (!·.isEmpty)).map fun lines => "\n" ++ broken lines)

end Grammar

end ScanLauncher.Cli
