import ScanLauncher.Cli.Option
import ScanLauncher.Environment
import ScanLauncher.Log

/-!
The command lines of the launcher: its options, its four commands and theirs, and the texts that
explain them.
-/
namespace ScanLauncher.Cli

/-- The program's name. -/
def programName : String := "yugaweb"

/-- The option that asks for the help text. -/
def helpOption : OptionSpec :=
  { names := ["-h", "--help"], setting := "help", kind := .help
    explanation := "show this help message and exit" }

/-- An option that is there or not. -/
def flagOption (names : List String) (setting explanation : String) : OptionSpec :=
  { names, setting, kind := .flag, explanation }

/-- The option that names a configuration file. -/
def configOption : OptionSpec :=
  { names := ["--config"], setting := "config", kind := .path, valueWord := "PATH"
    explanation := "Path to config file (default: yugaweb.yml in the current directory)." }

/-- The options about the analysis script. -/
def toolOptions : List OptionSpec := [
  { names := ["--executable"], setting := "executable", kind := .text, valueWord := "PATH"
    explanation := "Analysis script to run (default: ./run-yuga.sh).", group := "tool" },
  { names := ["--output-root"], setting := "output_root", kind := .text, valueWord := "DIR"
    explanation := "Directory the script writes its report directory into.", group := "tool" },
  { names := ["--timeout"], setting := "timeout", kind := .float, valueWord := "SECONDS"
    explanation := "Maximum run duration; 0 disables the limit.", group := "tool" }]

/-- The options about the address that is served. -/
def serverOptions : List OptionSpec := [
  { names := ["--host"], setting := "host", kind := .text, valueWord := "HOST"
    explanation := "Address to bind (default: 0.0.0.0)." },
  { names := ["--port"], setting := "port", kind := .int, valueWord := "PORT"
    explanation := "Port to bind (default: 8080)." }]

/-- The options about what is scanned. -/
def requestOptions : List OptionSpec := [
  { names := ["--hash"], setting := "hash", kind := .text, valueWord := "REV"
    explanation := "Revision to check out (default: HEAD)." },
  { names := ["--subdir"], setting := "subdir", kind := .text, valueWord := "DIR"
    explanation := "Subdirectory to analyze (default: repository root)." }]

/-- The commands. -/
inductive Command where
  | serve
  | scan
  | status
  | validate
deriving DecidableEq, Repr

namespace Command

/-- All commands, in the order in which they are shown. -/
def all : List Command := [serve, scan, status, validate]

/-- A command's word. -/
def name : Command → String
  | serve => "serve"
  | scan => "scan"
  | status => "status"
  | validate => "validate"

/-- The command of a word. -/
def ofName? (word : Text) : Option Command := all.find? fun c => Text.ofString c.name == word

/-- What a command does, in a line. -/
def explanation : Command → String
  | serve => "Run the HTTP endpoint."
  | scan => "Run one scan and print its output."
  | status => "Show configuration and tool status."
  | validate => "Validate a configuration file."

/-- What a command does, in its own help text. -/
def description : Command → String
  | serve => "Serve the scan endpoint; each POST runs one scan."
  | scan =>
    "Reset the report directory, run the analysis script and stream its output, then list the " ++
    "reports it wrote."
  | status =>
    "Display the effective configuration, whether the analysis script is present, and the " ++
    "current report files."
  | validate => ""

/-- The options of a command. -/
def options : Command → List OptionSpec
  | serve => [helpOption] ++ serverOptions ++ toolOptions ++ [configOption]
  | scan => [helpOption] ++ requestOptions ++ toolOptions ++ [configOption]
  | status | validate => [helpOption, configOption]

/-- The grammar of what follows a command. -/
def grammar (command : Command) : Grammar :=
  { program := programName ++ " " ++ command.name
    description := command.description
    options := command.options
    operands := if command == .scan then .one "url" "Repository URL to analyze." else .none }

end Command

/-- The grammar of whole lines. -/
def mainGrammar : Grammar :=
  { program := programName
    description := "yugaweb - HTTP launcher for the Yuga analysis script."
    epilogue := [
      "Examples:",
      "  yugaweb serve --port 8080                   # Serve the endpoint",
      "  yugaweb scan https://host/repo.git          # Scan HEAD locally",
      "  yugaweb scan URL --hash abc123 --subdir src # Scan one subdirectory",
      "  yugaweb status                              # Show tool status"]
    options := [
      helpOption,
      flagOption ["--version"] "version" "Show yugaweb version and exit.",
      flagOption ["--debug"] "debug" "Enable debug logging.",
      flagOption ["--verbose", "-v"] "verbose" "Enable verbose (info-level) logging.",
      flagOption ["--quiet", "-q"] "quiet" "Reduce logging output to errors only."]
    operands := .command (Command.all.map fun c => (c.name, c.explanation)) }

/-- The width of help texts: two columns less than the terminal has, of which a variable of the
environment tells, and which else has eighty. -/
def helpWidth (env : Environment) : Int :=
  let named := ((env.get? "COLUMNS").bind Text.toChars?).map Numeral.readInt
  match named with
  | some (.value n) => (if n ≤ 0 then 80 else n) - 2
  | _ => 78

/-- A command line that was understood. -/
structure Arguments where
  version : Bool := false
  verbosity : Verbosity := {}
  command : Option Command := none
  /-- The settings given after the command. -/
  settings : Reading := {}
deriving Repr

namespace Arguments

/-- A text setting. -/
def text? (arguments : Arguments) (name : String) : Option Text :=
  match arguments.settings.get? name with
  | some (.text s) => some s
  | _ => none

/-- The configuration file that was named. -/
def configPath (arguments : Arguments) : Option Path := (arguments.text? "config").map .ofText

/-- The value of a setting that the command knows: what was given, or its fallback. -/
def shownSetting (arguments : Arguments) (name : String) : Value :=
  let fallback := if name == "hash" || name == "subdir" then .text "" else .null
  (arguments.settings.get? name).getD fallback

/-- The settings that a command knows, with their values. -/
def shownSettings (arguments : Arguments) : List (String × Value) :=
  match arguments.command with
  | none => []
  | some command =>
    let names := (command.options.map OptionSpec.setting).filter (· != "help")
    let names := if command == .scan then "url" :: names else names
    names.map fun name => (name, arguments.shownSetting name)

/-- The settings of the command line that stand over the configuration, with section and key. -/
def overrideKeys : List (String × String × String) := [
  ("host", "server", "host"),
  ("port", "server", "port"),
  ("executable", "tool", "executable"),
  ("timeout", "tool", "timeout"),
  ("output_root", "reports", "output_root")]

/-- Adds a value to a section. -/
def addToSection (data : Entries) (name key : String) (value : Value) : Entries :=
  let entries : Entries :=
    match data.field? name with
    | some (.map entries) => entries
    | _ => []
  data.insert (.text name) (.map (entries.insert (.text key) value))

/-- The layer of configuration that the command line is: the settings that were given. -/
def overrides (arguments : Arguments) : Entries :=
  overrideKeys.foldl (fun data (setting, name, key) =>
    match arguments.settings.get? setting with
    | some value => addToSection data name key value
    | none => data) []

/-- The refusal of a word that is no command. -/
def refuseCommand {α : Type} (word : Text) : Except Refusal α :=
  mainGrammar.refuse ("argument COMMAND: invalid choice: " ++ Text.quoted word ++
    " (choose from " ++ String.intercalate ", " (Command.all.map fun c => Text.quoted c.name) ++
    ")")

/-- Reads what follows a command. -/
def readCommand : Option (Text × List Text) → Except Refusal (Option Command × Reading)
  | none => .ok (none, {})
  | some (word, rest) =>
    match Command.ofName? word with
    | some command => do return (some command, ← command.grammar.read rest)
    | none => refuseCommand word

/-- Reads a whole line. Arguments that nothing wanted are refused at the very end. -/
def read (line : List Text) : Except Refusal Arguments := do
  let reading ← mainGrammar.read line
  let (command, settings) ← readCommand reading.command
  let extras := reading.extras ++ settings.extras
  if extras.isEmpty then
    return {
      version := reading.has "version"
      verbosity :=
        { debug := reading.has "debug", verbose := reading.has "verbose"
          quiet := reading.has "quiet" }
      command, settings }
  else mainGrammar.refuse ("unrecognized arguments: " ++ Text.intercalate " " extras)

end Arguments

end ScanLauncher.Cli
