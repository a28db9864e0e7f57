import ScanLauncher.Cli.Inspect
import ScanLauncher.Cli.Launch
import ScanLauncher.Cli.Usage

/-!
The program as a whole: it reads its command line, finds the configuration in force and carries out
the command.
-/
namespace ScanLauncher.Cli

/-- Notes that a command lacks its configuration. -/
def lackConfig (origin : Origin) (command : Command) : ActOn Terminal ExitCode := do
  ActOn.lift (Act.log .error origin (command.name ++ " requires a loaded configuration"))
  return .invalidUsage

namespace Command

/-- Whether a command works under the configuration in force. -/
def needsConfig (command : Command) : Bool := command != .validate

/-- Carries out a command from a directory. -/
def perform (command : Command) (root : Path) (arguments : Arguments) (config : Option Config) :
    ActOn Terminal ExitCode :=
  match command, config with
  | validate, _ => Cli.validate root arguments.configPath
  | scan, some config =>
    Cli.scan config (arguments.text? "url") (arguments.text? "hash") (arguments.text? "subdir")
  | scan, none => lackConfig .scanCommand scan
  | serve, some config => Cli.serve config
  | serve, none => lackConfig .serveCommand serve
  | status, some config => Cli.status config
  | status, none => return .invalidUsage

end Command

/-- The configuration in force; if it is at fault that is noted and there is none. -/
def loadConfig (root : Path) (arguments : Arguments) : Act (Option Config) := do
  match ← (Config.load root arguments.configPath arguments.overrides).attempt with
  | .ok config => return some config
  | .error (.config message) =>
    Act.log .error .commandLine message
    return none
  | .error failure => throw failure

/-- Carries out a command line that was understood. -/
def obey (arguments : Arguments) : ActOn Terminal ExitCode := do
  modify fun terminal => { terminal with threshold := arguments.verbosity.threshold }
  if arguments.version then
    Terminal.writeText (version ++ "\n")
    return .success
  match arguments.command with
  | none =>
    Terminal.writeText (mainGrammar.help (helpWidth (← ActOn.lift get).env))
    return .success
  | some command =>
    let root := (← ActOn.lift get).files.currentPath
    if command.needsConfig then
      match ← ActOn.lift (loadConfig root arguments) with
      | some config => command.perform root arguments (some config)
      | none => return .invalidUsage
    else command.perform root arguments none

/-- Answers a command line that is not carried out. -/
def decline (refusal : Refusal) : ActOn Terminal ExitCode := do
  let width := helpWidth (← ActOn.lift get).env
  match refusal with
  | .help grammar =>
    Terminal.writeText (grammar.help width)
    return .success
  | .misuse _ _ =>
    Terminal.complain (refusal.text width)
    return .invalidUsage

/-- Runs the program on a command line. -/
def run (line : List Text) : ActOn Terminal ExitCode :=
  match Arguments.read line with
  | .ok arguments => obey arguments
  | .error refusal => decline refusal

end ScanLauncher.Cli
