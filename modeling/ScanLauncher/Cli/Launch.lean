import ScanLauncher.Cli.Terminal
import ScanLauncher.Http.Endpoint
import ScanLauncher.Run.Deliver

/-!
The commands that start the analysis script: one scan on the spot, or the endpoint that scans on
request.
-/
namespace ScanLauncher.Cli

/-- Says how a scan that was delivered went. -/
def conclude (config : Config) (outcome : Outcome) : ActOn Terminal ExitCode := do
  if !outcome.resetOk then
    Terminal.say .stderr (Markup.styled "yellow" ("Could not reset " ++ config.reportDir.text))
  if outcome.timedOut then
    Terminal.say .stderr (Markup.styled "bold red" "Scan timed out")
    return .toolFailure
  if outcome.exitStatus != some 0 then
    Terminal.say .stderr
      (Markup.styled "bold red" ("Tool exited with status " ++ outcome.statusText))
    return .toolFailure
  let count := (outcome.reports.getD []).length
  Terminal.say .stderr
    (Markup.styled "bold cyan" ("Done, " ++ Text.decimal count ++ " report(s)"))
  return .success

/-- Delivers a started run to the user. An interrupted run is closed; what was written stays. -/
def deliver (run : Run) (sink : Sink := {}) : ActOn Terminal ExitCode := do
  let (delivered, forwarding) ← ActOn.lift (Run.streamTo.runOn ⟨run, sink⟩)
  Terminal.write forwarding.sink.written
  match delivered with
  | .ok outcome => conclude run.config outcome
  | .error .interrupted =>
    let (closed, _) ← ActOn.lift (Run.close.runOn forwarding.producer)
    ActOn.lift (Act.ofExcept id closed)
    Terminal.say .stderr (Markup.styled "yellow" "Scan interrupted")
    return .toolFailure
  | .error failure => throw failure

/-- Runs one scan. -/
def scan (config : Config) (url revision subdir : Option Text) : ActOn Terminal ExitCode := do
  let (started, run) ← ActOn.lift ((Run.start url revision subdir).runOn { config })
  match started with
  | .ok () => deliver run
  | .error (.launch message) =>
    Terminal.say .stderr (Markup.styled "bold red" message)
    return .launchError
  | .error .busy =>
    Terminal.say .stderr (Markup.styled "bold red" Failure.busyMessage)
    return .invalidUsage
  | .error failure => throw failure

/-- Opens the endpoint and serves it. -/
def serve (config : Config) : ActOn Terminal ExitCode := do
  let address : Address := ⟨config.server.host, config.server.port⟩
  ActOn.lift (Http.Endpoint.create config)
  let shown ← ActOn.lift (Act.ofExcept id address.text)
  ActOn.lift (Act.log .info .serveCommand
    ("Serving on " ++ shown ++ ", reports in " ++ config.reportDir.text))
  Terminal.serve address
  return .success

end ScanLauncher.Cli
