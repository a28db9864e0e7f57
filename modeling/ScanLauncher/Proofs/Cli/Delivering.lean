import ScanLauncher.Cli.Launch
import ScanLauncher.Proofs.Run.Handing

namespace ScanLauncher.Cli

variable {config : Config} {url revision subdir : Option Text} {run last : Run}
  {terminal terminal' : Terminal} {w w' w₁ : World} {code : ExitCode}

/-- The code for a delivery that has given an outcome or failed; most failures leave. -/
def answer : Except Failure Outcome → Except Failure ExitCode
  | .ok outcome => .ok (if outcome.isSuccess then .success else .toolFailure)
  | .error .interrupted => .ok .toolFailure
  | .error failure => .error failure

private theorem conclude_apply (config : Config) (outcome : Outcome) (terminal : Terminal) (w : World) :
    ∃ terminal', conclude config outcome terminal w =
        ((.ok (if outcome.isSuccess then .success else .toolFailure), terminal'), w) ∧
      terminal'.output = terminal.output := by
  cases htimeout : outcome.timedOut <;> cases hstatus : outcome.exitStatus == some 0 <;>
    cases hreset : outcome.resetOk <;>
    simp only [conclude, Outcome.isSuccess, htimeout, hstatus, hreset, bne, Terminal.say,
      Terminal.display, ActOn.bind_apply, ActOn.ite_apply, ActOn.modify_apply] <;>
    exact ⟨_, rfl, rfl⟩

/-- What was written to the sink is what the user gets, and a run that is closed already is left as it
is. -/
theorem deliver_of_streamTo {sink sink' : Sink} {result : Except Failure Outcome}
    (hstream : Run.streamTo ⟨run, sink⟩ w = ((result, ⟨last, sink'⟩), w'))
    (hclosed : last.isClosed = true) (terminal : Terminal) :
    ∃ terminal', deliver run sink terminal w = ((answer result, terminal'), w') ∧
      terminal'.output = terminal.output ++ sink'.written := by
  let written : Terminal := { terminal with output := terminal.output ++ sink'.written }
  have hclose : Run.close last w' = ((.ok (), last), w') := by
    simp [Run.close, hclosed]
  cases result with
  | ok outcome =>
    obtain ⟨terminal', hconclude, houtput⟩ := conclude_apply run.config outcome written w'
    refine ⟨terminal', ?_, houtput⟩
    simp only [deliver, ActOn.runOn, ActOn.bind_apply, ActOn.lift_apply, hstream, Terminal.write,
      ActOn.modify_apply]
    exact hconclude
  | error failure =>
    cases failure with
    | interrupted =>
      refine ⟨{ written with printed := written.printed ++
        [(.stderr, .line (Markup.styled "yellow" "Scan interrupted"))] }, ?_, rfl⟩
      simp [deliver, ActOn.runOn, hstream, Terminal.write, hclose, Act.ofExcept, Terminal.say,
        Terminal.display, Except.map, answer, written]
    | _ =>
      refine ⟨written, ?_, rfl⟩
      simp only [deliver, ActOn.runOn, ActOn.bind_apply, ActOn.lift_apply, hstream, Terminal.write,
        ActOn.modify_apply]
      rfl

theorem scan_started (hstart : Run.start url revision subdir { config } w = ((.ok (), run), w₁))
    (terminal : Terminal) :
    scan config url revision subdir terminal w = deliver run {} terminal w₁ := by
  simp only [scan, ActOn.runOn, ActOn.bind_apply, ActOn.lift_apply, hstart]

end ScanLauncher.Cli
