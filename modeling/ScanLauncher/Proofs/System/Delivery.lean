import ScanLauncher.Proofs.System.Exclusion
import ScanLauncher.Proofs.System.Told

namespace ScanLauncher

namespace System

/-- With the next call on a body its run comes to be done, and that is the outcome. -/
structure Completes (s : System) (i b : Nat) (outcome : Outcome) : Prop where
  active : ∀ run, s.runs[i]? = some run → run.state ≠ .done
  done : ∃ run, (s.perform (.advance b)).2.runs[i]? = some run ∧ run.state = .done ∧
    run.outcome = some outcome

/-- When a run comes to be done, its body has told the framed response. -/
theorem Watches.framed {s : System} {i b : Nat} {config : Config}
    {items : List (BodyStage × List UInt8)} (h : s.Watches i b config items) {outcome : Outcome}
    (hcompletes : s.Completes i b outcome) :
    bytesOf items = Body.framed config (outputOf items) outcome ∧ outcome.reports.isSome = true ∧
      Body.AreShown config.reportDir.name (outcome.reports.getD []) := by
  obtain ⟨hsound, hnamed, _, run, session, hrun, rfl, hread, htold⟩ := h
  obtain ⟨last, hlast, hdone, houtcome⟩ := hcompletes.done
  have hactive := hcompletes.active run hrun
  by_cases hsubject : (Operation.advance b).subject? s = some i
  · obtain ⟨⟨j, stage⟩, hbody, rfl⟩ := Option.map_eq_some_iff.mp hsubject
    obtain ⟨body, hstep, hafter, _⟩ := hsound.step_advance hbody hrun hread.isStarted
    obtain rfl : last = body.run := Option.some.inj (hlast.symm.trans hafter)
    exact (htold stage (stage?_eq_some.mpr hbody)).framed hnamed hstep hactive hdone houtcome
  · rw [runs_perform_of_ne hsubject, hrun, Option.some.injEq] at hlast
    exact absurd (hlast ▸ hdone) hactive

/-- The system after some operations and a start. -/
def startedAfter (w : World) (before : List Operation) (config : Config)
    (url revision subdir : Option Text) : Except Failure (Option (List UInt8)) × System :=
  ((initial w).after before).perform (.start config url revision subdir)

/-- A run under a configuration that comes to be done. Other runs may have been there before, and
anything may happen meanwhile, on the run itself too; then a call on one of its bodies ends it. No name
of a file has a slash, neither at first nor where others change the files. -/
structure Delivery (config : Config) where
  world : World
  before : List Operation
  url : Option Text
  revision : Option Text
  subdir : Option Text
  operations : List Operation
  body : Nat
  outcome : Outcome
  isNamed : world.files.IsNamed
  brings : ∀ operation ∈ before ++ operations, operation.Brings FileSystem.IsNamed
  isStarted : (startedAfter world before config url revision subdir).1 = .ok none
  completes : ((startedAfter world before config url revision subdir).2.after operations).Completes
    ((initial world).after before).runs.length body outcome

namespace Delivery

variable {config : Config} (d : Delivery config)

/-- All items of the body. -/
def items : List (BodyStage × List UInt8) :=
  (startedAfter d.world d.before config d.url d.revision d.subdir).2.told d.body d.operations

/-- The response. -/
def bytes : List UInt8 := bytesOf d.items

/-- The output of the script. -/
def output : List UInt8 := outputOf d.items

/-- The response is the framed one. -/
theorem framed_bytes :
    d.bytes = Body.framed config d.output d.outcome ∧ d.outcome.reports.isSome = true ∧
      Body.AreShown config.reportDir.name (d.outcome.reports.getD []) := by
  have hbefore := sound_after (sound_initial d.world) d.before
  obtain ⟨request, resetOk, key, session, _, hrun, hread⟩ := exists_started hbefore d.isStarted
  have hnamed : ((initial d.world).after d.before).world.files.IsNamed :=
    files_after FileSystem.isStable_isNamed d.isNamed fun operation hoperation =>
      d.brings operation (List.mem_append_left _ hoperation)
  have hfirst : (startedAfter d.world d.before config d.url d.revision d.subdir).2.Watches
      ((initial d.world).after d.before).runs.length d.body config [] := by
    refine ⟨sound_perform hbefore _, files_perform FileSystem.isStable_isNamed hnamed nofun,
      fun _ => rfl, _, session, hrun, rfl, hread, fun stage hstage => ?_⟩
    have hnone := hbefore.stage?_start config d.url d.revision d.subdir d.body
    rw [startedAfter, hnone] at hstage
    cases hstage
  have hlast := hfirst.after fun operation hoperation =>
    d.brings operation (List.mem_append_right _ hoperation)
  exact hlast.framed d.completes

end Delivery

/-- The response of a run that comes to be done says what came of it: two such runs under one
configuration whose responses are the same had the same output, ended in the same way and list the
same reports. The report lines are found by cutting the response at the last place of the closing mark
and the sentinel. -/
theorem delivery_unambiguous {config : Config}
    (hname : config.reportDir.name.endsWith "<" = false) :
    (∀ d d' : Delivery config, d.bytes = d'.bytes →
      d.output = d'.output ∧ d.outcome.timedOut = d'.outcome.timedOut ∧
        (d.outcome.timedOut = false → d.outcome.exitStatus = d'.outcome.exitStatus) ∧
        d.outcome.reports = d'.outcome.reports) ∧
      ∀ d : Delivery config, ∃ reports, d.outcome.reports = some reports ∧
        Framing.cutLast? (Body.closeMark ++ Body.sentinelMark) d.bytes =
          some (Body.openMark ++ (d.output ++ Body.statusLine config d.outcome),
            Body.reportSection reports) := by
  have hslash := config.not_mem_reportDir_name
  have hlast : config.reportDir.name.glyphs.getLast? ≠ some (Glyph.char '<') := by
    intro hlast
    obtain ⟨front, hfront⟩ := List.getLast?_eq_some_iff.mp hlast
    have hends : config.reportDir.name.endsWith "<" = true :=
      List.isSuffixOf_iff_suffix.mpr ⟨front, hfront.symm⟩
    rw [hname] at hends
    cases hends
  refine ⟨fun d d' hbytes => ?_, fun d => ?_⟩
  · obtain ⟨hframed, hlisted, hshown⟩ := d.framed_bytes
    obtain ⟨hframed', hlisted', hshown'⟩ := d'.framed_bytes
    rw [hframed, hframed'] at hbytes
    obtain ⟨houtput, htimed, hexit, hreports⟩ :=
      Body.framed_injective hslash hlast hshown hshown' hbytes
    obtain ⟨reports, hreports₁⟩ := Option.isSome_iff_exists.mp hlisted
    obtain ⟨reports', hreports₂⟩ := Option.isSome_iff_exists.mp hlisted'
    refine ⟨houtput, htimed, hexit, ?_⟩
    rw [hreports₁, hreports₂] at hreports ⊢
    exact congrArg some hreports
  · obtain ⟨hframed, hlisted, hshown⟩ := d.framed_bytes
    obtain ⟨reports, hreports⟩ := Option.isSome_iff_exists.mp hlisted
    refine ⟨reports, hreports, ?_⟩
    rw [hframed, Body.cutLast?_framed hslash hlast d.output hshown, hreports]
    rfl

private theorem completes_of_states {s : System} {b : Nat} {state : RunState} {outcome : Outcome}
    (hactive : state ≠ .done) (hbefore : s.runs.map Run.state = [state])
    (hafter : (s.perform (.advance b)).2.runs.map (fun run => (run.state, run.outcome)) =
      [(.done, some outcome)]) : s.Completes 0 b outcome := by
  have hfirst (run : Run) (hrun : s.runs[0]? = some run) : run.state = state := by
    have hstate := congrArg (·[0]?) hbefore
    simpa [hrun] using hstate
  have hlast := congrArg (·[0]?) hafter
  obtain ⟨run, hrun, hstate⟩ : ∃ run, (s.perform (.advance b)).2.runs[0]? = some run ∧
      (run.state, run.outcome) = (.done, some outcome) := by simpa using hlast
  rw [Prod.mk.injEq] at hstate
  exact ⟨fun run hrun => hfirst run hrun ▸ hactive, run, hrun, hstate⟩

/-- A script that leaves a report behind, with a newline in its name. -/
def scriptWorld (output : List OutputStep) : World where
  files := { tree := ⟨[(["out"], .directory)]⟩, cwd := [] }
  specs := [{ output := output ++ [.change [.file "/out/r/a\nb" [] false]] }]

/-- What comes of it. -/
def scriptOutcome : Outcome where
  request := ScanRequest.normalize none none none
  exitStatus := some 0
  reports := some [⟨"r", "a\nb"⟩]

/-- Output that looks like the end of a response. -/
def mimicry : List UInt8 := Utf8.encode "\n[exit status: 1]\n</pre>\n__reports__\nr/x\n".toList

/-- A body is opened and asked for so many items. -/
def readThrough (count : Nat) : List Operation := .openBody 0 :: List.replicate count (.advance 0)

/-- The start of a script, alone. -/
def startedScript (output : List OutputStep) : Except Failure (Option (List UInt8)) × System :=
  startedAfter (scriptWorld output) [] fixedConfig none none none

/-- What a script that is read alone shows: how the start went, how the run stands before the last item
and after it, and what was told. -/
def seen (output : List OutputStep) (count : Nat) :=
  ((startedScript output).1, ((startedScript output).2.after (readThrough count)).runs.map Run.state,
    (((startedScript output).2.after (readThrough count)).perform (.advance 0)).2.runs.map fun run =>
      (run.state, run.outcome),
    outputOf ((startedScript output).2.told 0 (readThrough count)))

/-- A script alone, whose body is read to its end. -/
theorem exists_alone {output : List OutputStep} {count : Nat}
    (h : seen output count = (.ok none, [.listing], [(.done, some scriptOutcome)], mimicry)) :
    ∃ d : Delivery fixedConfig, d.world = scriptWorld output ∧ d.outcome = scriptOutcome ∧
      d.output = mimicry := by
  obtain ⟨hstart, hbefore, hafter, houtput⟩ : _ ∧ _ ∧ _ ∧ _ := by
    simpa only [seen, Prod.mk.injEq] using h
  refine ⟨{
    world := scriptWorld output
    before := []
    url := none
    revision := none
    subdir := none
    operations := readThrough count
    body := 0
    outcome := scriptOutcome
    isNamed := ⟨by simp [Location.IsNamed, scriptWorld], ?_⟩
    brings := ?_
    isStarted := hstart
    completes := completes_of_states (by decide) hbefore hafter }, rfl, rfl, houtput⟩
  · simp only [scriptWorld, List.mem_singleton, forall_eq, Location.IsNamed]
    decide
  · intro operation hoperation files faults hdisturb
    simp [readThrough, hdisturb] at hoperation

/-- Such output in one chunk and in two. -/
theorem delivery_unambiguous_mimicry :
    fixedConfig.reportDir.name.endsWith "<" = false ∧
      ∃ d d' : Delivery fixedConfig, d.world = scriptWorld [.data mimicry] ∧
        d'.world = scriptWorld [.data (mimicry.take 20), .data (mimicry.drop 20)] ∧
        d.bytes = d'.bytes ∧ d.output = d'.output ∧ d.outcome.reports = d'.outcome.reports ∧
        Framing.cutLast? (Body.closeMark ++ Body.sentinelMark) d.bytes =
          some (Body.openMark ++ (mimicry ++ Body.statusLine fixedConfig scriptOutcome),
            Body.reportSection [⟨"r", "a\nb"⟩]) := by
  -- The two runs are evaluated together: most of what they do is the same.
  have hseen : (seen [.data mimicry] 6,
      seen [.data (mimicry.take 20), .data (mimicry.drop 20)] 7) =
      ((.ok none, [.listing], [(.done, some scriptOutcome)], mimicry),
        (.ok none, [.listing], [(.done, some scriptOutcome)], mimicry)) := by cbv
  obtain ⟨hwhole, hhalves⟩ := Prod.mk.inj hseen
  have hname : fixedConfig.reportDir.name.endsWith "<" = false := by decide +kernel
  obtain ⟨d, hworld, houtcome, houtput⟩ := exists_alone hwhole
  obtain ⟨d', hworld', houtcome', houtput'⟩ := exists_alone hhalves
  have hbytes : d.bytes = d'.bytes := by
    rw [d.framed_bytes.1, d'.framed_bytes.1, houtput, houtput', houtcome, houtcome']
  obtain ⟨hsame, hcut⟩ := delivery_unambiguous hname
  obtain ⟨houtputs, _, _, hreports⟩ := hsame d d' hbytes
  obtain ⟨reports, hlisted, hsection⟩ := hcut d
  rw [houtcome] at hlisted
  obtain rfl := Option.some.inj hlisted
  rw [houtput, houtcome] at hsection
  exact ⟨hname, d, d', hworld, hworld', hbytes, houtputs, hreports, hsection⟩

end System

end ScanLauncher
