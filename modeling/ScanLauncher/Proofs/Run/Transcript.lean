import ScanLauncher.Proofs.Process.Producing
import ScanLauncher.Proofs.Run.BodyEnd

namespace ScanLauncher

/-- The run while the output of its session is handed out. -/
def Run.streaming (run : Run) (session : Session) : Run :=
  { run with state := .streaming, sessions := [session] }

theorem Body.onRun_onSession {α : Type} (run : Run) (session : Session) (stage : BodyStage)
    (act : ActOn Session α) (w : World) :
    onRun (Run.onSession 0 act) ⟨run.streaming session, stage⟩ w =
      (((act session w).1.1, ⟨run.streaming (act session w).1.2, stage⟩), (act session w).2) := rfl

/-- What comes of a run that was started, if nothing acts on it but one of its bodies: the chunks
that its session hands out, how the output ends, and where that leaves the session and the world. -/
structure Transcript (run : Run) (w : World) where
  session : Session
  outcome : Outcome
  chunks : List (List UInt8)
  output : Except Failure Unit
  last : Session
  world : World
  exitStatus : Int
  state_eq : run.state = .running
  isOpen : run.isClosed = false
  sessions_eq : run.sessions = [session]
  reader_eq : session.reader = .absent
  outcome_eq : run.outcome = some outcome
  outcome_exitStatus : outcome.exitStatus = none
  produces : { session with reader := .fresh }.Produces w chunks output last world
  isOver : output = .ok () → last.IsOver exitStatus

namespace Transcript

/-- The lines of reports, up to the first that is no text. -/
def lines : List ReportFile → List (List UInt8)
  | [] => []
  | report :: rest =>
    match Body.reportLine? report with
    | some line => line :: lines rest
    | none => []

/-- Whether every report's name is text. -/
def areTexts (reports : List ReportFile) : Bool :=
  reports.all fun report => (Body.reportLine? report).isSome

private theorem lines_append {before : List ReportFile} (hbefore : areTexts before = true)
    (after : List ReportFile) :
    lines (before ++ after) = lines before ++ lines after ∧
      (lines before).length = before.length := by
  induction before with
  | nil => exact ⟨rfl, rfl⟩
  | cons report rest ih =>
    obtain ⟨hreport, hrest⟩ : (Body.reportLine? report).isSome = true ∧ areTexts rest = true := by
      simpa [areTexts] using hbefore
    obtain ⟨line, hline⟩ := Option.isSome_iff_exists.mp hreport
    obtain ⟨happend, hlength⟩ := ih hrest
    simp [lines, hline, happend, hlength]

variable {run : Run} {w : World} (t : Transcript run w)

/-- The status line: the limit that was reached, or the exit status of the child. -/
def statusText : String :=
  if t.last.isTimedOut then
    "\n[timed out after " ++ run.config.tool.timeout.briefText ++ " seconds]\n"
  else "\n[exit status: " ++ Text.decimalInt t.exitStatus ++ "]\n"

/-- The reports, listed when the output has ended. -/
def listing : Except Failure (List ReportFile) := (Report.list run.config.reportDir t.world).1

/-- The lines of the reports. -/
def reportItems : List (List UInt8) :=
  match t.listing with
  | .ok reports => lines reports
  | .error _ => []

/-- The items behind the script's output, which are there if the output ended well. -/
def lateItems : List (List UInt8) :=
  match t.output with
  | .ok () =>
    Utf8.encode t.statusText.toList :: Body.closeMark :: Body.sentinelMark :: t.reportItems
  | .error _ => []

/-- All items. -/
def items : List (List UInt8) := Body.openMark :: (t.chunks ++ t.lateItems)

/-- What comes of the body's own work, after its last item. -/
def work : Except Failure Unit := do
  t.output
  let reports ← t.listing
  if areTexts reports then .ok () else .error .notEncodable

/-- How the body ends after its last item, where its run is closed. -/
def ending : Except Failure Unit := (run.streaming t.last).concluding t.work

/-- The state of the run after so many items. -/
def stateAt (n : Nat) : RunState :=
  if n = 0 then .running else if n ≤ t.chunks.length + 3 then .streaming else .listing

/-- The exit status that is known after so many items. -/
def exitStatusAt (n : Nat) : Option Int :=
  if n ≤ t.chunks.length + 1 then none else some t.exitStatus

/-- The run in one of the states after the status line. -/
def noted (state : RunState) : Run :=
  { run with
    state
    sessions := [t.last]
    outcome := some
      { t.outcome with exitStatus := some t.exitStatus, timedOut := t.last.isTimedOut } }

/-- The run after its reports were listed. -/
def listed (state : RunState) (reports : List ReportFile) : Run :=
  { t.noted state with
    outcome := some
      { t.outcome with
        exitStatus := some t.exitStatus
        timedOut := t.last.isTimedOut
        reports := some reports } }

/-- How a body and the world stand after so many items. -/
inductive At : Nat → Body → World → Prop
  | fresh : At 0 ⟨run, .fresh⟩ w
  | opened : At 1 ⟨{ run with state := .streaming }, .opened⟩ w
  | chunk {before after : List (List UInt8)} {session : Session} {w' : World}
      (hchunks : t.chunks = before ++ after)
      (hrest : session.Produces w' after t.output t.last t.world) :
      At (before.length + 1) ⟨run.streaming session, .chunk 0⟩ w'
  | status (houtput : t.output = .ok ()) :
      At (t.chunks.length + 2) ⟨t.noted .streaming, .status⟩ t.world
  | closed (houtput : t.output = .ok ()) :
      At (t.chunks.length + 3) ⟨t.noted .streaming, .closed⟩ t.world
  | sentinel (houtput : t.output = .ok ()) :
      At (t.chunks.length + 4) ⟨t.noted .listing, .sentinel⟩ t.world
  | report {before after : List ReportFile} {w' : World} (houtput : t.output = .ok ())
      (hlisting : t.listing = .ok (before ++ after)) (hbefore : areTexts before = true) :
      At (t.chunks.length + 4 + before.length)
        ⟨t.listed .listing (before ++ after), .report after⟩ w'

/-- How a run stands when its body has come to no further item. -/
structure Ends (last : Run) : Prop where
  isOpen : last.isClosed = false
  sessions : last.sessions = [t.last]
  isDone : last.state = .done ↔ t.work = .ok ()
  exitStatus : last.outcome.bind Outcome.exitStatus = t.exitStatusAt t.items.length

variable {t}

theorem items_late (houtput : t.output = .ok ()) :
    t.items = Body.openMark :: (t.chunks ++ Utf8.encode t.statusText.toList :: Body.closeMark ::
      Body.sentinelMark :: t.reportItems) := by
  simp only [items, lateItems, houtput]

private theorem ends_of_output {failure : Failure} (houtput : t.output = .error failure) :
    t.items.length = t.chunks.length + 1 ∧ t.work = .error failure ∧
      t.Ends (run.streaming t.last) := by
  have hlength : t.items.length = t.chunks.length + 1 := by simp [items, lateItems, houtput]
  have hwork : t.work = .error failure := by simp [work, houtput, bind, Except.bind]
  refine ⟨hlength, hwork, t.isOpen, rfl, by simp [hwork, Run.streaming], ?_⟩
  simp [hlength, exitStatusAt, Run.streaming, t.outcome_eq, t.outcome_exitStatus]

private theorem statusItem_apply (houtput : t.output = .ok ()) (stage : BodyStage) (w' : World) :
    Body.statusItem ⟨run.streaming t.last, stage⟩ w' =
      ((.ok (Utf8.encode t.statusText.toList), ⟨t.noted .streaming, .status⟩), w') := by
  have hover := (t.isOver houtput).exitStatus
  simp only [Body.statusItem, Body.onRun, Body.enter, Run.modifyOutcome, Run.streaming, Run.session?,
    ActOn.bind_apply, ActOn.get_apply, ActOn.part_apply, ActOn.modify_apply, ActOn.pure_apply,
    List.getLast?_singleton, Option.bind_some, Option.map_some, t.outcome_eq, hover]
  rfl

private theorem chunkItem_step {before after : List (List UInt8)} {session : Session} {w' : World}
    (hchunks : t.chunks = before ++ after)
    (hrest : session.Produces w' after t.output t.last t.world) (stage : BodyStage) :
    (∃ item body' w'',
        Body.chunkItem 0 ⟨run.streaming session, stage⟩ w' = ((.ok item, body'), w'') ∧
        t.items[before.length + 1]? = some item ∧ t.At (before.length + 2) body' w'') ∨
      ∃ failure, after = [] ∧ t.output = .error failure ∧
        Body.chunkItem 0 ⟨run.streaming session, stage⟩ w' =
          ((.error failure, ⟨run.streaming t.last, stage⟩), t.world) := by
  obtain ⟨rfl, houtput, hnext⟩ | ⟨failure, rfl, houtput, hnext⟩ |
    ⟨chunk, rest, next, w₁, rfl, hnext, hrest⟩ := hrest.next_cases
  · refine .inl ⟨Utf8.encode t.statusText.toList, ⟨t.noted .streaming, .status⟩, t.world, ?_, ?_, ?_⟩
    · simp only [Body.chunkItem, Body.onRun_onSession, ActOn.bind_apply, hnext]
      exact statusItem_apply houtput stage t.world
    · simp [items_late houtput, hchunks]
    · simpa [hchunks] using At.status houtput
  · refine .inr ⟨failure, rfl, houtput, ?_⟩
    simp [Body.chunkItem, Body.onRun_onSession, hnext]
  · refine .inl ⟨chunk, ⟨run.streaming next, .chunk 0⟩, w₁, ?_, by simp [items, hchunks], ?_⟩
    · simp [Body.chunkItem, Body.onRun_onSession, hnext, Body.enter, Except.map]
    · have hchunks' : t.chunks = (before ++ [chunk]) ++ rest := by simp [hchunks]
      simpa using At.chunk hchunks' hrest

/-- What taking an item after `n` others has to come to: the item that is next and what is behind it,
or the end. -/
def Steps (t : Transcript run w) (n : Nat)
    (after : (Except Failure (Option (List UInt8)) × Body) × World) : Prop :=
  (∃ item, after.1.1 = .ok (some item) ∧ t.items[n]? = some item ∧ t.At (n + 1) after.1.2 after.2) ∨
    (n = t.items.length ∧ after.1.1 = t.work.map (fun _ => none) ∧ t.Ends after.1.2.run)

theorem areTexts_append (before after : List ReportFile) :
    areTexts (before ++ after) = (areTexts before && areTexts after) :=
  List.all_append

/-- After the output has ended well there are at least four items. -/
theorem exitStatusAt_length (houtput : t.output = .ok ()) :
    t.exitStatusAt t.items.length = some t.exitStatus := by
  have hlength : t.items.length = t.chunks.length + 4 + t.reportItems.length := by
    simp only [items_late houtput, List.length_cons, List.length_append]
    omega
  refine if_neg ?_
  omega

/-- The line of the next report, or the end of the body. -/
theorem reportItem_step (houtput : t.output = .ok ()) {before after : List ReportFile}
    (hlisting : t.listing = .ok (before ++ after)) (hbefore : areTexts before = true)
    (stage : BodyStage) (w' : World) :
    t.Steps (t.chunks.length + 4 + before.length)
      (Body.reportItem after ⟨t.listed .listing (before ++ after), stage⟩ w') := by
  obtain ⟨hlines, hlength⟩ := lines_append hbefore after
  have hitems : t.items = Body.openMark :: (t.chunks ++ Utf8.encode t.statusText.toList ::
      Body.closeMark :: Body.sentinelMark :: (lines before ++ lines after)) := by
    rw [items_late houtput, reportItems, hlisting, ← hlines]
  have hwork : t.work = if areTexts after then .ok () else .error .notEncodable := by
    simp [work, houtput, hlisting, bind, Except.bind, areTexts_append, hbefore]
  have hexit := exitStatusAt_length houtput
  cases after with
  | nil =>
    refine .inr ⟨?_, ?_, ?_⟩
    · simp [hitems, lines, hlength]
      omega
    · rw [hwork]
      rfl
    · exact ⟨t.isOpen, rfl, by simp [hwork, areTexts, Body.reportItem, Body.onRun, Run.enter], hexit.symm⟩
  | cons report rest =>
    cases hline : Body.reportLine? report with
    | some line =>
      have htexts : areTexts (before ++ [report]) = true := by
        rw [areTexts_append, hbefore]
        simp [areTexts, hline]
      have hlisting' : t.listing = .ok ((before ++ [report]) ++ rest) := by simpa using hlisting
      refine .inl ⟨line, by simp [Body.reportItem, hline, Body.enter], ?_, ?_⟩
      · have hindex : t.chunks.length + 4 + before.length =
            t.chunks.length + ((lines before).length + 3) + 1 := by omega
        simp [hindex, hitems, lines, hline]
      · simpa [Body.reportItem, hline, Body.enter, Nat.add_assoc] using
          At.report houtput hlisting' htexts
    | none =>
      have htexts : areTexts (report :: rest) = false := by simp [areTexts, hline]
      refine .inr ⟨?_, ?_, ?_⟩
      · simp [hitems, lines, hline, hlength]
        omega
      · simp [hwork, htexts, Body.reportItem, hline]
        rfl
      · refine ⟨by simpa [Body.reportItem, hline, listed, noted] using t.isOpen,
          by simp [Body.reportItem, hline, listed, noted], ?_, ?_⟩
        · simp [hwork, htexts, Body.reportItem, hline, listed, noted]
        · simpa [Body.reportItem, hline, listed] using hexit.symm

private theorem listItem_step (houtput : t.output = .ok ()) :
    t.Steps (t.chunks.length + 4) (Body.listItem ⟨t.noted .listing, .sentinel⟩ t.world) := by
  rcases hlist : Report.list run.config.reportDir t.world with ⟨failure | reports, w'⟩
  · have hlisting : t.listing = .error failure := by rw [listing, hlist]
    have hwork : t.work = .error failure := by
      simp [work, houtput, hlisting, bind, Except.bind]
    have hitem : Body.listItem ⟨t.noted .listing, .sentinel⟩ t.world =
        ((.error failure, ⟨t.noted .listing, .sentinel⟩), w') := by
      simp [Body.listItem, noted, hlist]
    rw [hitem]
    refine .inr ⟨?_, by rw [hwork]; rfl, t.isOpen, rfl, by simp [hwork, noted], ?_⟩
    · simp [items_late houtput, reportItems, hlisting]
    · exact (exitStatusAt_length houtput).symm
  · have hlisting : t.listing = .ok ([] ++ reports) := by
      rw [listing, hlist]
      rfl
    have hitem : Body.listItem ⟨t.noted .listing, .sentinel⟩ t.world =
        Body.reportItem reports ⟨t.listed .listing ([] ++ reports), .sentinel⟩ w' := by
      simp [Body.listItem, noted, listed, hlist, Body.onRun, Run.modifyOutcome]
    rw [hitem]
    exact reportItem_step houtput hlisting rfl .sentinel w'

/-- The output goes on in the same way from the first chunk as from a later one. -/
theorem someChunkItem_step {before after : List (List UInt8)} {session : Session} {w' : World}
    (hchunks : t.chunks = before ++ after)
    (hrest : session.Produces w' after t.output t.last t.world) (stage : BodyStage) :
    t.Steps (before.length + 1) ((do return some (← Body.chunkItem 0) :
      ActOn Body (Option (List UInt8))) ⟨run.streaming session, stage⟩ w') := by
  obtain ⟨item, body', w'', hitem, hnext, hat⟩ | ⟨failure, rfl, houtput, hitem⟩ :=
    chunkItem_step hchunks hrest stage
  · exact .inl ⟨item, by simp [hitem], hnext, by simpa [hitem] using hat⟩
  · obtain ⟨hlength, hwork, hends⟩ := ends_of_output houtput
    refine .inr ⟨?_, by simp [hitem, hwork, Except.map], by simpa [hitem] using hends⟩
    rw [hlength, hchunks, List.append_nil]

private theorem laterItem_opened (t : Transcript run w) :
    Body.laterItem ⟨run.streaming t.session, .opened⟩ w =
      (do return some (← Body.chunkItem 0) : ActOn Body (Option (List UInt8)))
        ⟨run.streaming { t.session with reader := .fresh }, .opened⟩ w := by
  have hcurrent : (run.streaming t.session).current = 0 := rfl
  have hreader : Session.openReader t.session w =
      ((.ok (), { t.session with reader := .fresh }), w) := by
    simp [Session.openReader, t.reader_eq]
  simp only [Body.laterItem, ActOn.bind_apply, ActOn.get_apply, hcurrent, Body.onRun_onSession,
    hreader]

/-- Where a body stands after some items decides what comes next. -/
theorem laterItem_step {n : Nat} {body : Body} {w' : World} (hat : t.At n body w')
    (hstarted : body.stage.isStarted = true) : t.Steps n (Body.laterItem body w') := by
  cases hat with
  | fresh => cases hstarted
  | opened =>
    have hrun : { run with state := .streaming } = run.streaming t.session := by
      rw [Run.streaming, ← t.sessions_eq]
    rw [hrun, t.laterItem_opened]
    exact someChunkItem_step (List.nil_append _).symm t.produces _
  | chunk hchunks hrest =>
    rw [Body.laterItem, ActOn.bind_apply, ActOn.get_apply]
    exact someChunkItem_step hchunks hrest _
  | status houtput =>
    have hitem : Body.laterItem ⟨t.noted .streaming, .status⟩ t.world =
        ((.ok (some Body.closeMark), ⟨t.noted .streaming, .closed⟩), t.world) := by
      simp [Body.laterItem, Body.enter, Except.map]
    rw [hitem]
    exact .inl ⟨Body.closeMark, rfl, by simp [items_late houtput], .closed houtput⟩
  | closed houtput =>
    have hitem : Body.laterItem ⟨t.noted .streaming, .closed⟩ t.world =
        ((.ok (some Body.sentinelMark), ⟨t.noted .listing, .sentinel⟩), t.world) := by
      simp [Body.laterItem, Body.enter, Body.onRun, Run.enter, noted, Except.map]
    rw [hitem]
    exact .inl ⟨Body.sentinelMark, rfl, by simp [items_late houtput], .sentinel houtput⟩
  | sentinel houtput =>
    rw [Body.laterItem, ActOn.bind_apply, ActOn.get_apply]
    exact listItem_step houtput
  | report houtput hlisting hbefore =>
    rw [Body.laterItem, ActOn.bind_apply, ActOn.get_apply]
    exact reportItem_step houtput hlisting hbefore _ _

end Transcript

end ScanLauncher
