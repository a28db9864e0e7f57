import ScanLauncher.Proofs.Report.Listing
import ScanLauncher.Proofs.Run.Framing
import ScanLauncher.Proofs.System.Files
import ScanLauncher.Proofs.System.Reader

namespace ScanLauncher

theorem Config.not_mem_reportDir_name (config : Config) :
    Glyph.char '/' ∉ config.reportDir.name.glyphs := by
  have hparts : Location.IsNamed config.reportDir.parts := by
    have hcomponents (t : Text) : Location.IsNamed (Path.components t) := fun name hname =>
      Text.not_mem_of_mem_splitOn (List.mem_filter.mp hname).1
    change Location.IsNamed (Path.join _ _).parts
    unfold Path.join
    split
    · exact hcomponents _
    · exact (hcomponents _).append (hcomponents _)
  unfold Path.name
  cases hlast : config.reportDir.parts.getLast? with
  | none => exact List.not_mem_nil
  | some name => exact hparts name (List.mem_of_getLast? hlast)

theorem FileSystem.IsNamed.children {fs : FileSystem} (h : fs.IsNamed) {place : Location}
    {name : Text} {entry : Entry} (hchild : (name, entry) ∈ fs.tree.children place) :
    Glyph.char '/' ∉ name.glyphs := by
  obtain ⟨⟨loc, found⟩, hfound, hchild⟩ := List.mem_filterMap.mp hchild
  obtain ⟨rfl, rfl⟩ := Tree.child_eq_some_iff.mp hchild
  exact h.entries _ hfound name (List.mem_append_right place (.head []))

private theorem Report.named_of_list {path : Path} {w : World} (hnamed : w.files.IsNamed)
    {reports : List ReportFile} (hlist : (list path w).1 = .ok reports) :
    ∀ report ∈ reports, report.directoryName = path.name ∧
      Glyph.char '/' ∉ report.relativePath.glyphs := by
  intro report hreport
  obtain ⟨hdirectory, _, _, _, hchild, _⟩ := mem_children_of_list hlist hreport
  exact ⟨hdirectory, hnamed.children hchild⟩

namespace Body

/-- The item that was asked for, if it came. -/
def itemBytes : Except Failure (Option (List UInt8)) → List UInt8
  | .ok (some item) => item
  | _ => []

end Body

/-- Whether the last item was output of the script. -/
def BodyStage.isOutput : BodyStage → Bool
  | chunk _ => true
  | _ => false

namespace Body

/-- What a body at a stage has told so far, from the output that it has handed out and from the outcome
of its run. -/
def Told (config : Config) (outcome : Option Outcome) (output bytes : List UInt8) : BodyStage → Prop
  | .fresh => output = [] ∧ bytes = []
  | .opened => output = [] ∧ bytes = openMark
  | .chunk _ => bytes = openMark ++ output
  | .status => ∃ noted, outcome = some noted ∧
      bytes = openMark ++ (output ++ statusLine config noted)
  | .closed => ∃ noted, outcome = some noted ∧
      bytes = openMark ++ (output ++ statusLine config noted) ++ closeMark
  | .sentinel => ∃ noted, outcome = some noted ∧
      bytes = openMark ++ (output ++ statusLine config noted) ++ (closeMark ++ sentinelMark)
  | .report rest => ∃ noted reported, outcome = some noted ∧ noted.reports = some (reported ++ rest) ∧
      (∀ report ∈ reported ++ rest, report.directoryName = config.reportDir.name ∧
        Glyph.char '/' ∉ report.relativePath.glyphs) ∧
      (∀ report ∈ reported, (reportLine? report).isSome = true) ∧
      bytes = openMark ++ (output ++ statusLine config noted) ++
        (closeMark ++ sentinelMark ++ reportSection reported)
  | .finished => True

variable {config : Config} {outcome outcome' : Option Outcome} {output bytes : List UInt8}

private theorem Told.of_outcome {stage : BodyStage} (h : Told config outcome output bytes stage)
    (hsame : stage.isLate = true → outcome' = outcome) : Told config outcome' output bytes stage := by
  cases stage with
  | fresh | opened | chunk | finished => exact h
  | status | closed | sentinel | report =>
    rw [hsame rfl]
    exact h

/-- The reports that come next, and what was told of those before. -/
theorem Told.lists {run run' : Run} {stage : BodyStage} {w : World} {reports : List ReportFile}
    (h : Told run.config run.outcome output bytes stage) (hnamed : w.files.IsNamed)
    (hlists : Lists w ⟨run, stage⟩ run' reports) :
    run'.config = run.config ∧ Told run.config run'.outcome output bytes (.report reports) := by
  cases hlists with
  | before => exact ⟨rfl, h⟩
  | now hlist =>
    obtain ⟨noted, houtcome, rfl⟩ := h
    refine ⟨rfl, { noted with reports := some reports }, [], ?_, rfl, ?_, by simp, ?_⟩
    · simp [Run.listed, houtcome]
    · exact Report.named_of_list hnamed hlist
    · have hline : statusLine run.config { noted with reports := some reports } =
          statusLine run.config noted := rfl
      rw [hline, reportSection, List.flatMap_nil, List.append_nil]

/-- One item more. -/
theorem Told.step {run : Run} {stage : BodyStage} {w : World} {body : Body}
    {result : Except Failure (Option (List UInt8))}
    (h : Told run.config run.outcome output bytes stage) (hnamed : w.files.IsNamed)
    (hstep : Step w ⟨run, stage⟩ result body) :
    Told run.config body.run.outcome
      (output ++ if body.stage.isOutput then itemBytes result else []) (bytes ++ itemBytes result)
      body.stage := by
  cases hstep with
  | spent | refused | broken | unlisted | unnamed | ended => trivial
  | opening =>
    obtain ⟨rfl, rfl⟩ := h
    exact ⟨rfl, rfl⟩
  | chunk hreads hnext =>
    cases hreads with
    | first =>
      obtain ⟨rfl, rfl⟩ := h
      simp [Told, itemBytes, BodyStage.isOutput]
    | later =>
      obtain rfl : bytes = _ := h
      simp [Told, itemBytes, BodyStage.isOutput]
  | status hreads hnext houtcome =>
    refine ⟨_, houtcome, ?_⟩
    cases hreads with
    | first =>
      obtain ⟨rfl, rfl⟩ := h
      simp [itemBytes, BodyStage.isOutput]
    | later =>
      obtain rfl : bytes = _ := h
      simp [itemBytes, BodyStage.isOutput]
  | closing =>
    obtain ⟨noted, houtcome, rfl⟩ := h
    exact ⟨noted, houtcome, by simp [itemBytes, BodyStage.isOutput]⟩
  | announcing =>
    obtain ⟨noted, houtcome, rfl⟩ := h
    exact ⟨noted, houtcome, by simp [itemBytes, BodyStage.isOutput]⟩
  | report hlists hline =>
    rename_i report rest line
    obtain ⟨_, noted, reported, houtcome, hreports, hnamed', htexts, rfl⟩ := h.lists hnamed hlists
    refine ⟨noted, reported ++ [report], houtcome, by simpa using hreports, by simpa using hnamed',
      ?_, ?_⟩
    · rw [List.forall_mem_append]
      exact ⟨htexts, by simp [hline]⟩
    · simp [itemBytes, BodyStage.isOutput, reportSection, hline]

/-- A run comes to be done only by a body that has told everything. -/
theorem Told.framed {run : Run} {stage : BodyStage} {w : World} {body : Body}
    {result : Except Failure (Option (List UInt8))} {last : Outcome}
    (h : Told run.config run.outcome output bytes stage) (hnamed : w.files.IsNamed)
    (hstep : Step w ⟨run, stage⟩ result body) (hbefore : run.state ≠ .done)
    (hdone : body.run.state = .done) (hlast : body.run.outcome = some last) :
    bytes = Body.framed run.config output last ∧ last.reports.isSome = true ∧
      AreShown run.config.reportDir.name (last.reports.getD []) := by
  cases hstep with
  | spent | chunk | status | closing => exact absurd hdone hbefore
  | opening | announcing => cases hdone
  | refused | broken | unlisted => exact absurd (Run.state_of_closed hdone) hbefore
  | report hlists => cases hlists <;> exact absurd hdone hbefore
  | unnamed hlists => cases hlists <;> exact absurd (Run.state_of_closed hdone) hbefore
  | ended hlists =>
    obtain ⟨_, noted, reported, houtcome, hreports, hnamed', htexts, rfl⟩ := h.lists hnamed hlists
    rw [List.append_nil] at hreports hnamed'
    rw [Run.outcome_closed] at hlast
    obtain rfl : noted = last := Option.some.inj (houtcome.symm.trans hlast)
    rw [hreports]
    refine ⟨by simp [Body.framed, hreports], rfl, fun report hreport => ?_⟩
    exact ⟨(hnamed' report hreport).1, (hnamed' report hreport).2, htexts report hreport⟩

end Body

namespace System

/-- The item that a body hands out at an operation, with the stage at which that leaves the body. -/
def item? (s : System) (b : Nat) : Operation → Option (BodyStage × List UInt8)
  | .advance body =>
    if body = b then
      match s.perform (.advance b) with
      | (.ok (some item), after) => after.bodies[b]?.map fun body => (body.2, item)
      | _ => none
    else none
  | _ => none

/-- All items that a body hands out over some operations. -/
def told (s : System) (b : Nat) : List Operation → List (BodyStage × List UInt8)
  | [] => []
  | operation :: rest => (s.item? b operation).toList ++ (s.perform operation).2.told b rest

/-- The bytes of some items. -/
def bytesOf (items : List (BodyStage × List UInt8)) : List UInt8 := items.flatMap Prod.snd

/-- The bytes of those items that are output of the script. -/
def outputOf (items : List (BodyStage × List UInt8)) : List UInt8 :=
  bytesOf (items.filter (·.1.isOutput))

variable {s : System} {i b : Nat} {operation : Operation}

theorem item?_eq_none (h : operation ≠ .advance b ∨ s.bodies[b]? = none) :
    s.item? b operation = none := by
  cases operation with
  | start | openBody | closeBody | close | expire | disturb => rfl
  | advance body =>
    by_cases hsame : body = b
    · subst hsame
      have hnone := h.resolve_left (by simp)
      simp [item?, perform, onBody, hnone]
    · simp [item?, hsame]

private theorem told_advance {items : List (BodyStage × List UInt8)} {stage : BodyStage}
    (hstage : (s.perform (.advance b)).2.stage? i b = some stage) :
    bytesOf (items ++ (s.item? b (.advance b)).toList) =
        bytesOf items ++ Body.itemBytes (s.perform (.advance b)).1 ∧
      outputOf (items ++ (s.item? b (.advance b)).toList) =
        outputOf items ++
          if stage.isOutput then Body.itemBytes (s.perform (.advance b)).1 else [] := by
  have hbody := stage?_eq_some.mp hstage
  rcases hperform : s.perform (.advance b) with ⟨failure | ⟨_ | item⟩, after⟩
  · simp [item?, hperform, Body.itemBytes]
  · simp [item?, hperform, Body.itemBytes]
  · rw [hperform] at hbody
    cases hout : stage.isOutput with
    | true => simp [item?, hperform, hbody, Body.itemBytes, bytesOf, outputOf, hout]
    | false => simp [item?, hperform, hbody, Body.itemBytes, bytesOf, outputOf, hout]

private theorem length_bodies_perform (s : System) (operation : Operation) :
    s.bodies.length ≤ (s.perform operation).2.bodies.length := by
  have honBody (b : Nat) {α : Type} (act : ActOn Body α) :
      s.bodies.length ≤ (s.onBody b act).2.bodies.length := by
    obtain hsame | ⟨i, stage, run, _, _, hafter⟩ := s.onBody_cases b act
    · rw [hsame]
    · simp [hafter]
  cases operation with
  | start | disturb => exact Nat.le_refl _
  | openBody run =>
    simp only [perform]
    split
    · simp
    · exact Nat.le_refl _
  | advance body => exact honBody body _
  | closeBody body => exact honBody body _
  | close run =>
    simp only [perform, noItem, bodies_onRun]
    exact Nat.le_refl _
  | expire run =>
    simp only [perform, noItem, bodies_onRun]
    exact Nat.le_refl _

section RunStep

variable {run run' : Run} {session : Session} {result : Except Failure (Option (List UInt8))}
  {stages : Nat → Option BodyStage}

theorem RunStep.config_eq (hstep : s.RunStep i run operation result run' stages) :
    run'.config = run.config := by
  cases hstep with
  | elsewhere | opened | expired => rfl
  | closed => exact run.config_closed
  | givenUp _ hgiven =>
    cases hgiven with
    | unread => rfl
    | between => exact run.config_closed
    | reading => exact Run.config_closed _
  | advanced _ hstep =>
    cases hstep with
    | spent | opening | chunk | status | closing | announcing => rfl
    | refused | unlisted | broken => exact Run.config_closed _
    | report hlists => cases hlists <;> rfl
    | unnamed hlists | ended hlists => cases hlists <;> exact Run.config_closed _

/-- A body that is not asked for an item stays where it is, or ends, or has just been opened; and while
it has the reader the outcome stays as it is. -/
theorem RunStep.stage_cases (hstep : s.RunStep i run operation result run' stages)
    (hread : run.IsRead (s.stage? i) session)
    (hasked : ∀ stage, s.stage? i b = some stage → operation ≠ .advance b) {stage : BodyStage}
    (hstage : stages b = some stage) :
    stage = .finished ∨ (b = s.bodies.length ∧ stage = .fresh) ∨
      (s.stage? i b = some stage ∧ (stage.isLate = true → run'.outcome = run.outcome)) := by
  cases hstep with
  | elsewhere => exact .inr (.inr ⟨hstage, fun _ => rfl⟩)
  | opened =>
    by_cases hnew : b = s.bodies.length
    · subst hnew
      rw [Function.update_self] at hstage
      exact .inr (.inl ⟨rfl, (Option.some.inj hstage).symm⟩)
    · rw [Function.update_of_ne hnew] at hstage
      exact .inr (.inr ⟨hstage, fun _ => rfl⟩)
  | advanced hother hstep =>
    rename_i other stage' body
    have hne : other ≠ b := by
      rintro rfl
      exact hasked stage' hother rfl
    rw [Function.update_of_ne (Ne.symm hne)] at hstage
    exact .inr (.inr ⟨hstage, fun hlate => hread.outcome_of_other hstage hlate hother hne hstep⟩)
  | @givenUp other _ _ body hother hgiven =>
    by_cases hne : other = b
    · subst hne
      rw [Function.update_self] at hstage
      cases hgiven <;> exact .inl (Option.some.inj hstage).symm
    · rw [Function.update_of_ne (Ne.symm hne)] at hstage
      refine .inr (.inr ⟨hstage, fun _ => ?_⟩)
      cases hgiven with
      | unread => rfl
      | between => exact run.outcome_closed
      | reading => exact Run.outcome_closed _
  | closed => exact .inr (.inr ⟨hstage, fun _ => run.outcome_closed⟩)
  | expired => exact .inr (.inr ⟨hstage, fun _ => rfl⟩)

end RunStep

/-- A run and one of its bodies, in a system whose accounts are in order: what the body has told so far
fits its stage. -/
structure Watches (s : System) (i b : Nat) (config : Config) (items : List (BodyStage × List UInt8)) :
    Prop where
  sound : s.Sound
  isNamed : s.world.files.IsNamed
  unopened : s.bodies.length ≤ b → items = []
  exists_run : ∃ run session, s.runs[i]? = some run ∧ run.config = config ∧
    run.IsRead (s.stage? i) session ∧ ∀ stage, s.stage? i b = some stage →
      Body.Told config run.outcome (outputOf items) (bytesOf items) stage

variable {config : Config} {items : List (BodyStage × List UInt8)}

theorem Watches.perform (h : s.Watches i b config items)
    (hbrings : operation.Brings FileSystem.IsNamed) :
    (s.perform operation).2.Watches i b config (items ++ (s.item? b operation).toList) := by
  obtain ⟨hsound, hnamed, hunopened, run, session, hrun, rfl, hread, htold⟩ := h
  obtain ⟨run', hrun', hstep⟩ := runStep_perform hsound hrun hread.isStarted operation
  obtain ⟨session', hread'⟩ := hread.runStep hstep
  refine ⟨sound_perform hsound operation, files_perform FileSystem.isStable_isNamed hnamed hbrings,
    fun hlength => ?_, run', session', hrun', hstep.config_eq, hread', fun stage' hstage' => ?_⟩
  · have hbefore := Nat.le_trans (length_bodies_perform s operation) hlength
    rw [hunopened hbefore, item?_eq_none (.inr (List.getElem?_eq_none hbefore))]
    rfl
  by_cases hasked : operation = .advance b ∧ ∃ stage, s.stage? i b = some stage
  · obtain ⟨rfl, stage, hstage⟩ := hasked
    obtain ⟨body, hbody, hafter, hstages⟩ :=
      hsound.step_advance (stage?_eq_some.mp hstage) hrun hread.isStarted
    obtain rfl : run' = body.run := Option.some.inj (hrun'.symm.trans hafter)
    obtain ⟨hbytes, houtput⟩ := told_advance hstage'
    rw [hbytes, houtput]
    rw [hstages, Function.update_self, Option.some.injEq] at hstage'
    subst hstage'
    exact (htold stage hstage).step hnamed hbody
  · have hother (stage : BodyStage) (hstage : s.stage? i b = some stage) : operation ≠ .advance b :=
      fun hadvance => hasked ⟨hadvance, stage, hstage⟩
    obtain rfl | ⟨rfl, rfl⟩ | ⟨hstage, houtcome⟩ := hstep.stage_cases hread hother hstage'
    · trivial
    · rw [hunopened (Nat.le_refl _), item?_eq_none (.inr (by simp))]
      exact ⟨rfl, rfl⟩
    · rw [item?_eq_none (.inl (hother stage' hstage)), Option.toList_none, List.append_nil]
      exact (htold stage' hstage).of_outcome houtcome

theorem Watches.after (h : s.Watches i b config items) {operations : List Operation}
    (hbrings : ∀ operation ∈ operations, operation.Brings FileSystem.IsNamed) :
    (s.after operations).Watches i b config (items ++ s.told b operations) := by
  induction operations generalizing s items with
  | nil => simpa [told, System.after] using h
  | cons operation rest ih =>
    have hfirst := h.perform (hbrings operation (.head rest))
    have hrest := ih hfirst fun other hother => hbrings other (.tail operation hother)
    rw [List.append_assoc] at hrest
    exact hrest

end System

end ScanLauncher
