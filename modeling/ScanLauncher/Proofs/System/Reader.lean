import ScanLauncher.Proofs.System.RunStep

namespace ScanLauncher

/-- A body at such a stage has had the reader and has not ended. -/
def BodyStage.isLate : BodyStage → Bool
  | chunk _ | status | closed | sentinel | report _ => true
  | fresh | opened | finished => false

namespace Run

/-- A run is done after it was closed only if it was done before. -/
theorem state_of_closed {run : Run} (hdone : run.closed.state = .done) : run.state = .done := by
  unfold closed at hdone
  split at hdone
  · exact hdone
  · by_contra hactive
    simp [hactive] at hdone

/-- Closing a run leaves the reader of its output as it is. -/
theorem sessions_closed {run : Run} {session : Session} (hsession : run.sessions = [session]) :
    ∃ after, run.closed.sessions = [after] ∧ after.reader = session.reader := by
  unfold closed
  split
  · exact ⟨session, hsession, rfl⟩
  · refine ⟨session.shut, by simp [hsession], ?_⟩
    unfold Session.shut
    split <;> rfl

end Run

/-- The accounts of reading: the stages of a run's bodies, the reader of its output and its state. -/
structure Readers (stages : Nat → Option BodyStage) (reader : Reader) (state : RunState) : Prop where
  unique : ∀ b b' stage stage', stages b = some stage → stages b' = some stage' →
    stage.isLate = true → stage'.isLate = true → b = b'
  taken : ∀ b stage, stages b = some stage → stage.isLate = true → reader ≠ .absent ∧ state ≠ .done
  done : state = .done → reader ≠ .absent
  waiting : ∀ b index, stages b = some (.chunk index) → reader = .suspended

namespace Readers

variable {stages : Nat → Option BodyStage} {reader reader' : Reader} {state state' : RunState}
  {b : Nat} {stage stage' : BodyStage}

/-- A body that is not late takes part in no accounts. -/
theorem idle (h : Readers stages reader state) (b : Nat) (hidle : stage'.isLate = false) :
    Readers (Function.update stages b (some stage')) reader state := by
  have hold {other : Nat} {found : BodyStage}
      (hfound : Function.update stages b (some stage') other = some found)
      (hlate : found.isLate = true) : stages other = some found := by
    by_cases hsame : other = b
    · subst hsame
      rw [Function.update_self] at hfound
      rw [← Option.some.inj hfound, hidle] at hlate
      cases hlate
    · rwa [Function.update_of_ne hsame] at hfound
  refine ⟨fun b b' stage stage' hb hb' hlate hlate' => ?_, fun b stage hb hlate => ?_, h.done,
    fun b index hb => ?_⟩
  · exact h.unique b b' stage stage' (hold hb hlate) (hold hb' hlate') hlate hlate'
  · exact h.taken b stage (hold hb hlate) hlate
  · exact h.waiting b index (hold hb rfl)

theorem of_state (h : Readers stages reader state) (hstate : state' = .done → state = .done) :
    Readers stages reader state' :=
  ⟨h.unique, fun b stage hb hlate => ⟨(h.taken b stage hb hlate).1,
    fun hdone => (h.taken b stage hb hlate).2 (hstate hdone)⟩, fun hdone => h.done (hstate hdone),
    h.waiting⟩

/-- The body that has the reader, or takes it now, is the only one that can be late. -/
theorem not_late (h : Readers stages reader state) (hb : stages b = some stage)
    (hreader : stage.isLate = true ∨ reader = .absent) {other : Nat} (hne : other ≠ b)
    (hother : stages other = some stage') : stage'.isLate = false := by
  by_contra hlate
  have hlate := eq_true_of_ne_false hlate
  rcases hreader with hreader | hreader
  · exact hne (h.unique other b stage' stage hother hb hlate hreader)
  · exact (h.taken other stage' hother hlate).1 hreader

/-- The body that has the reader, or takes it now, goes on. -/
theorem advance (h : Readers stages reader state) (hb : stages b = some stage)
    (hreader : stage.isLate = true ∨ reader = .absent) (hreader' : reader' ≠ .absent)
    (hwaiting : ∀ index, stage' = .chunk index → reader' = .suspended) (hstate : state' ≠ .done) :
    Readers (Function.update stages b (some stage')) reader' state' := by
  have hnone {other : Nat} {found : BodyStage} (hne : other ≠ b)
      (hfound : Function.update stages b (some stage') other = some found) :
      found.isLate = false := by
    rw [Function.update_of_ne hne] at hfound
    exact h.not_late hb hreader hne hfound
  have hplace {other : Nat} {found : BodyStage}
      (hfound : Function.update stages b (some stage') other = some found)
      (hlate : found.isLate = true) : other = b := by
    by_contra hne
    rw [hnone hne hfound] at hlate
    cases hlate
  refine ⟨fun c c' _ _ hc hc' hlate hlate' => (hplace hc hlate).trans (hplace hc' hlate').symm,
    fun _ _ _ _ => ⟨hreader', hstate⟩, fun hdone => absurd hdone hstate, fun c index hc => ?_⟩
  obtain rfl := hplace hc rfl
  rw [Function.update_self] at hc
  exact hwaiting index (Option.some.inj hc)

/-- The body that has the reader, or takes it now, ends. -/
theorem finish (h : Readers stages reader state) (hb : stages b = some stage)
    (hreader : stage.isLate = true ∨ reader = .absent) (hreader' : reader' ≠ .absent) :
    Readers (Function.update stages b (some .finished)) reader' state' := by
  have hnone {other : Nat} {found : BodyStage}
      (hfound : Function.update stages b (some .finished) other = some found) :
      found.isLate = false := by
    by_cases hsame : other = b
    · subst hsame
      rw [Function.update_self] at hfound
      rw [← Option.some.inj hfound]
      rfl
    · rw [Function.update_of_ne hsame] at hfound
      exact h.not_late hb hreader hsame hfound
  refine ⟨fun _ _ _ _ hc _ hlate => ?_, fun _ _ hc hlate => ?_, fun _ => hreader', fun _ _ hc => ?_⟩
  · rw [hnone hc] at hlate
    cases hlate
  · rw [hnone hc] at hlate
    cases hlate
  · have hlate := hnone hc
    cases hlate

end Readers

/-- A run with one session and an outcome whose bodies keep the accounts of reading. -/
structure Run.IsRead (run : Run) (stages : Nat → Option BodyStage) (session : Session) : Prop where
  session_eq : run.sessions = [session]
  outcome : run.outcome.isSome = true
  readers : Readers stages session.reader run.state

namespace Run.IsRead

variable {run : Run} {stages : Nat → Option BodyStage} {session : Session}

theorem isStarted (h : run.IsRead stages session) : run.IsStarted :=
  ⟨by rw [h.session_eq]; rfl, h.outcome⟩

/-- Closing a run does not touch the accounts. -/
theorem close (h : run.IsRead stages session) : ∃ after, run.closed.IsRead stages after := by
  obtain ⟨after, hafter, hreader⟩ := sessions_closed h.session_eq
  refine ⟨after, hafter, by rw [outcome_closed, h.outcome], ?_⟩
  rw [hreader]
  exact h.readers.of_state state_of_closed

/-- The session that a body asks for output has a reader, which the body has or takes now. -/
theorem reads (h : run.IsRead stages session) {b : Nat} {stage : BodyStage}
    (hb : stages b = some stage) {asked : Session} (hreads : Body.Reads ⟨run, stage⟩ asked) :
    asked.IsActive ∧ (stage.isLate = true ∨ session.reader = .absent) := by
  cases hreads with
  | first hsession hreader =>
    obtain rfl := List.singleton_inj.mp (h.session_eq.symm.trans hsession)
    exact ⟨.inl rfl, .inr hreader⟩
  | later hsession =>
    obtain rfl := List.singleton_inj.mp (h.session_eq.symm.trans hsession)
    exact ⟨.inr (h.readers.waiting b 0 hb), .inl rfl⟩

theorem state_ne_done (h : run.IsRead stages session) {b : Nat} {stage : BodyStage}
    (hb : stages b = some stage) (hreader : stage.isLate = true ∨ session.reader = .absent) :
    run.state ≠ .done := by
  rcases hreader with hlate | habsent
  · exact (h.readers.taken b stage hb hlate).2
  · exact fun hdone => h.readers.done hdone habsent

/-- Listing the reports does not touch the accounts. -/
theorem lists (h : run.IsRead stages session) {stage : BodyStage} {w : World} {run' : Run}
    {reports : List ReportFile} (hlists : Body.Lists w ⟨run, stage⟩ run' reports) :
    run'.IsRead stages session ∧ stage.isLate = true := by
  cases hlists with
  | before => exact ⟨h, rfl⟩
  | now => exact ⟨⟨h.session_eq, by simp [listed, h.outcome], h.readers⟩, rfl⟩

/-- The body that has the reader of a run's output, or has just taken it, ends, and the run is closed
with it. -/
theorem finish (h : run.IsRead stages session) {b : Nat} {stage : BodyStage}
    (hb : stages b = some stage) (hreader : stage.isLate = true ∨ session.reader = .absent)
    {ended : Run} {last : Session} (hlast : ended.sessions = [last]) (hlast' : last.reader ≠ .absent)
    (houtcome : ended.outcome.isSome = true) :
    ∃ after, ended.closed.IsRead (Function.update stages b (some .finished)) after := by
  obtain ⟨after, hafter, hkept⟩ := sessions_closed hlast
  refine ⟨after, hafter, by rw [outcome_closed, houtcome], ?_⟩
  exact h.readers.finish hb hreader (by rw [hkept]; exact hlast')

/-- One item of a body keeps the accounts. -/
theorem step (h : run.IsRead stages session) {b : Nat} {stage : BodyStage}
    (hb : stages b = some stage) {w : World} {result : Except Failure (Option (List UInt8))}
    {body : Body} (hstep : Body.Step w ⟨run, stage⟩ result body) :
    ∃ after, body.run.IsRead (Function.update stages b (some body.stage)) after := by
  have hreaders := h.readers
  cases hstep with
  | spent => exact ⟨session, h.session_eq, h.outcome, hreaders.idle b rfl⟩
  | opening => exact ⟨session, h.session_eq, h.outcome, (hreaders.idle b rfl).of_state nofun⟩
  | refused =>
    have hended : run.IsRead (Function.update stages b (some .finished)) session :=
      ⟨h.session_eq, h.outcome, hreaders.idle b rfl⟩
    exact hended.close
  | chunk hreads hnext =>
    rename_i asked after chunk w'
    obtain ⟨hactive, hreader⟩ := h.reads hb hreads
    have hafter : after.reader = .suspended := by simpa [hnext] using asked.reader_next hactive w
    refine ⟨after, rfl, h.outcome, hreaders.advance hb hreader ?_ (fun _ _ => hafter)
      (h.state_ne_done hb hreader)⟩
    rw [hafter]
    exact nofun
  | status hreads hnext houtcome =>
    rename_i asked after outcome w'
    obtain ⟨hactive, hreader⟩ := h.reads hb hreads
    have hafter : after.reader = .finished := by simpa [hnext] using asked.reader_next hactive w
    refine ⟨after, rfl, by rw [houtcome]; rfl, hreaders.advance hb hreader ?_ nofun
      (h.state_ne_done hb hreader)⟩
    rw [hafter]
    exact nofun
  | broken hreads hnext =>
    rename_i asked after failure w'
    obtain ⟨hactive, hreader⟩ := h.reads hb hreads
    have hafter : after.reader = .finished := by simpa [hnext] using asked.reader_next hactive w
    refine h.finish hb hreader rfl ?_ h.outcome
    rw [hafter]
    exact nofun
  | closing =>
    obtain ⟨htaken, hstate⟩ := hreaders.taken b _ hb rfl
    exact ⟨session, h.session_eq, h.outcome, hreaders.advance hb (.inl rfl) htaken nofun hstate⟩
  | announcing =>
    obtain ⟨htaken, _⟩ := hreaders.taken b _ hb rfl
    exact ⟨session, h.session_eq, h.outcome, hreaders.advance hb (.inl rfl) htaken nofun nofun⟩
  | unlisted =>
    exact h.finish hb (.inl rfl) h.session_eq (hreaders.taken b _ hb rfl).1 h.outcome
  | report hlists =>
    obtain ⟨hlisted, hlate⟩ := h.lists hlists
    obtain ⟨htaken, hstate⟩ := hlisted.readers.taken b _ hb hlate
    exact ⟨session, hlisted.session_eq, hlisted.outcome,
      hlisted.readers.advance hb (.inl hlate) htaken nofun hstate⟩
  | unnamed hlists =>
    obtain ⟨hlisted, hlate⟩ := h.lists hlists
    exact h.finish hb (.inl hlate) hlisted.session_eq (hreaders.taken b _ hb hlate).1 hlisted.outcome
  | ended hlists =>
    obtain ⟨hlisted, hlate⟩ := h.lists hlists
    exact h.finish hb (.inl hlate) hlisted.session_eq (hreaders.taken b _ hb hlate).1 hlisted.outcome

/-- While a body has the reader, no other one changes the outcome. -/
theorem outcome_of_other (h : run.IsRead stages session) {b other : Nat} {stage stage' : BodyStage}
    (hb : stages b = some stage) (hlate : stage.isLate = true) (hother : stages other = some stage')
    (hne : other ≠ b) {w : World} {result : Except Failure (Option (List UInt8))} {body : Body}
    (hstep : Body.Step w ⟨run, stage'⟩ result body) : body.run.outcome = run.outcome := by
  have hnot : stage'.isLate = false := h.readers.not_late hb (.inl hlate) hne hother
  have hnoList {run' : Run} {reports : List ReportFile} {P : Prop}
      (hlists : Body.Lists w ⟨run, stage'⟩ run' reports) : P := by
    rw [(h.lists hlists).2] at hnot
    cases hnot
  cases hstep with
  | spent | opening | chunk | closing | announcing => rfl
  | refused | broken | unlisted => exact outcome_closed _
  | status hreads hnext houtcome =>
    rcases (h.reads hother hreads).2 with hlate' | habsent
    · rw [hlate'] at hnot
      cases hnot
    · exact absurd habsent (h.readers.taken b stage hb hlate).1
  | report hlists | unnamed hlists | ended hlists => exact hnoList hlists

theorem givenUp (h : run.IsRead stages session) {b : Nat} {stage : BodyStage}
    (hb : stages b = some stage) {result : Except Failure Unit} {body : Body}
    (hgiven : Body.GivenUp ⟨run, stage⟩ result body) :
    ∃ after, body.run.IsRead (Function.update stages b (some body.stage)) after := by
  have hended : run.IsRead (Function.update stages b (some .finished)) session :=
    ⟨h.session_eq, h.outcome, h.readers.idle b rfl⟩
  cases hgiven with
  | unread => exact ⟨session, hended⟩
  | between => exact hended.close
  | reading hsession hreader =>
    obtain rfl := List.singleton_inj.mp (h.session_eq.symm.trans hsession)
    have htaken := (h.readers.taken b _ hb rfl).1
    exact h.finish hb (.inl rfl) rfl (fun habsent => htaken (hreader habsent)) h.outcome

/-- No operation of a system breaks the accounts. -/
theorem runStep {s : System} {i : Nat} (h : run.IsRead (s.stage? i) session) {operation : Operation}
    {result : Except Failure (Option (List UInt8))} {run' : Run}
    (hstep : s.RunStep i run operation result run' stages) : ∃ after, run'.IsRead stages after := by
  cases hstep with
  | elsewhere => exact ⟨session, h⟩
  | opened => exact ⟨session, h.session_eq, h.outcome, h.readers.idle _ rfl⟩
  | advanced hstage hstep => exact h.step hstage hstep
  | givenUp hstage hgiven => exact h.givenUp hstage hgiven
  | closed => exact h.close
  | expired hsession hexpire =>
    rename_i asked after result w'
    obtain rfl := List.singleton_inj.mp (h.session_eq.symm.trans hsession)
    have hreader : after.reader = session.reader := by
      obtain ⟨_, session', _, hcases, _, hsame⟩ := session.expire_cases s.world
      rw [hexpire] at hcases
      obtain rfl : after = session' := by
        cases hcases
        rfl
      rcases hsame with rfl | rfl <;> rfl
    refine ⟨after, rfl, h.outcome, ?_⟩
    rw [hreader]
    exact h.readers

end Run.IsRead

/-- A run that was just started has no body: it would have been one of a run that was not there. -/
theorem System.Sound.stage?_start {s : System} (hsound : s.Sound) (config : Config)
    (url revision subdir : Option Text) (b : Nat) :
    (s.perform (.start config url revision subdir)).2.stage? s.runs.length b = none := by
  obtain ⟨_, _, run, w', hperform, _⟩ :=
    s.perform_start (show (Operation.start config url revision subdir).config? = some config from rfl)
  rw [hperform]
  refine Option.eq_none_iff_forall_ne_some.mpr fun stage hstage => ?_
  obtain ⟨other, hother, _⟩ := hsound.bodies _ (List.mem_of_getElem? (stage?_eq_some.mp hstage))
  simp at hother

/-- A start that succeeds leaves a run whose accounts of reading are in order: it has no body yet. -/
theorem System.exists_started {s : System} (hsound : s.Sound) {config : Config}
    {url revision subdir : Option Text}
    (hstart : (s.perform (.start config url revision subdir)).1 = .ok none) :
    ∃ request resetOk key session, session.IsNew config.tool.chunkSize ∧
      (s.perform (.start config url revision subdir)).2.runs[s.runs.length]? =
        some (.started config { request, resetOk } key session) ∧
      (Run.started config { request, resetOk } key session).IsRead
        ((s.perform (.start config url revision subdir)).2.stage? s.runs.length) session := by
  obtain ⟨request, result, run, w', hperform, hcase⟩ :=
    s.perform_start (show (Operation.start config url revision subdir).config? = some config from rfl)
  have hnone (b : Nat) (stage : BodyStage) :
      (s.perform (.start config url revision subdir)).2.stage? s.runs.length b ≠ some stage := by
    rw [hsound.stage?_start]
    exact nofun
  rw [hperform] at hstart hnone ⊢
  cases hcase with
  | lost | tooLong | refused | failed => cases hstart
  | @succeeded key resetOk session _ _ _ _ hnew =>
    refine ⟨request, resetOk, key, session, hnew, by simp, rfl, rfl, ?_⟩
    exact ⟨fun b _ stage _ hb => absurd hb (hnone b stage), fun b stage hb => absurd hb (hnone b stage),
      nofun, fun b index hb => absurd hb (hnone b _)⟩

end ScanLauncher
