import ScanLauncher.Proofs.Run.Closing
import ScanLauncher.Run.Body

namespace ScanLauncher

namespace Report

theorem keeps_list (path : Path) {inv : World → Prop}
    (hlog : ∀ w level origin message, inv w → inv (w.note level origin message)) :
    (list path).Keeps inv := by
  have hscan : (scan path).Keeps inv := by
    refine Act.keeps_get.bind fun w => ?_
    split
    · exact Act.keeps_ofExcept _ _
    · exact Act.keeps_pure _
    · exact Act.keeps_throw _
    · exact Act.keeps_throw _
  refine hscan.attempt.bind fun result => ?_
  cases result with
  | ok entries => exact Act.Keeps.bind (fun w h => hlog w _ _ _ h) fun _ => Act.keeps_pure _
  | error failure =>
    by_cases habsent : isAbsence failure = true
    · simp only [habsent, if_true]
      exact Act.Keeps.bind (fun w h => hlog w _ _ _ h) fun _ => Act.keeps_pure _
    · simp only [habsent]
      exact Act.keeps_throw _

end Report

/-- Whether a body has handed out an item and has not ended. -/
def BodyStage.isStarted : BodyStage → Bool
  | fresh | finished => false
  | _ => true

/-- A stage that a body of a run with so many sessions can be at. -/
def BodyStage.Fits (count : Nat) : BodyStage → Prop
  | fresh | finished => True
  | chunk session => session < count
  | _ => 0 < count

namespace Body

/-- What a started body does for its next item. -/
def takeItem : ActOn Body (Option (List UInt8)) := do
  match ← laterItem.onFailure finish with
  | some item => return some item
  | none =>
    finish
    return none

/-- The first item of a run that was started is the opening mark. -/
theorem next_fresh {run : Run} (hsession : run.session?.isSome = true)
    (houtcome : run.outcome.isSome = true) (w : World) :
    next { run } w = ((.ok (some openMark), ⟨{ run with state := .streaming }, .opened⟩), w) := by
  simp [next, openingItem, Option.isNone_iff_eq_none, Option.isSome_iff_ne_none.mp hsession,
    Option.isSome_iff_ne_none.mp houtcome, onRun, Run.enter, enter]
  rfl

/-- The next item of a body that has been started: however it comes to no item, it ends. -/
theorem next_apply {body : Body} (hstarted : body.stage.isStarted = true) (w : World) :
    next body w = match laterItem body w with
      | ((.ok (some item), body), w) => ((.ok (some item), body), w)
      | ((.ok none, body), w) => (do finish; return none : ActOn Body (Option (List UInt8))) body w
      | ((.error failure, body), w) =>
        (do finish; throw failure : ActOn Body (Option (List UInt8))) body w := by
  have hnext : next body w = takeItem body w := by
    obtain ⟨run, stage⟩ := body
    cases stage with
    | fresh | finished => cases hstarted
    | opened | chunk session | status | closed | sentinel | report rest => rfl
  rw [hnext, takeItem, ActOn.bind_apply, ActOn.onFailure_apply]
  rcases laterItem body w with ⟨⟨_ | ⟨_ | item⟩, body'⟩, w'⟩
  · rcases hfinish : finish body' w' with ⟨⟨_ | _, _⟩, _⟩ <;> simp [hfinish]
  · rfl
  · rfl

/-- Ending a body closes its run. -/
theorem finish_apply {body : Body} {w : World} (hsound : body.run.Sound)
    (hheld : ∀ key, body.run.lock = some key → w.gate.isHeld key = true) :
    ∃ w', finish body w = ((body.run.closing, ⟨body.run.closed, .finished⟩), w') ∧
      { w with gate := w.gate.released body.run.returned }.RecordsOnly w' := by
  obtain ⟨w', hclose, hrecords⟩ := Run.close_apply hsound hheld
  exact ⟨w', by simp [finish, onRun, enter, hclose], hrecords⟩

section Accounted

variable {first : Run} {gate : Gate}

/-- The accounts of the run that a body belongs to; a body that is at the output of a session is at
one that the run has. -/
def Accounted (first : Run) (gate : Gate) (body : Body) (w : World) : Prop :=
  first.Accounted gate body.run w ∧ body.stage.Fits first.sessions.length

theorem keeps_onRun {α : Type} {act : ActOn Run α} (hact : act.Keeps (first.Accounted gate)) :
    (onRun act).Keeps (Accounted first gate) :=
  fun body w ⟨hrun, hfits⟩ => ⟨hact body.run w hrun, hfits⟩

theorem keeps_enter (stage : BodyStage) (hfits : stage.Fits first.sessions.length) :
    (enter stage).Keeps (Accounted first gate) :=
  ActOn.keeps_modify fun _ _ h => ⟨h.1, hfits⟩

private theorem keeps_openingItem : openingItem.Keeps (Accounted first gate) := by
  refine ActOn.keeps_bind_get fun body w h => ?_
  by_cases hidle : (body.run.session?.isNone || body.run.outcome.isNone) = true
  · simp only [hidle, if_true]
    exact (keeps_enter .finished trivial).bind fun _ _ _ h => h
  · have hcount : 0 < first.sessions.length := by
      rw [← h.1.count]
      refine List.length_pos_iff.mpr fun hnone => hidle ?_
      simp [Run.session?, hnone]
    simp only [hidle]
    exact (keeps_onRun (Run.keeps_enter _)).bind fun _ => (keeps_enter .opened hcount).bind fun _ =>
      ActOn.keeps_pure _

theorem keeps_chunkItem {session : Nat} (hsession : session < first.sessions.length) :
    (chunkItem session).Keeps (Accounted first gate) := by
  have hcount : 0 < first.sessions.length := by omega
  refine (keeps_onRun (Run.keeps_onSession session fun _ _ => Session.effects_next)).bind fun chunk => ?_
  cases chunk with
  | some chunk => exact (keeps_enter (.chunk session) hsession).bind fun _ => ActOn.keeps_pure _
  | none =>
    exact ActOn.keeps_get.bind fun _ => (keeps_onRun (Run.keeps_modifyOutcome _)).bind fun _ =>
      (keeps_enter .status hcount).bind fun _ => ActOn.keeps_get.bind fun _ => ActOn.keeps_pure _

theorem keeps_reportItem (hcount : 0 < first.sessions.length) (reports : List ReportFile) :
    (reportItem reports).Keeps (Accounted first gate) := by
  cases reports with
  | nil => exact (keeps_onRun (Run.keeps_enter _)).bind fun _ => ActOn.keeps_pure _
  | cons report rest =>
    cases hline : reportLine? report with
    | some line =>
      simp only [reportItem, hline]
      exact (keeps_enter (.report rest) hcount).bind fun _ => ActOn.keeps_pure _
    | none =>
      simp only [reportItem, hline]
      exact ActOn.keeps_throw _

private theorem keeps_listItem (hcount : 0 < first.sessions.length) :
    listItem.Keeps (Accounted first gate) := by
  refine ActOn.keeps_get.bind fun body => ActOn.Keeps.bind (ActOn.keeps_lift ?_) fun reports =>
    (keeps_onRun (Run.keeps_modifyOutcome _)).bind fun _ => keeps_reportItem hcount reports
  exact fun _ => Report.keeps_list _ fun _ _ _ _ h => ⟨h.1.of_sameGate rfl, h.2⟩

theorem keeps_laterItem : laterItem.Keeps (Accounted first gate) := by
  refine ActOn.keeps_bind_get fun body w h => ?_
  have hfits := h.2
  cases hstage : body.stage with
  | fresh | finished => exact ActOn.keeps_pure _
  | opened =>
    rw [hstage] at hfits
    refine ActOn.keeps_bind_get fun body w h => ?_
    have hcurrent : body.run.current < first.sessions.length := by
      rw [Run.current, h.1.count]
      exact Nat.sub_lt hfits Nat.one_pos
    exact (keeps_onRun (Run.keeps_onSession _ fun _ _ => Session.effects_openReader)).bind fun _ =>
      (keeps_chunkItem hcurrent).bind fun _ => ActOn.keeps_pure _
  | chunk session =>
    rw [hstage] at hfits
    exact (keeps_chunkItem hfits).bind fun _ => ActOn.keeps_pure _
  | status =>
    rw [hstage] at hfits
    exact (keeps_enter .closed hfits).bind fun _ => ActOn.keeps_pure _
  | closed =>
    rw [hstage] at hfits
    exact (keeps_onRun (Run.keeps_enter _)).bind fun _ => (keeps_enter .sentinel hfits).bind fun _ =>
      ActOn.keeps_pure _
  | sentinel =>
    rw [hstage] at hfits
    exact keeps_listItem hfits
  | report rest =>
    rw [hstage] at hfits
    exact keeps_reportItem hfits rest

variable (hheld : ∀ key, first.lock = some key → gate.isHeld key = true)

include hheld

theorem keeps_finish : finish.Keeps (Accounted first gate) :=
  (keeps_enter .finished trivial).bind fun _ => keeps_onRun (Run.keeps_close hheld)

private theorem keeps_takeItem : takeItem.Keeps (Accounted first gate) := by
  refine (keeps_laterItem.onFailure (keeps_finish hheld)).bind fun item => ?_
  cases item with
  | some item => exact ActOn.keeps_pure _
  | none => exact (keeps_finish hheld).bind fun _ => ActOn.keeps_pure _

/-- Taking an item from a body gives back the claim of the body's own run, or no claim. -/
theorem keeps_next : next.Keeps (Accounted first gate) := by
  refine ActOn.keeps_get.bind fun body => ?_
  cases body.stage with
  | finished => exact ActOn.keeps_pure _
  | fresh => exact keeps_openingItem.bind fun _ => ActOn.keeps_pure _
  | opened | chunk session | status | closed | sentinel | report rest =>
    exact keeps_takeItem hheld

theorem keeps_close : close.Keeps (Accounted first gate) := by
  refine ActOn.keeps_get.bind fun body => ?_
  cases body.stage with
  | fresh | finished => exact keeps_enter .finished trivial
  | chunk session =>
    exact (keeps_onRun (Run.keeps_onSession session fun _ _ => Session.effects_closeReader)).bind
      fun _ => keeps_finish hheld
  | opened | status | closed | sentinel | report rest => exact keeps_finish hheld

/-- However a body that has been started comes to no further item, it ends and closes its run. -/
theorem next_of_end {body body' : Body} {w w' : World} (h : Accounted first gate body w)
    (hstarted : body.stage.isStarted = true) {result : Except Failure (Option (List UInt8))}
    (hlater : laterItem body w = ((result, body'), w')) (hend : ∀ item, result ≠ .ok (some item)) :
    ∃ w'', next body w = ((body'.run.concluding result, ⟨body'.run.closed, .finished⟩), w'') := by
  have hafter := keeps_laterItem body w h
  rw [hlater] at hafter
  obtain ⟨w'', hfinish, _⟩ := finish_apply hafter.1.sound (hafter.1.isHeld hheld)
  rw [next_apply hstarted, hlater]
  refine ⟨w'', ?_⟩
  unfold Run.concluding
  rcases result with failure | ⟨_ | item⟩
  · cases hclosing : body'.run.closing <;> simp [hfinish, hclosing] <;> rfl
  · cases hclosing : body'.run.closing <;> simp [hfinish, hclosing] <;> rfl
  · exact absurd rfl (hend item)

/-- A body that ends closes its run. -/
theorem exists_finish {body : Body} {w : World} (h : Accounted first gate body w) :
    ∃ w', finish body w = ((body.run.closing, ⟨body.run.closed, .finished⟩), w') := by
  obtain ⟨w', hfinish, _⟩ := finish_apply h.1.sound (h.1.isHeld hheld)
  exact ⟨w', hfinish⟩

/-- A body that is given up after its first item ends and closes its run. -/
theorem close_of_started {body : Body} {w : World} (h : Accounted first gate body w)
    (hstarted : body.stage.isStarted = true) :
    ∃ (run : Run) (w' : World), close body w = ((run.closing, ⟨run.closed, .finished⟩), w') ∧
      run.state = body.run.state ∧ run.outcome = body.run.outcome ∧
      run.isClosed = body.run.isClosed := by
  obtain ⟨run, stage⟩ := body
  cases stage with
  | fresh | finished => cases hstarted
  | chunk index =>
    have hindex : index < run.sessions.length := h.1.count.symm ▸ h.2
    obtain ⟨w', hreader, _⟩ := Session.closeReader_settles run.sessions[index] w
    have hstep : onRun (Run.onSession index Session.closeReader) ⟨run, .chunk index⟩ w =
        ((.ok (), ⟨{ run with sessions := run.sessions.set index run.sessions[index].readerClosed },
          .chunk index⟩), w') := by
      simp [onRun, Run.onSession_apply _ (List.getElem?_eq_getElem hindex), hreader]
    have hafter :=
      keeps_onRun (Run.keeps_onSession index fun _ _ => Session.effects_closeReader) _ w h
    rw [hstep] at hafter
    obtain ⟨w'', hfinish⟩ := exists_finish hheld hafter
    exact ⟨{ run with sessions := run.sessions.set index run.sessions[index].readerClosed }, w'',
      by simp [close, hstep, hfinish], rfl, rfl, rfl⟩
  | opened | status | closed | sentinel | report rest =>
    obtain ⟨w', hfinish⟩ := exists_finish hheld h
    exact ⟨run, w', hfinish, rfl, rfl, rfl⟩

end Accounted

end Body

end ScanLauncher
