import ScanLauncher.Proofs.Run.BodyEnd

namespace ScanLauncher

/-- A property of the world that records, changes of the registry and single effects of a session
keep. -/
structure World.Lasts (Q : World → Prop) : Prop where
  note : ∀ w level origin message, Q w → Q (w.note level origin message)
  gate : ∀ w gate, Q w → Q { w with gate }
  effect : ∀ {session session' : Session} {w w' : World},
    Session.Effect session w session' w' → Q w → Q w'

/-- An action keeps a property of the world, whether it fails or not. -/
def ActOn.KeepsWorld {σ α : Type} (act : ActOn σ α) (Q : World → Prop) : Prop :=
  act.Keeps fun _ w => Q w

variable {Q : World → Prop}

namespace ActOn

variable {σ τ α : Type}

theorem keepsWorld_lift {act : Act α} (hact : act.Keeps Q) : (lift act : ActOn σ α).KeepsWorld Q :=
  keeps_lift fun _ => hact

theorem keepsWorld_modify (f : σ → σ) : (modify f : ActOn σ Unit).KeepsWorld Q := fun _ _ h => h

theorem KeepsWorld.part {view : σ → τ} {update : σ → τ → σ} {act : ActOn τ α}
    (hact : act.KeepsWorld Q) : (part view update act).KeepsWorld Q :=
  fun object w h => hact (view object) w h

end ActOn

namespace Run

variable (hQ : World.Lasts Q)

include hQ

theorem keepsWorld_onSession {α : Type} (index : Nat) {act : ActOn Session α}
    (hact : ∀ {first w₀}, act.Keeps (Session.Effects first w₀)) :
    (onSession index act).KeepsWorld Q := by
  refine ActOn.keeps_get.bind fun run => ?_
  split
  · exact ActOn.keeps_throw _
  · exact ActOn.KeepsWorld.part (Session.keeps_of_effects (fun heffect h => hQ.effect heffect h) hact)

theorem keepsWorld_log (level : LogLevel) (message : Text) : (log level message).KeepsWorld Q :=
  fun _ w h => hQ.note w level .run message h

theorem keepsWorld_release : release.KeepsWorld Q := by
  refine ActOn.keeps_get.bind fun run => ?_
  split
  · exact ActOn.keeps_pure _
  · refine ActOn.Keeps.bind (ActOn.keepsWorld_lift ?_) fun _ => ActOn.keepsWorld_modify _
    exact Act.keeps_get.bind fun _ => .optional (Act.keeps_throw _)
      (Act.keeps_modify fun w h => hQ.gate w _ h)

theorem keepsWorld_close : close.KeepsWorld Q := by
  have hstop (run : Run) : (if run.session?.isSome then do onSession run.current Session.close; release
      else release : ActOn Run Unit).KeepsWorld Q := by
    split
    · exact (keepsWorld_onSession hQ _ Session.effects_close).bind fun _ => keepsWorld_release hQ
    · exact keepsWorld_release hQ
  refine ActOn.keeps_get.bind fun run => ?_
  by_cases hclosed : run.isClosed = true
  · simp only [hclosed, if_true]
    exact ActOn.keeps_pure _
  simp only [hclosed]
  refine ActOn.Keeps.bind (ActOn.keepsWorld_modify _) fun _ => ?_
  by_cases hactive : (run.state != .done) = true
  · simp only [hactive, if_true]
    exact (keepsWorld_log hQ _ _).bind fun _ => ActOn.Keeps.bind (ActOn.keepsWorld_modify _) fun _ =>
      hstop run
  · simp only [hactive]
    exact hstop run

theorem keepsWorld_expire : expire.KeepsWorld Q :=
  ActOn.keeps_get.bind fun _ => keepsWorld_onSession hQ _ Session.effects_expire

end Run

namespace Body

private theorem keepsWorld_openingItem : openingItem.KeepsWorld Q := by
  refine ActOn.keeps_get.bind fun body => ?_
  by_cases hidle : (body.run.session?.isNone || body.run.outcome.isNone) = true
  · simp only [hidle, if_true]
    exact ActOn.Keeps.bind (ActOn.keepsWorld_modify _) fun _ _ _ h => h
  · simp only [hidle]
    exact ActOn.Keeps.bind (ActOn.keepsWorld_modify _).part fun _ =>
      ActOn.Keeps.bind (ActOn.keepsWorld_modify _) fun _ => ActOn.keeps_pure _

theorem keepsWorld_reportItem (reports : List ReportFile) : (reportItem reports).KeepsWorld Q := by
  cases reports with
  | nil => exact ActOn.Keeps.bind (ActOn.keepsWorld_modify _).part fun _ => ActOn.keeps_pure _
  | cons report rest =>
    cases hline : reportLine? report with
    | some line =>
      simp only [reportItem, hline]
      exact ActOn.Keeps.bind (ActOn.keepsWorld_modify _) fun _ => ActOn.keeps_pure _
    | none =>
      simp only [reportItem, hline]
      exact ActOn.keeps_throw _

variable (hQ : World.Lasts Q)

include hQ

theorem keepsWorld_finish : finish.KeepsWorld Q :=
  ActOn.Keeps.bind (ActOn.keepsWorld_modify _) fun _ => (Run.keepsWorld_close hQ).part

theorem keepsWorld_close : close.KeepsWorld Q := by
  refine ActOn.keeps_get.bind fun body => ?_
  cases body.stage with
  | fresh | finished => exact ActOn.keepsWorld_modify _
  | chunk session =>
    exact ActOn.Keeps.bind (Run.keepsWorld_onSession hQ session Session.effects_closeReader).part
      fun _ => keepsWorld_finish hQ
  | opened | status | closed | sentinel | report rest => exact keepsWorld_finish hQ

private theorem keepsWorld_listItem : listItem.KeepsWorld Q :=
  ActOn.keeps_get.bind fun _ =>
    ActOn.Keeps.bind (ActOn.keepsWorld_lift (Report.keeps_list _ hQ.note)) fun reports =>
      ActOn.Keeps.bind (ActOn.keepsWorld_modify _).part fun _ => keepsWorld_reportItem reports

theorem keepsWorld_chunkItem (session : Nat) : (chunkItem session).KeepsWorld Q := by
  refine ActOn.Keeps.bind (Run.keepsWorld_onSession hQ session Session.effects_next).part
    fun chunk => ?_
  cases chunk with
  | some chunk => exact ActOn.Keeps.bind (ActOn.keepsWorld_modify _) fun _ => ActOn.keeps_pure _
  | none =>
    exact ActOn.keeps_get.bind fun _ => ActOn.Keeps.bind (ActOn.keepsWorld_modify _).part fun _ =>
      ActOn.Keeps.bind (ActOn.keepsWorld_modify _) fun _ => ActOn.keeps_get.bind fun _ =>
        ActOn.keeps_pure _

private theorem keepsWorld_laterItem : laterItem.KeepsWorld Q := by
  refine ActOn.keeps_get.bind fun body => ?_
  cases body.stage with
  | fresh | finished => exact ActOn.keeps_pure _
  | opened =>
    exact ActOn.keeps_get.bind fun _ =>
      ActOn.Keeps.bind (Run.keepsWorld_onSession hQ _ Session.effects_openReader).part fun _ =>
        (keepsWorld_chunkItem hQ _).bind fun _ => ActOn.keeps_pure _
  | chunk session => exact (keepsWorld_chunkItem hQ session).bind fun _ => ActOn.keeps_pure _
  | status => exact ActOn.Keeps.bind (ActOn.keepsWorld_modify _) fun _ => ActOn.keeps_pure _
  | closed =>
    exact ActOn.Keeps.bind (ActOn.keepsWorld_modify _).part fun _ =>
      ActOn.Keeps.bind (ActOn.keepsWorld_modify _) fun _ => ActOn.keeps_pure _
  | sentinel => exact keepsWorld_listItem hQ
  | report rest => exact keepsWorld_reportItem rest

theorem keepsWorld_next : next.KeepsWorld Q := by
  have htake : takeItem.KeepsWorld Q := by
    refine ((keepsWorld_laterItem hQ).onFailure (keepsWorld_finish hQ)).bind fun item => ?_
    cases item with
    | some item => exact ActOn.keeps_pure _
    | none => exact (keepsWorld_finish hQ).bind fun _ => ActOn.keeps_pure _
  refine ActOn.keeps_get.bind fun body => ?_
  cases body.stage with
  | finished => exact ActOn.keeps_pure _
  | fresh => exact keepsWorld_openingItem.bind fun _ => ActOn.keeps_pure _
  | opened | chunk session | status | closed | sentinel | report rest => exact htake

end Body

end ScanLauncher
