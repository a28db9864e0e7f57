import ScanLauncher.Proofs.Process.Reading

namespace ScanLauncher

/-- The world after an observer has seen an event. -/
def World.shown (w : World) (event : TraceEvent) : World := { w with trace := w.trace ++ [event] }

namespace Session

/-- The session with another child. -/
def withChild (session : Session) (child : Child) : Session := { session with child }

/-- A single effect on a session and on the world around it. -/
inductive Effect : Session → World → Session → World → Prop
  | note (session : Session) (w : World) (level : LogLevel) (message : Text) :
      Effect session w session (w.note level .process message)
  | cancelTimer (session : Session) (w : World) :
      Effect session w { session with timer := .cancelled } (w.shown .cancelTimer)
  /-- A signal reaches the group, and the child with it. -/
  | reach {session : Session} {s : Signal} (hgroup : session.child.spec.groupError.of s = none)
      (w : World) :
      Effect session w (session.withChild (session.child.deliver s session.child.reachGroup))
        (w.shown (.signalGroup session.child.pid s))
  /-- A signal to the group fails. -/
  | miss {session : Session} {s : Signal} (hgroup : session.child.spec.groupError.of s ≠ none)
      (w : World) :
      Effect session w session (w.shown (.signalGroup session.child.pid s))
  | signalChild (session : Session) (w : World) (s : Signal) :
      Effect session w (session.withChild (session.child.deliver s session.child.reachAlone))
        (w.shown (.signalChild s))
  /-- A signal to the child alone fails too. -/
  | refuse (session : Session) (w : World) (s : Signal) :
      Effect session w session (w.shown (.signalChild s))
  | finish (session : Session) (w : World) :
      Effect session w (session.withChild session.child.finish) w
  | closeStream (session : Session) (w : World) :
      Effect session w session.streamClosed (w.shown .closeOutput)
  | timeUp (session : Session) (w : World) : Effect session w { session with isTimedOut := true } w
  | takePending (session : Session) (w : World) (size : Nat) :
      Effect session w
        (session.withChild { session.child with pending := session.child.pending.drop size }) w
  /-- An output step is used up: its bytes become pending, its changes are made. -/
  | takeStep {session : Session} {step : OutputStep} {rest : List OutputStep}
      (hpending : session.child.pending = []) (hsteps : session.child.steps = step :: rest)
      (w : World) :
      Effect session w (session.withChild { session.child with steps := rest, pending := step.bytes })
        { w with files := (w.files.applyAll step.changes).1 }
  | atEnd (session : Session) (w : World) :
      Effect session w (session.withChild { session.child with isAtEnd := true }) w
  | drained (session : Session) (w : World) : Effect session w { session with isDrained := true } w
  | exit (session : Session) (w : World) (status : Int) :
      Effect session w { session with exitStatus := some status } w
  | reader (session : Session) (w : World) (reader : Reader) :
      Effect session w { session with reader } w

/-- The states that effects lead to. -/
inductive Effects (first : Session) (w₀ : World) : Session → World → Prop
  | refl : Effects first w₀ first w₀
  | step {session session' : Session} {w w' : World} (h : Effects first w₀ session w)
      (heffect : Effect session w session' w') : Effects first w₀ session' w'

section Effects

variable {first : Session} {w₀ : World}

/-- What holds at first and is kept by every single effect holds wherever effects lead to. -/
theorem Effects.of_step {motive : Session → World → Prop}
    (hstep : ∀ {session session' w w'}, Effect session w session' w' → motive session w →
      motive session' w') {session : Session} {w : World} (h : Effects first w₀ session w)
    (hfirst : motive first w₀) : motive session w := by
  induction h with
  | refl => exact hfirst
  | step _ heffect ih => exact hstep heffect ih

/-- What every single effect keeps is kept by work that is made of effects. -/
theorem keeps_of_effects {α : Type} {act : ActOn Session α} {inv : Session → World → Prop}
    (hstep : ∀ {session session' w w'}, Effect session w session' w' → inv session w →
      inv session' w') (hact : ∀ {first w₀}, act.Keeps (Effects first w₀)) : act.Keeps inv := by
  intro session w h
  exact (hact session w .refl).of_step hstep h

theorem effects_modify {f : Session → Session}
    (hf : ∀ session w, Effect session w (f session) w) :
    (modify f : ActOn Session Unit).Keeps (Effects first w₀) :=
  ActOn.keeps_modify fun session w h => h.step (hf session w)

theorem effects_log (level : LogLevel) (message : Session → Text) :
    (log level message).Keeps (Effects first w₀) :=
  fun session w h => h.step (.note session w level (message session))

theorem effects_cancelTimer : cancelTimer.Keeps (Effects first w₀) := by
  intro session w h
  by_cases hlive : session.timer = .live
  · have hcancel : cancelTimer session w =
        ((.ok (), { session with timer := .cancelled }), w.shown .cancelTimer) := by
      simp [cancelTimer, trace, hlive, World.shown]
    rw [hcancel]
    exact h.step (.cancelTimer session w)
  · have hcancel : cancelTimer session w = ((.ok (), session), w) := by simp [cancelTimer, hlive]
    rw [hcancel]
    exact h

private theorem effects_signalChild (s : Signal) : (signalChild s).Keeps (Effects first w₀) := by
  intro session w h
  cases halone : session.child.aloneError? s with
  | none =>
    have hsignal : signalChild s session w =
        ((.ok (), session.withChild (session.child.deliver s session.child.reachAlone)),
          w.shown (.signalChild s)) := by
      simp [signalChild, trace, modifyChild, halone, World.shown, withChild]
    rw [hsignal]
    exact h.step (.signalChild session w s)
  | some e =>
    have hsignal : (signalChild s session w).1.2 = session ∧
        (signalChild s session w).2 = w.shown (.signalChild s) := by
      by_cases hgone : e = .noProcess <;> simp [signalChild, trace, halone, hgone, World.shown]
    rw [hsignal.1, hsignal.2]
    exact h.step (.refuse session w s)

theorem effects_signal (s : Signal) : (signal s).Keeps (Effects first w₀) := by
  intro session w h
  cases hgroup : session.child.spec.groupError.of s with
  | none =>
    have hsignal : signal s session w =
        ((.ok (), session.withChild (session.child.deliver s session.child.reachGroup)),
          w.shown (.signalGroup session.child.pid s)) := by
      simp [signal, trace, modifyChild, hgroup, World.shown, withChild]
    rw [hsignal]
    exact h.step (.reach hgroup w)
  | some e =>
    have hmiss := h.step (.miss (by simp [hgroup] : session.child.spec.groupError.of s ≠ none) w)
    by_cases hgone : e = .noProcess
    · have hsignal : signal s session w =
          ((.ok (), session), w.shown (.signalGroup session.child.pid s)) := by
        simp [signal, trace, hgroup, hgone, World.shown]
      rw [hsignal]
      exact hmiss
    · have hsignal : signal s session w = (do
          log .debug fun session =>
            "killpg failed for " ++ session.pidText ++ ": " ++ (OsError.numbered e none).text
          signalChild s : ActOn Session Unit) session (w.shown (.signalGroup session.child.pid s)) := by
        simp [signal, trace, hgroup, hgone, World.shown]
      rw [hsignal]
      exact (effects_log _ _).bind (fun _ => effects_signalChild s) _ _ hmiss

theorem effects_terminate : terminate.Keeps (Effects first w₀) := by
  have hreap : (modifyChild Child.reap).Keeps (Effects first w₀) := by
    refine ActOn.keeps_modify fun session w h => ?_
    unfold Child.reap
    split
    · exact h.step (.finish session w)
    · exact h
  refine effects_cancelTimer.bind fun _ => ActOn.keeps_get.bind fun session =>
    .optional (effects_log _ _) ((effects_signal .terminate).bind fun _ => ?_)
  split
  · exact ActOn.keeps_get.bind fun _ => .optional (effects_log _ _)
      ((effects_signal .kill).bind fun _ => hreap)
  · exact effects_signal .kill

theorem effects_closeStream : closeStream.Keeps (Effects first w₀) := by
  intro session w h
  by_cases hclosed : session.child.isClosed = true
  · have hclose : closeStream session w = ((.ok (), session), w) := by simp [closeStream, hclosed]
    rw [hclose]
    exact h
  · have hclose : closeStream session w = ((.ok (), session.streamClosed), w.shown .closeOutput) := by
      simp [closeStream, trace, modifyChild, hclosed, World.shown, streamClosed]
    rw [hclose]
    exact h.step (.closeStream session w)

theorem effects_close : close.Keeps (Effects first w₀) :=
  effects_terminate.bind fun _ => effects_closeStream

theorem effects_expire : expire.Keeps (Effects first w₀) := by
  refine ActOn.keeps_get.bind fun session => ?_
  split
  · exact ActOn.keeps_pure _
  · split
    · exact ActOn.keeps_throw _
    · exact (effects_log _ _).bind fun _ =>
        ActOn.Keeps.bind (effects_modify .timeUp) fun _ => effects_terminate

private theorem effects_fire : fire.Keeps (Effects first w₀) := by
  intro session w h
  rw [fire_apply]
  exact effects_expire session w h

private theorem effects_takeStep {session : Session} {w : World} {step : OutputStep} {rest : List OutputStep}
    (h : Effects first w₀ session w) (hpending : session.child.pending = [])
    (hsteps : session.child.steps = step :: rest) :
    Effects first w₀ (takeStep step session w).1.2 (takeStep step session w).2 := by
  have htaken := h.step (.takeStep hpending hsteps w)
  have hmodify : { session with child := { session.child with steps := session.child.steps.tail } } =
      session.withChild { session.child with steps := rest, pending := [] } := by
    simp [withChild, hsteps, ← hpending]
  cases step with
  | data bytes =>
    simpa [takeStep, modifyChild, hsteps, withChild, OutputStep.bytes, OutputStep.changes,
      FileSystem.applyAll] using htaken
  | change changes =>
    have hchange : (change changes w).2 = { w with files := (w.files.applyAll changes).1 } := by
      simp only [change, Act.bind_apply, Act.get_apply, Act.modify_apply]
      cases (w.files.applyAll changes).2 with
      | none => rfl
      | some fault => cases fault <;> rfl
    simp only [takeStep, modifyChild, ActOn.bind_apply, ActOn.modify_apply, ActOn.lift_apply, hmodify,
      hchange]
    exact htaken
  | hang =>
    have hafter : (if (session.withChild { session.child with steps := rest, pending := [] }).timer ==
        .live then fire else pure () : ActOn Session Unit).Keeps (Effects first w₀) := by
      split
      · exact effects_fire
      · exact ActOn.keeps_pure _
    simp only [takeStep, modifyChild, ActOn.bind_apply, ActOn.modify_apply, ActOn.get_apply, hmodify]
    exact hafter _ _ htaken
  | readError error =>
    simp only [takeStep, modifyChild, ActOn.bind_apply, ActOn.modify_apply, ActOn.throw_apply, hmodify]
    exact htaken
  | interrupt =>
    simp only [takeStep, modifyChild, ActOn.bind_apply, ActOn.modify_apply, ActOn.throw_apply, hmodify]
    exact htaken

theorem effects_takePending (size : Int) : (takePending size).Keeps (Effects first w₀) := by
  intro session w h
  exact h.step (.takePending session w size.toNat)

private theorem effects_readSteps (size : Int) {steps : List OutputStep} {session : Session} {w : World}
    (h : Effects first w₀ session w) (hsteps : session.child.steps = steps) :
    Effects first w₀ (readSteps size steps session w).1.2 (readSteps size steps session w).2 := by
  induction steps generalizing session w with
  | nil =>
    by_cases hoff : session.child.isCutOff = true
    · simpa [readSteps, hoff] using h
    · by_cases hpending : session.child.pending = []
      · simpa [readSteps, hoff, hpending, modifyChild, withChild] using h.step (.atEnd session w)
      · simpa [readSteps, hoff, hpending] using effects_takePending size session w h
  | cons step rest ih =>
    by_cases hoff : session.child.isCutOff = true
    · simpa [readSteps, hoff] using h
    · by_cases hpending : session.child.pending = []
      · have htaken := effects_takeStep h hpending hsteps
        obtain ⟨result, taken, w₁, htake, _, _, hrest, _⟩ := takeStep_spec hpending hsteps w
        rw [htake] at htaken
        cases result with
        | error failure => simpa [readSteps, hoff, hpending, htake] using htaken
        | ok _ => simpa [readSteps, hoff, hpending, htake] using ih htaken hrest
      · simpa [readSteps, hoff, hpending] using effects_takePending size session w h

private theorem effects_read (size : Int) : (read size).Keeps (Effects first w₀) := by
  intro session w h
  by_cases hclosed : session.child.isClosed = true
  · simpa [read, hclosed] using h
  · simpa [read, hclosed] using effects_readSteps size h rfl

theorem effects_wait : wait.Keeps (Effects first w₀) := by
  refine ActOn.keeps_get.bind fun session => .optional (ActOn.keeps_throw _) ?_
  split
  · exact ActOn.keeps_pure _
  · exact ActOn.Keeps.bind (effects_modify .finish) fun _ =>
      ActOn.Keeps.bind (effects_modify fun session w => .exit session w _) fun _ =>
        effects_cancelTimer.bind fun _ => (effects_log _ _).bind fun _ => ActOn.keeps_pure _

theorem effects_finishReader : finishReader.Keeps (Effects first w₀) :=
  effects_closeStream.bind fun _ => effects_modify fun session w => .reader session w .finished

private theorem effects_readChunk : readChunk.Keeps (Effects first w₀) := by
  refine ActOn.keeps_get.bind fun session => (effects_read _).bind fun chunk => ?_
  split
  · exact ActOn.Keeps.bind (effects_modify .drained) fun _ => effects_wait.bind fun _ =>
      ActOn.keeps_pure _
  · exact (effects_log _ _).bind fun _ => ActOn.keeps_pure _

private theorem effects_handOut : handOut.Keeps (Effects first w₀) := by
  refine (effects_readChunk.onFailure effects_finishReader).bind fun chunk => ?_
  cases chunk with
  | some chunk =>
    exact ActOn.Keeps.bind (effects_modify fun session w => .reader session w .suspended) fun _ =>
      ActOn.keeps_pure _
  | none => exact effects_finishReader.bind fun _ => ActOn.keeps_pure _

theorem effects_next : next.Keeps (Effects first w₀) := by
  refine ActOn.keeps_get.bind fun session => ?_
  cases session.reader with
  | absent | finished => exact ActOn.keeps_pure _
  | fresh | suspended => exact effects_handOut

theorem effects_closeReader : closeReader.Keeps (Effects first w₀) := by
  refine ActOn.keeps_get.bind fun session => ?_
  cases session.reader with
  | absent => exact ActOn.keeps_pure _
  | suspended => exact effects_finishReader
  | fresh | finished => exact effects_modify fun session w => .reader session w .finished

theorem effects_openReader : openReader.Keeps (Effects first w₀) :=
  ActOn.keeps_get.bind fun _ => .optional (ActOn.keeps_throw _)
    (effects_modify fun session w => .reader session w .fresh)

end Effects

end Session

namespace Child

/-- A child that has ended has done so in the same way if more is known of its end. -/
theorem poll_of_ended {child child' : Child} {status : Int} (hended : child.poll = some status)
    (hspec : child'.spec = child.spec) (hkilled : child'.killedBy = child.killedBy)
    (hatEnd : child.isAtEnd = true → child'.isAtEnd = true)
    (horder : child.hasEndedInOrder = true → child'.hasEndedInOrder = true) :
    child'.poll = some status := by
  unfold poll at hended ⊢
  rw [hkilled, hspec]
  cases hby : child.killedBy with
  | some s => simpa [hby] using hended
  | none =>
    simp only [hby] at hended ⊢
    split at hended
    · rename_i hover
      have hover' : (child.spec.leaderExited || child'.isAtEnd || child'.hasEndedInOrder) = true := by
        simp only [Bool.or_eq_true] at hover ⊢
        rcases hover with (hleader | hend) | hend
        · exact .inl (.inl hleader)
        · exact .inl (.inr (hatEnd hend))
        · exact .inr (horder hend)
      rw [if_pos hover', hended]
    · cases hended

private theorem poll_deliver {child : Child} {status : Int} (hended : child.poll = some status) (s : Signal)
    (reach : Reach) : (child.deliver s reach).poll = some status := by
  have hrunning : child.isRunning = false := by simp [isRunning, hended]
  unfold deliver
  split
  · exact hended
  · split
    · exact poll_of_ended hended rfl rfl id fun _ => rfl
    · exact poll_of_ended hended rfl (by simp [hrunning]) id id

private theorem finish_of_ended {child : Child} {status : Int} (hended : child.poll = some status) :
    child.finish = child := by
  simp [finish, isRunning, hended]

/-- Nothing has been done to end the second child that was not done to the first. -/
structure SameFate (child child' : Child) : Prop where
  killedBy : child'.killedBy = child.killedBy
  lost : child'.lost = child.lost
  hasEndedInOrder : child'.hasEndedInOrder = child.hasEndedInOrder

theorem SameFate.refl (child : Child) : child.SameFate child := ⟨rfl, rfl, rfl⟩

theorem SameFate.trans {a b c : Child} (hfirst : a.SameFate b) (hsecond : b.SameFate c) :
    a.SameFate c :=
  ⟨hsecond.killedBy.trans hfirst.killedBy, hsecond.lost.trans hfirst.lost,
    hsecond.hasEndedInOrder.trans hfirst.hasEndedInOrder⟩

private theorem deliver_reachAlone {child : Child} (s : Signal)
    (hgone : child.spec.holders ≠ .together ∧ child.spec.leaderExited = true) :
    child.deliver s child.reachAlone = child := by
  obtain ⟨hholders, hexited⟩ := hgone
  have hended : child.isRunning = false := by
    cases hby : child.killedBy <;> simp [isRunning, poll, hby, hexited]
  have hnobody : child.reachAlone = .nobody := by
    unfold reachAlone
    cases hby : child.spec.holders with
    | together => exact absurd hby hholders
    | child | group | others => simp [hended]
  simp [deliver, hnobody]

private theorem sameFate_finish (child : Child) : child.SameFate child.finish := by
  unfold finish
  split <;> exact ⟨rfl, rfl, rfl⟩

end Child

namespace TraceEvent

/-- Whether an event is a signal that may reach a child or its group. A signal to the group does so if
it does not fail, one to the child alone unless the child has exited before. -/
def reaches (spec : ProcessSpec) : TraceEvent → Bool
  | signalGroup _ s => (spec.groupError.of s).isNone
  | signalChild _ => spec.holders == .together || !spec.leaderExited
  | _ => false

/-- Whether an event is the start of a child. -/
def isSpawn : TraceEvent → Bool
  | spawn _ _ => true
  | _ => false

end TraceEvent

namespace Session

namespace Effect

variable {session session' : Session} {w w' : World}

theorem spec_eq (h : Effect session w session' w') : session'.child.spec = session.child.spec := by
  cases h <;> simp [withChild, streamClosed]

theorem chunkSize_eq (h : Effect session w session' w') : session'.chunkSize = session.chunkSize := by
  cases h <;> rfl

/-- How a child has ended stays as it is. -/
theorem poll_eq (h : Effect session w session' w') {status : Int}
    (hended : session.child.poll = some status) : session'.child.poll = some status := by
  cases h with
  | reach | signalChild => exact Child.poll_deliver hended _ _
  | finish => simpa [withChild, Child.finish_of_ended hended] using hended
  | atEnd => exact Child.poll_of_ended hended rfl rfl (fun _ => rfl) id
  | _ => exact hended

theorem isTimedOut (h : Effect session w session' w') (htimed : session.isTimedOut = true) :
    session'.isTimedOut = true := by
  cases h with
  | timeUp => rfl
  | _ => exact htimed

theorem filesOnly (h : Effect session w session' w') : w.FilesOnly w' := by
  cases h <;> rfl

/-- Nothing wakes a session of which nothing is left. -/
theorem stopped (h : Effect session w session' w') (hstopped : session.Stopped) :
    session'.Stopped := by
  obtain ⟨hended, hclosed, htimer⟩ := hstopped
  have hended' : session'.child.isRunning = false := by
    cases hpoll : session.child.poll with
    | none => simp [Child.isRunning, hpoll] at hended
    | some status => simp [Child.isRunning, h.poll_eq hpoll]
  refine ⟨hended', ?_, ?_⟩
  · cases h <;> simp [withChild, streamClosed, hclosed]
  · cases h with
    | cancelTimer => simp
    | _ => exact htimer

/-- An observer sees signals, the timer and the pipe, never the start of a child; and if no signal
that is seen reaches the child then nothing has been done to end it. -/
theorem shown (h : Effect session w session' w') :
    ∃ events, w'.trace = w.trace ++ events ∧ (∀ event ∈ events, event.isSpawn = false) ∧
      ((∀ event ∈ events, event.reaches session.child.spec = false) →
        session.child.SameFate session'.child) := by
  cases h with
  | cancelTimer => exact ⟨[.cancelTimer], rfl, by simp [TraceEvent.isSpawn], fun _ => ⟨rfl, rfl, rfl⟩⟩
  | reach hgroup =>
    rename_i s
    refine ⟨[.signalGroup session.child.pid s], rfl, by simp [TraceEvent.isSpawn], fun hnone => ?_⟩
    simp [TraceEvent.reaches, hgroup] at hnone
  | miss =>
    rename_i s _
    exact ⟨[.signalGroup session.child.pid s], rfl, by simp [TraceEvent.isSpawn], fun _ => .refl _⟩
  | refuse _ s =>
    exact ⟨[.signalChild s], rfl, by simp [TraceEvent.isSpawn], fun _ => .refl _⟩
  | signalChild _ s =>
    refine ⟨[.signalChild s], rfl, by simp [TraceEvent.isSpawn], fun hnone => ?_⟩
    rw [withChild, Child.deliver_reachAlone s (by simpa [TraceEvent.reaches] using hnone)]
    exact .refl _
  | closeStream => exact ⟨[.closeOutput], rfl, by simp [TraceEvent.isSpawn], fun _ => ⟨rfl, rfl, rfl⟩⟩
  | finish =>
    exact ⟨[], (List.append_nil _).symm, by simp, fun _ => session.child.sameFate_finish⟩
  | _ => exact ⟨[], (List.append_nil _).symm, by simp, fun _ => ⟨rfl, rfl, rfl⟩⟩

end Effect

namespace Effects

variable {first session : Session} {w₀ w : World}

theorem spec_eq (h : Effects first w₀ session w) : session.child.spec = first.child.spec :=
  h.of_step (motive := fun session _ => session.child.spec = first.child.spec)
    (fun heffect hinv => heffect.spec_eq.trans hinv) rfl

theorem chunkSize_eq (h : Effects first w₀ session w) : session.chunkSize = first.chunkSize :=
  h.of_step (motive := fun session _ => session.chunkSize = first.chunkSize)
    (fun heffect hinv => heffect.chunkSize_eq.trans hinv) rfl

theorem poll_eq (h : Effects first w₀ session w) {status : Int}
    (hended : first.child.poll = some status) : session.child.poll = some status :=
  h.of_step (motive := fun session _ => session.child.poll = some status)
    (fun heffect hinv => heffect.poll_eq hinv) hended

theorem isTimedOut (h : Effects first w₀ session w) (htimed : first.isTimedOut = true) :
    session.isTimedOut = true :=
  h.of_step (motive := fun session _ => session.isTimedOut = true)
    (fun heffect hinv => heffect.isTimedOut hinv) htimed

theorem filesOnly (h : Effects first w₀ session w) : w₀.FilesOnly w :=
  h.of_step (motive := fun _ w => w₀.FilesOnly w)
    (fun heffect hinv => hinv.trans heffect.filesOnly) (.refl w₀)

theorem stopped (h : Effects first w₀ session w) (hstopped : first.Stopped) : session.Stopped :=
  h.of_step (motive := fun session _ => session.Stopped) (fun heffect hinv => heffect.stopped hinv)
    hstopped

theorem shown (h : Effects first w₀ session w) :
    ∃ events, w.trace = w₀.trace ++ events ∧ (∀ event ∈ events, event.isSpawn = false) ∧
      ((∀ event ∈ events, event.reaches first.child.spec = false) →
        first.child.SameFate session.child) := by
  induction h with
  | refl => exact ⟨[], (List.append_nil _).symm, by simp, fun _ => .refl _⟩
  | step h heffect ih =>
    obtain ⟨before, hbefore, hquiet, hfate⟩ := ih
    obtain ⟨events, hevents, hquiet', hfate'⟩ := heffect.shown
    refine ⟨before ++ events, by rw [hevents, hbefore, List.append_assoc], ?_, fun hnone => ?_⟩
    · intro event hevent
      rcases List.mem_append.mp hevent with hold | hnew
      · exact hquiet event hold
      · exact hquiet' event hnew
    · have hold := hfate fun event hevent => hnone event (List.mem_append_left _ hevent)
      refine hold.trans (hfate' fun event hevent => ?_)
      rw [h.spec_eq]
      exact hnone event (List.mem_append_right _ hevent)

end Effects

end Session

end ScanLauncher
