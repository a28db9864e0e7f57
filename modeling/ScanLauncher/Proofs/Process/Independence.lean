import ScanLauncher.Proofs.Agreement
import ScanLauncher.Proofs.Process.Reading

namespace ScanLauncher

/-- A relation between worlds that work on a session does not break: the same records may be added on
both sides, and the changes that are allowed come to the same on both. -/
structure World.Bears (R : World → World → Prop) (allowed : List Change → Prop) : Prop where
  note : ∀ {w w'}, R w w' → ∀ level origin message,
    R (w.note level origin message) (w'.note level origin message)
  trace : ∀ {w w'}, R w w' → ∀ event,
    R { w with trace := w.trace ++ [event] } { w' with trace := w'.trace ++ [event] }
  change : ∀ {made}, allowed made → Act.Agree R (Session.change made) (Session.change made)

namespace Session

/-- The child of a session makes allowed changes only. -/
def Within (session : Session) (allowed : List Change → Prop) : Prop :=
  ∀ made, OutputStep.change made ∈ session.child.steps → allowed made

/-- One session in two worlds that are alike. -/
structure Alike (R : World → World → Prop) (allowed : List Change → Prop) (session : Session)
    (w : World) (session' : Session) (w' : World) : Prop where
  session_eq : session' = session
  within : session.Within allowed
  world : R w w'

variable {R : World → World → Prop} {allowed : List Change → Prop}

theorem agree_modify {f : Session → Session}
    (hf : ∀ session, (f session).child.steps ⊆ session.child.steps) :
    ActOn.Agree (Alike R allowed) (modify f) (modify f) := by
  refine ActOn.agree_modify fun session w session' w' h => ?_
  obtain rfl := h.session_eq
  exact ⟨rfl, fun made hmade => h.within made (hf _ hmade), h.world⟩

theorem agree_modifyChild {f : Child → Child} (hf : ∀ child, (f child).steps ⊆ child.steps) :
    ActOn.Agree (Alike R allowed) (modifyChild f) (modifyChild f) :=
  agree_modify fun session => hf session.child

theorem agree_modifyChild_ends {f : Child → Child} (hf : ∀ child : Child, child.EndsOnly (f child)) :
    ActOn.Agree (Alike R allowed) (modifyChild f) (modifyChild f) := by
  refine agree_modifyChild fun child => ?_
  rw [(hf child).steps_eq]
  exact List.Subset.refl _

/-- What follows on a look at the session. -/
theorem agree_bind_get {α : Type} {f : Session → ActOn Session α}
    (hf : ∀ session, session.Within allowed →
      ActOn.Agree (Alike R allowed) (f session) (f session)) :
    ActOn.Agree (Alike R allowed) (get >>= f) (get >>= f) := by
  refine ActOn.agree_bind_get fun session w session' w' h => ?_
  rw [h.session_eq]
  exact hf session h.within

theorem agree_openReader : ActOn.Agree (Alike R allowed) openReader openReader :=
  agree_bind_get fun _ _ => .optional (ActOn.agree_throw _) (agree_modify fun _ => List.Subset.refl _)

variable (hR : World.Bears R allowed)

include hR

theorem agree_trace (event : TraceEvent) :
    ActOn.Agree (Alike R allowed) (trace event) (trace event) :=
  fun _ _ _ _ h => ⟨rfl, h.session_eq, h.within, hR.trace h.world event⟩

theorem agree_log (level : LogLevel) (message : Session → Text) :
    ActOn.Agree (Alike R allowed) (log level message) (log level message) :=
  agree_bind_get fun session _ _ _ _ _ h =>
    ⟨rfl, h.session_eq, h.within, hR.note h.world level .process (message session)⟩

theorem agree_cancelTimer : ActOn.Agree (Alike R allowed) cancelTimer cancelTimer := by
  refine agree_bind_get fun session _ => ?_
  split
  · exact (agree_trace hR _).bind fun _ => agree_modify fun _ => List.Subset.refl _
  · exact ActOn.agree_pure _

private theorem agree_signalChild (s : Signal) :
    ActOn.Agree (Alike R allowed) (signalChild s) (signalChild s) := by
  refine (agree_trace hR _).bind fun _ => agree_bind_get fun session _ => ?_
  split
  · exact agree_modifyChild_ends fun child => child.endsOnly_deliver s _
  · split
    · exact ActOn.agree_throw _
    · exact ActOn.agree_pure _

theorem agree_signal (s : Signal) : ActOn.Agree (Alike R allowed) (signal s) (signal s) := by
  refine agree_bind_get fun session _ => (agree_trace hR _).bind fun _ => ?_
  split
  · exact agree_modifyChild_ends fun child => child.endsOnly_deliver s _
  · split
    · exact (agree_log hR _ _).bind fun _ => agree_signalChild hR s
    · exact ActOn.agree_pure _

theorem agree_terminate : ActOn.Agree (Alike R allowed) terminate terminate := by
  refine (agree_cancelTimer hR).bind fun _ => agree_bind_get fun session _ =>
    .optional (agree_log hR _ _) ((agree_signal hR _).bind fun _ => ?_)
  split
  · exact agree_bind_get fun _ _ => .optional (agree_log hR _ _)
      ((agree_signal hR _).bind fun _ => agree_modifyChild_ends Child.endsOnly_reap)
  · exact agree_signal hR _

theorem agree_closeStream : ActOn.Agree (Alike R allowed) closeStream closeStream := by
  refine agree_bind_get fun session _ => ?_
  split
  · exact (agree_trace hR _).bind fun _ => agree_modifyChild fun _ => List.Subset.refl _
  · exact ActOn.agree_pure _

theorem agree_close : ActOn.Agree (Alike R allowed) close close :=
  (agree_terminate hR).bind fun _ => agree_closeStream hR

theorem agree_finishReader : ActOn.Agree (Alike R allowed) finishReader finishReader :=
  (agree_closeStream hR).bind fun _ => agree_modify fun _ => List.Subset.refl _

theorem agree_closeReader : ActOn.Agree (Alike R allowed) closeReader closeReader := by
  refine agree_bind_get fun session _ => ?_
  cases session.reader with
  | absent => exact ActOn.agree_pure _
  | suspended => exact agree_finishReader hR
  | fresh | finished => exact agree_modify fun _ => List.Subset.refl _

theorem agree_expire : ActOn.Agree (Alike R allowed) expire expire := by
  refine agree_bind_get fun session _ => ?_
  split
  · exact ActOn.agree_pure _
  · split
    · exact ActOn.agree_throw _
    · exact (agree_log hR _ _).bind fun _ =>
        ActOn.Agree.bind (agree_modify fun _ => List.Subset.refl _) fun _ => agree_terminate hR

private theorem agree_fire : ActOn.Agree (Alike R allowed) fire fire := by
  intro session w session' w' h
  have hexpire := agree_expire hR session w session' w' h
  rw [fire_apply, fire_apply, hexpire.1]
  exact ⟨rfl, hexpire.2⟩

private theorem agree_wait : ActOn.Agree (Alike R allowed) wait wait := by
  refine agree_bind_get fun session _ => .optional (ActOn.agree_throw _) ?_
  split
  · exact ActOn.agree_pure _
  · exact ActOn.Agree.bind (agree_modifyChild_ends Child.endsOnly_finish) fun _ =>
      ActOn.Agree.bind (agree_modify fun _ => List.Subset.refl _) fun _ =>
        (agree_cancelTimer hR).bind fun _ => (agree_log hR _ _).bind fun _ => ActOn.agree_pure _

private theorem agree_takeStep {step : OutputStep} (hstep : ∀ made, step = .change made → allowed made) :
    ActOn.Agree (Alike R allowed) (takeStep step) (takeStep step) := by
  refine ActOn.Agree.bind (agree_modifyChild fun _ _ => List.mem_of_mem_tail) fun _ => ?_
  cases step with
  | data bytes => exact agree_modifyChild fun _ => List.Subset.refl _
  | change made =>
    refine ActOn.agree_lift fun session session' w w' h => ?_
    obtain ⟨hresult, hworld⟩ := hR.change (hstep made rfl) w w' h.world
    exact ⟨hresult, h.session_eq, h.within, hworld⟩
  | hang =>
    refine agree_bind_get fun session _ => ?_
    split
    · exact agree_fire hR
    · exact ActOn.agree_pure _
  | readError error => exact ActOn.agree_throw _
  | interrupt => exact ActOn.agree_throw _

private theorem agree_readSteps (size : Int) {steps : List OutputStep}
    (hsteps : ∀ made, OutputStep.change made ∈ steps → allowed made) :
    ActOn.Agree (Alike R allowed) (readSteps size steps) (readSteps size steps) := by
  have hpending : ActOn.Agree (Alike R allowed) (takePending size) (takePending size) :=
    agree_bind_get fun _ _ => ActOn.Agree.bind (agree_modifyChild fun _ => List.Subset.refl _)
      fun _ => ActOn.agree_pure _
  induction steps with
  | nil =>
    refine agree_bind_get fun session _ => ?_
    split
    · exact ActOn.agree_pure _
    refine agree_bind_get fun session _ => ?_
    split
    · exact hpending
    · exact ActOn.Agree.bind (agree_modifyChild fun _ => List.Subset.refl _) fun _ =>
        ActOn.agree_pure _
  | cons step rest ih =>
    refine agree_bind_get fun session _ => ?_
    split
    · exact ActOn.agree_pure _
    refine agree_bind_get fun session _ => ?_
    split
    · exact hpending
    · have hfirst (made : List Change) (hmade : step = .change made) : allowed made :=
        hsteps made (hmade ▸ .head rest)
      exact (agree_takeStep hR hfirst).bind fun _ => ih fun made hmade => hsteps made (.tail step hmade)

private theorem agree_readChunk : ActOn.Agree (Alike R allowed) readChunk readChunk := by
  have hread (size : Int) : ActOn.Agree (Alike R allowed) (read size) (read size) :=
    agree_bind_get fun session hwithin => .optional (ActOn.agree_throw _)
      (agree_readSteps hR size hwithin)
  refine agree_bind_get fun session _ => (hread session.chunkSize).bind fun chunk => ?_
  split
  · exact ActOn.Agree.bind (agree_modify fun _ => List.Subset.refl _) fun _ =>
      (agree_wait hR).bind fun _ => ActOn.agree_pure _
  · exact (agree_log hR _ _).bind fun _ => ActOn.agree_pure _

theorem agree_next : ActOn.Agree (Alike R allowed) next next := by
  have hhandOut : ActOn.Agree (Alike R allowed) handOut handOut := by
    refine ((agree_readChunk hR).onFailure (agree_finishReader hR)).bind fun chunk => ?_
    cases chunk with
    | some chunk =>
      exact ActOn.Agree.bind (agree_modify fun _ => List.Subset.refl _) fun _ => ActOn.agree_pure _
    | none => exact (agree_finishReader hR).bind fun _ => ActOn.agree_pure _
  refine agree_bind_get fun session _ => ?_
  cases session.reader with
  | absent | finished => exact ActOn.agree_pure _
  | fresh | suspended => exact hhandOut

omit hR in
/-- What a session hands out depends on nothing of the world but the files. -/
theorem next_congr {w w' : World} (hfiles : w'.files = w.files) (session : Session) :
    (next session w').1 = (next session w).1 := by
  have hbears : World.Bears (fun w w' => w'.files = w.files) fun _ => True := by
    refine ⟨fun h _ _ _ => h, fun h _ => h, fun {made} _ w w' h => ?_⟩
    simp only [change, Act.bind_apply, Act.get_apply, Act.modify_apply, h]
    cases (w.files.applyAll made).2 with
    | none => exact ⟨rfl, rfl⟩
    | some fault => cases fault <;> exact ⟨rfl, rfl⟩
  obtain ⟨hresult, hafter⟩ :=
    agree_next hbears session w session w' ⟨rfl, fun _ _ => trivial, hfiles⟩
  exact Prod.ext hresult.symm hafter.session_eq

end Session

end ScanLauncher
