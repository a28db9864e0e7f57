import ScanLauncher.Proofs.Gate
import ScanLauncher.Proofs.Process.Effects
import ScanLauncher.Run.Basic

namespace ScanLauncher

/-- The registry after a claim was given back, if there was one. -/
def Gate.released (gate : Gate) : Option Path → Gate
  | none => gate
  | some key => gate.mark key false

theorem Gate.isHeld_released {gate : Gate} {lock : Option Path}
    (hheld : ∀ key, lock = some key → gate.isHeld key = true) (key : Path) :
    (gate.released lock).isHeld key = true ↔ gate.isHeld key = true ∧ lock ≠ some key := by
  cases lock with
  | none => simp [released]
  | some own =>
    have hmark := Gate.isHeld_mark (Gate.registered_of_isHeld (hheld own rfl)) key false
    by_cases hsame : key = own
    · subst hsame
      simp [released, hmark]
    · have hother : own ≠ key := Ne.symm hsame
      simp [released, hmark, hsame, hother]

namespace Run

/-- Whether the run was started and has not come to its end since: it was not closed, or its child
could not be stopped then. -/
def isOpen (run : Run) : Bool := !run.sessions.isEmpty && (!run.isClosed || run.lock.isSome)

/-- The launcher may signal the child of every session. -/
def TakesSignals (run : Run) : Prop := ∀ session ∈ run.sessions, session.child.spec.TakesSignals

/-- A run keeps its own accounts: it was started once at most, it has a claim exactly while it is
open, and while it is not open nothing is left of its session. It has a claim after it was closed only
if the launcher may not signal its child. -/
structure Sound (run : Run) : Prop where
  single : run.sessions.length ≤ 1
  owner : run.lock.isSome = run.isOpen
  stopped : run.isOpen = false → ∀ session ∈ run.sessions, session.Stopped
  released : run.isClosed = true → run.TakesSignals → run.lock = none

/-- Nothing is left of the session of a run that has no claim. -/
theorem Sound.stopped_of_lock {run : Run} (hsound : run.Sound) (hlock : run.lock = none) :
    ∀ session ∈ run.sessions, session.Stopped := by
  refine hsound.stopped ?_
  rw [← hsound.owner, hlock]
  rfl

/-- The error that keeps the launcher from stopping the child of the run, if one does. -/
def stopRefusal? (run : Run) : Option Errno := run.session?.bind fun session => session.child.stopRefusal?

/-- What closing the run comes to. A second time nothing is done. -/
def closing (run : Run) : Except Failure Unit :=
  if run.isClosed then .ok () else Session.answer run.stopRefusal?

/-- What comes of work at whose end the run is closed: an error of that takes the place of what came of
the work. -/
def concluding {α : Type} (run : Run) (result : Except Failure α) : Except Failure α :=
  run.closing >>= fun _ => result

/-- The claim that is given back when the run is closed. -/
def returned (run : Run) : Option Path :=
  if run.isClosed || run.stopRefusal?.isSome then none else run.lock

/-- The run after it was closed; a run that was closed before stays as it is. -/
def closed (run : Run) : Run :=
  if run.isClosed then run
  else
    { run with
      isClosed := true
      lock := if run.stopRefusal?.isSome then run.lock else none
      state := if run.state = .done then .done else .failed
      sessions := run.sessions.map Session.shut }

@[simp] theorem isClosed_closed (run : Run) : run.closed.isClosed = true := by
  unfold closed
  split
  · assumption
  · rfl

theorem config_closed (run : Run) : run.closed.config = run.config := by
  unfold closed
  split <;> rfl

@[simp] theorem outcome_closed (run : Run) : run.closed.outcome = run.outcome := by
  unfold closed
  split <;> rfl

theorem length_sessions_closed (run : Run) : run.closed.sessions.length = run.sessions.length := by
  unfold closed
  split <;> simp

theorem stopRefusal?_of_takesSignals {run : Run} (htakes : run.TakesSignals) :
    run.stopRefusal? = none := by
  unfold stopRefusal?
  cases hsession : run.session? with
  | none => rfl
  | some session =>
    exact Child.stopRefusal?_of_takesSignals (htakes session (List.mem_of_getLast? hsession))

/-- Nothing keeps the launcher from closing a run whose child it may signal. -/
theorem closing_of_takesSignals {run : Run} (htakes : run.TakesSignals) : run.closing = .ok () := by
  unfold closing
  rw [stopRefusal?_of_takesSignals htakes]
  split <;> rfl

theorem closing_of_isClosed {run : Run} (hclosed : run.isClosed = true) : run.closing = .ok () := by
  simp [closing, hclosed]

theorem concluding_of_isClosed {α : Type} {run : Run} (hclosed : run.isClosed = true)
    (result : Except Failure α) : run.concluding result = result := by
  rw [concluding, closing_of_isClosed hclosed]
  rfl

/-- Closing a run makes nothing succeed. -/
theorem eq_ok_of_concluding {α : Type} {run : Run} {result : Except Failure α} {a : α}
    (h : run.concluding result = .ok a) : run.closing = .ok () ∧ result = .ok a := by
  obtain ⟨_, hclosing, hresult⟩ := Except.exists_of_bind h
  exact ⟨hclosing, hresult⟩

/-- Where an open run could be closed its claim was given back. -/
theorem lock_closed_of_closing {run : Run} (hopen : run.isClosed = false)
    (hclosing : run.closing = .ok ()) : run.closed.lock = none := by
  cases hrefusal : run.stopRefusal? with
  | none => simp [closed, hopen, hrefusal]
  | some e => simp [closing, hopen, hrefusal, Session.answer] at hclosing

/-- A failure that is no error of the system is one of the work itself. -/
theorem closing_of_concluding {α : Type} {run : Run} {result : Except Failure α} {failure : Failure}
    (h : run.concluding result = .error failure) (hother : ∀ error, failure ≠ .os error) :
    run.closing = .ok () := by
  cases hclosing : run.closing with
  | ok _ => rfl
  | error other =>
    obtain rfl : other = failure := by
      simpa [concluding, hclosing, bind, Except.bind] using h
    unfold closing at hclosing
    split at hclosing
    · cases hclosing
    · cases hrefusal : run.stopRefusal? with
      | none => simp [hrefusal, Session.answer] at hclosing
      | some e =>
        rw [hrefusal] at hclosing
        cases hclosing
        exact absurd rfl (hother _)

theorem takesSignals_closed {run : Run} : run.closed.TakesSignals ↔ run.TakesSignals := by
  have hshut (session : Session) :
      session.shut.child.spec.TakesSignals ↔ session.child.spec.TakesSignals := by
    rw [session.spec_shut]
  unfold closed
  split
  · rfl
  · simp [TakesSignals, hshut]

private theorem returned_cases (run : Run) :
    (run.returned = none ∧ run.closed.lock = run.lock) ∨
      (run.returned = run.lock ∧ run.closed.lock = none) := by
  cases hclosed : run.isClosed with
  | true => simp [returned, closed, hclosed]
  | false => cases hrefusal : run.stopRefusal? <;> simp [returned, closed, hclosed, hrefusal]

private theorem lock_closed {run : Run} (hsound : run.Sound) (htakes : run.TakesSignals) :
    run.closed.lock = none := by
  unfold closed
  split
  · exact hsound.released ‹_› htakes
  · simp [stopRefusal?_of_takesSignals htakes]

private theorem sound_closed {run : Run} (hsound : run.Sound) : run.closed.Sound := by
  by_cases hclosed : run.isClosed = true
  · simpa [closed, hclosed] using hsound
  · have hsingle : run.closed.sessions.length ≤ 1 := by
      rw [length_sessions_closed]
      exact hsound.single
    have hreleased (htakes : run.closed.TakesSignals) : run.closed.lock = none :=
      lock_closed hsound (takesSignals_closed.mp htakes)
    cases hrefusal : run.stopRefusal? with
    | some e =>
      -- The run stays open, with its claim.
      have hsession : run.sessions ≠ [] := by
        rintro hnone
        simp [stopRefusal?, session?, hnone] at hrefusal
      have hlock : run.lock.isSome = true := by
        rw [hsound.owner]
        simp [isOpen, hclosed, hsession]
      have hopen : run.closed.isOpen = true := by
        simp [closed, hclosed, isOpen, hrefusal, hlock, hsession]
      refine ⟨hsingle, ?_, fun hnot => ?_, fun _ => hreleased⟩
      · rw [hopen]
        simpa [closed, hclosed, hrefusal] using hlock
      · rw [hopen] at hnot
        cases hnot
    | none =>
      refine ⟨hsingle, by simp [closed, hclosed, isOpen, hrefusal], fun _ session hsession => ?_,
        fun _ => hreleased⟩
      simp only [closed, hclosed] at hsession
      obtain ⟨before, hbefore, rfl⟩ := List.mem_map.mp hsession
      refine before.stopped_shut ?_
      have hlast : run.session? = some before := by
        obtain ⟨only, honly⟩ := List.length_eq_one_iff.mp
          (Nat.le_antisymm hsound.single (List.length_pos_of_mem hbefore))
        simp_all [session?]
      simpa [stopRefusal?, hlast] using hrefusal

theorem onSession_apply {α : Type} {run : Run} {index : Nat} (session : Session)
    (hsession : run.sessions[index]? = some session) (act : ActOn Session α) (w : World) :
    onSession index act run w =
      (((act session w).1.1, { run with sessions := run.sessions.set index (act session w).1.2 }),
        (act session w).2) := by
  simp [onSession, hsession]

theorem onSession_none {α : Type} {run : Run} {index : Nat}
    (hsession : run.sessions[index]? = none) (act : ActOn Session α) (w : World) :
    onSession index act run w = ((.error (.misuse .notStarted), run), w) := by
  simp [onSession, hsession]

/-- Giving the claim back succeeds if the lock is held, and frees no other lock. -/
theorem release_apply {run : Run} {w : World}
    (hheld : ∀ key, run.lock = some key → w.gate.isHeld key = true) :
    release run w =
      ((.ok (), { run with lock := none }), { w with gate := w.gate.released run.lock }) := by
  cases hlock : run.lock with
  | none =>
    have hsame : { run with lock := none } = run := by rw [← hlock]
    simp [release, hlock, Gate.released, hsame]
  | some key => simp [release, hlock, Gate.release_held (hheld key hlock), Gate.released]

/-- What closing an open run comes to: the run is marked, then its session is stopped, then its
claim is given back. -/
theorem close_eq {run : Run} (hopen : run.isClosed = false) (w : World) :
    ∃ w', w.RecordsOnly w' ∧ close run w =
      (if run.session?.isSome then do onSession run.current Session.close; release
        else release : ActOn Run Unit)
        { run with isClosed := true, state := if run.state = .done then .done else .failed } w' := by
  by_cases hdone : run.state = .done
  · refine ⟨w, .refl w, ?_⟩
    simp [close, hopen, hdone]
  · refine ⟨w.note .warning .run
      ("Scan abandoned while " ++ run.state.word ++ ", stopping tool"), w.recordsOnly_note _ _ _, ?_⟩
    simp [close, log, enter, hopen, hdone]

/-- Closing a run stops its session and then gives back its claim, unless an error keeps the launcher
from stopping the child; a second time it does nothing. -/
theorem close_apply {run : Run} {w : World} (hsound : run.Sound)
    (hheld : ∀ key, run.lock = some key → w.gate.isHeld key = true) :
    ∃ w', close run w = ((run.closing, run.closed), w') ∧
      { w with gate := w.gate.released run.returned }.RecordsOnly w' := by
  by_cases hclosed : run.isClosed = true
  · refine ⟨w, by simp [close, closing, closed, hclosed], ?_⟩
    simp only [returned, hclosed]
    exact .refl w
  · obtain ⟨w₁, hrecords, hclose⟩ := close_eq (by simpa using hclosed) w
    rw [hclose]
    rcases hsessions : run.sessions with _ | ⟨session, _ | ⟨other, rest⟩⟩
    · have hnone : run.stopRefusal? = none := by simp [stopRefusal?, session?, hsessions]
      refine ⟨{ w₁ with gate := w₁.gate.released run.lock }, ?_, ?_⟩
      · simp only [session?, hsessions, List.getLast?_nil, Option.isSome_none, Bool.false_eq_true,
          if_false]
        rw [release_apply (by rwa [hrecords.gate_eq])]
        simp [closing, closed, hclosed, hsessions, hnone, Session.answer]
      · simpa [returned, hclosed, hnone] using hrecords.mapGate (·.released run.lock)
    · obtain ⟨w₂, hstop, hrecords', _⟩ := session.close_ends w₁
      have hgate := hrecords.trans hrecords'
      have hrefusal : run.stopRefusal? = session.child.stopRefusal? := by
        simp [stopRefusal?, session?, hsessions]
      simp only [session?, current, hsessions, List.getLast?_singleton, Option.isSome_some, if_true,
        ActOn.bind_apply]
      rw [onSession_apply session (by simp), hstop]
      cases hnone : session.child.stopRefusal? with
      | some e =>
        refine ⟨w₂, ?_, ?_⟩
        · simp [closing, closed, hclosed, hsessions, hrefusal, hnone, Session.answer]
        · simpa [returned, hclosed, hrefusal, hnone, Gate.released] using hgate
      | none =>
        refine ⟨{ w₂ with gate := w₂.gate.released run.lock }, ?_, ?_⟩
        · simp only [Session.answer]
          rw [release_apply (by rwa [hgate.gate_eq])]
          simp [closing, closed, hclosed, hsessions, hrefusal, hnone, Session.answer]
        · simpa [returned, hclosed, hrefusal, hnone] using hgate.mapGate (·.released run.lock)
    · have hsingle := hsound.single
      simp [hsessions] at hsingle

/-- The states that work on a run can lead to, from a first state and a registry: the run's accounts
are in order, and either its claim and the registry are as they were, or the claim was given back. -/
structure Accounted (first : Run) (gate : Gate) (run : Run) (w : World) : Prop where
  sound : run.Sound
  config : run.config = first.config
  count : run.sessions.length = first.sessions.length
  takesSignals : run.TakesSignals ↔ first.TakesSignals
  ledger : (run.lock = first.lock ∧ w.gate = gate) ∨
    (run.lock = none ∧ w.gate = gate.released first.lock)

theorem Accounted.refl {run : Run} (hsound : run.Sound) (w : World) :
    run.Accounted w.gate run w :=
  ⟨hsound, rfl, rfl, .rfl, .inl ⟨rfl, rfl⟩⟩

section Accounted

variable {first : Run} {gate : Gate}

theorem Accounted.of_sameGate {run : Run} {w w' : World} (h : first.Accounted gate run w)
    (hgate : w'.gate = w.gate) : first.Accounted gate run w' :=
  { h with ledger := by rw [hgate]; exact h.ledger }

theorem keeps_enter (state : RunState) : (enter state).Keeps (first.Accounted gate) :=
  ActOn.keeps_modify fun _ _ h =>
    ⟨⟨h.sound.single, h.sound.owner, h.sound.stopped, h.sound.released⟩, h.config, h.count,
      h.takesSignals, h.ledger⟩

theorem keeps_modifyOutcome (f : Outcome → Outcome) :
    (modifyOutcome f).Keeps (first.Accounted gate) :=
  ActOn.keeps_modify fun _ _ h =>
    ⟨⟨h.sound.single, h.sound.owner, h.sound.stopped, h.sound.released⟩, h.config, h.count,
      h.takesSignals, h.ledger⟩

private theorem takesSignals_set {run : Run} {index : Nat} {session after : Session}
    (hsession : run.sessions[index]? = some session)
    (hspec : after.child.spec = session.child.spec) :
    { run with sessions := run.sessions.set index after }.TakesSignals ↔ run.TakesSignals := by
  constructor
  · intro htakes other hother
    obtain ⟨i, hi⟩ := List.mem_iff_getElem?.mp hother
    by_cases hsame : index = i
    · subst hsame
      obtain rfl := Option.some.inj (hsession.symm.trans hi)
      rw [← hspec]
      obtain ⟨hindex, _⟩ := List.getElem?_eq_some_iff.mp hsession
      exact htakes after (List.mem_set hindex after)
    · have hkept : (run.sessions.set index after)[i]? = some other := by simpa [hsame] using hi
      exact htakes other (List.mem_of_getElem? hkept)
  · intro htakes other hother
    rcases List.mem_or_eq_of_mem_set hother with hold | rfl
    · exact htakes other hold
    · rw [hspec]
      exact htakes session (List.mem_of_getElem? hsession)

/-- Work on a session is no business of the gate's, and wakes no session that was stopped. -/
theorem keeps_onSession {α : Type} (index : Nat) {act : ActOn Session α}
    (hact : ∀ (before : Session) (w₀ : World), act.Keeps (before.Effects w₀)) :
    (onSession index act).Keeps (first.Accounted gate) := by
  intro run w h
  cases hsession : run.sessions[index]? with
  | none =>
    rw [onSession_none hsession]
    exact h
  | some session =>
    obtain ⟨⟨hsingle, howner, hstopped, hreleased⟩, hconfig, hcount, htakes, hledger⟩ := h
    have heffects := hact session w session w .refl
    have hsame := takesSignals_set hsession heffects.spec_eq
    have hset : (run.sessions.set index (act session w).1.2).isEmpty = run.sessions.isEmpty := by
      cases run.sessions <;> simp
    rw [onSession_apply session hsession]
    refine ⟨⟨by simpa using hsingle, ?_, ?_, fun hclosed hafter => ?_⟩, hconfig, by simpa using hcount,
      hsame.trans htakes, ?_⟩
    · simpa only [isOpen, hset] using howner
    · intro hclosed other hother
      have hbefore := hstopped (by simpa only [isOpen, hset] using hclosed)
      rcases List.mem_or_eq_of_mem_set hother with hold | rfl
      · exact hbefore other hold
      · exact heffects.stopped (hbefore session (List.mem_of_getElem? hsession))
    · exact hreleased hclosed (hsame.mp hafter)
    · rw [heffects.filesOnly.gate_eq]
      exact hledger

/-- The lock that an accounted run still claims is held. -/
theorem Accounted.isHeld {run : Run} {w : World} (h : first.Accounted gate run w)
    (hheld : ∀ key, first.lock = some key → gate.isHeld key = true) (key : Path)
    (hkey : run.lock = some key) : w.gate.isHeld key = true := by
  rcases h.ledger with ⟨hlock, hgate⟩ | ⟨hlock, _⟩
  · rw [hgate]
    exact hheld key (hlock ▸ hkey)
  · rw [hlock] at hkey
    cases hkey

/-- Closing a run gives back its own claim or, the second time, nothing. -/
theorem keeps_close (hheld : ∀ key, first.lock = some key → gate.isHeld key = true) :
    close.Keeps (first.Accounted gate) := by
  intro run w h
  obtain ⟨w', hclose, hrecords⟩ := close_apply h.sound (h.isHeld hheld)
  rw [hclose]
  refine ⟨sound_closed h.sound, (config_closed run).trans h.config,
    (length_sessions_closed run).trans h.count, takesSignals_closed.trans h.takesSignals, ?_⟩
  simp only [hrecords.gate_eq]
  rcases run.returned_cases with ⟨hnothing, hkept⟩ | ⟨hall, hnone⟩
  · rw [hnothing, hkept]
    exact h.ledger
  · refine .inr ⟨hnone, ?_⟩
    rw [hall]
    rcases h.ledger with ⟨hlock, hgate⟩ | ⟨hlock, hgate⟩
    · rw [hlock, hgate]
    · rw [hlock, hgate, Gate.released]

theorem keeps_expire : expire.Keeps (first.Accounted gate) :=
  ActOn.keeps_get.bind fun run => keeps_onSession run.current fun _ _ => Session.effects_expire

end Accounted

end Run

end ScanLauncher
