import ScanLauncher.Proofs.Process.Launch
import ScanLauncher.Proofs.Process.Producing

namespace ScanLauncher

/-- None of the steps makes a read fail, over these files: every change of files can be made. -/
def OutputStep.AreReadable : FileSystem → List OutputStep → Prop
  | _, [] => True
  | files, .data _ :: rest | files, .hang :: rest => AreReadable files rest
  | files, .change changes :: rest =>
    (files.applyAll changes).2 = none ∧ AreReadable (files.applyAll changes).1 rest
  | _, .readError _ :: _ | _, .interrupt :: _ => False

theorem OutputStep.AreReadable.tail {files : FileSystem} {step : OutputStep} {rest : List OutputStep}
    (h : AreReadable files (step :: rest)) :
    (files.applyAll step.changes).2 = none ∧
      AreReadable (files.applyAll step.changes).1 rest := by
  cases step with
  | data | hang => exact ⟨rfl, h⟩
  | change => exact h
  | readError | interrupt => exact h.elim

namespace ProcessSpec

/-- Whether a signal to the child's group gets to all who hold the output: nobody has left the group;
or, where the group cannot be signalled, the child can, and it holds the output alone. -/
def stops (spec : ProcessSpec) (s : Signal) : Bool :=
  match spec.groupError.of s with
  | none => spec.holders != .others
  | some e => e != .noProcess && (spec.childError.of s).isNone &&
      (spec.holders == .together || spec.holders == .child && !spec.leaderExited)

/-- Whether the child, when it is asked to end, does so in its own way. -/
def heedsRequest (spec : ProcessSpec) : Bool :=
  spec.endsInOrder && !spec.ignoresTerminate && !spec.leaderExited

/-- Whether the child goes on after it was asked to end, until it is ended by force. -/
def outlastsRequest (spec : ProcessSpec) : Bool := spec.ignoresTerminate && !spec.leaderExited

/-- The steps that are still taken, of those that are left when the child is asked to end: all of them
if it ends in its own way, those that come before it is ended by force if it goes on until then, and
else none. -/
def parting (spec : ProcessSpec) (left : List OutputStep) : List OutputStep :=
  if spec.heedsRequest then left
  else if spec.outlastsRequest then left.take (spec.lastSteps.getD 0)
  else []

end ProcessSpec

namespace Child

/-- Nothing has been done to end the child, and it has not come to its end. -/
structure IsLeftAlone (child : Child) : Prop where
  killedBy : child.killedBy = none
  hasEndedInOrder : child.hasEndedInOrder = false
  isAtEnd : child.isAtEnd = false
  lost : child.lost = none

theorem IsLeftAlone.isRunning_eq {child : Child} (h : child.IsLeftAlone) :
    child.isRunning = !child.spec.leaderExited := by
  cases hexited : child.spec.leaderExited <;>
    simp [isRunning, poll, h.killedBy, h.hasEndedInOrder, h.isAtEnd, hexited]

theorem IsLeftAlone.signalled_eq {child : Child} (h : child.IsLeftAlone) {s : Signal}
    (hstops : child.spec.stops s = true) : child.signalled s = child.deliver s .holders := by
  have hrunning := h.isRunning_eq
  unfold ProcessSpec.stops at hstops
  unfold signalled
  cases hgroup : child.spec.groupError.of s with
  | none =>
    have hreach : child.reachGroup = .holders := by simpa [reachGroup, hgroup] using hstops
    simp only [hreach]
  | some e =>
    simp only [hgroup, Bool.and_eq_true, bne_iff_ne, ne_eq, Bool.or_eq_true, beq_iff_eq,
      Bool.not_eq_true', Option.isNone_iff_eq_none] at hstops
    obtain ⟨⟨hpresent, herror⟩, hholders⟩ := hstops
    have hreach : child.reachAlone = .holders := by
      rcases hholders with htogether | ⟨hchild, hleads⟩
      · simp [reachAlone, htogether]
      · simp [reachAlone, hchild, hrunning, hleads]
    simp [hpresent, hreach, aloneError?, herror]

theorem refusal?_of_stops {child : Child} {s : Signal} (hstops : child.spec.stops s = true) :
    child.refusal? s = none := by
  unfold ProcessSpec.stops at hstops
  unfold refusal?
  cases hgroup : child.spec.groupError.of s with
  | none => rfl
  | some e =>
    have herror : child.spec.childError.of s = none := by simp_all
    simp [aloneError?, herror]

private theorem signalled_of_endedInOrder {child : Child} (hended : child.hasEndedInOrder = true)
    (s : Signal) : child.signalled s = child := by
  unfold signalled
  split <;> simp [deliver, hended]

private theorem lost_forced (child : Child) (isAwaited : Bool) :
    (child.forced isAwaited).lost = (child.signalled .kill).lost := by
  unfold forced reap
  split
  · split
    · exact lost_finish _
    · rfl
  · rfl

private theorem lost_signalled {child : Child} {n : Nat} (hlost : child.lost = some n) (s : Signal) :
    (child.signalled s).lost = some n := by
  have hdeliver (reach : Reach) : (child.deliver s reach).lost = some n := by
    unfold deliver
    split
    · exact hlost
    · split <;> simp [hlost]
  unfold signalled
  split
  · exact hdeliver _
  · split
    · exact hlost
    · exact hdeliver _

/-- Stopping a child cuts its output off, unless the child ends in its own way; from one that is ended
by force comes what it wrote until then. -/
theorem IsLeftAlone.lost_stopped {child : Child} (h : child.IsLeftAlone)
    (hstops : ∀ s, child.spec.stops s = true) :
    child.stopped.lost =
      if child.spec.heedsRequest then none
      else if child.spec.outlastsRequest then
        some (child.steps.length - child.spec.lastSteps.getD 0)
      else some child.steps.length := by
  have hrunning := h.isRunning_eq
  have hforced : child.stopped.lost = ((child.signalled .terminate).signalled .kill).lost := by
    simp [stopped, refusal?_of_stops (hstops .terminate), lost_forced]
  rw [hforced, h.signalled_eq (hstops .terminate)]
  cases hignores : child.spec.ignoresTerminate with
  | true =>
    -- The request changes nothing, and force comes to a child that was left alone until then.
    have hdeaf : child.deliver .terminate .holders = child := by simp [deliver, hignores]
    rw [hdeaf, h.signalled_eq (hstops .kill)]
    cases hexited : child.spec.leaderExited <;>
      simp [deliver, losing, ProcessSpec.heedsRequest, ProcessSpec.outlastsRequest, hignores, hexited,
        hrunning, h.hasEndedInOrder, h.lost]
  | false =>
    cases hheeds : child.spec.heedsRequest with
    | true =>
      obtain ⟨⟨horder, _⟩, hexited⟩ : (child.spec.endsInOrder = true ∧ _) ∧
          child.spec.leaderExited = false := by
        simpa [ProcessSpec.heedsRequest] using hheeds
      have hasked : child.deliver .terminate .holders = { child with hasEndedInOrder := true } := by
        simp [deliver, hignores, horder, hexited, hrunning, h.hasEndedInOrder]
      rw [hasked, signalled_of_endedInOrder rfl]
      exact h.lost
    | false =>
      have hkilled : (child.deliver .terminate .holders).lost = some child.steps.length := by
        have horder : child.spec.endsInOrder = false ∨ child.spec.leaderExited = true := by
          cases horder : child.spec.endsInOrder <;>
            simp_all [ProcessSpec.heedsRequest]
        rcases horder with horder | hexited
        · simp [deliver, losing, hignores, horder, h.hasEndedInOrder, h.lost]
        · simp [deliver, losing, hignores, hexited, hrunning, h.hasEndedInOrder, h.lost]
      rw [lost_signalled hkilled]
      simp [ProcessSpec.outlastsRequest, hignores]

/-- The output steps that will still be taken: those before the lost ones. -/
def coming (child : Child) : List OutputStep :=
  match child.lost with
  | none => child.steps
  | some n => child.steps.take (child.steps.length - n)

private theorem coming_cons {child : Child} {step : OutputStep} {rest : List OutputStep}
    (hsteps : child.steps = step :: rest) (hpending : child.pending = [])
    (hon : child.isCutOff = false) (bytes : List UInt8) :
    child.coming = step :: { child with steps := rest, pending := bytes }.coming := by
  unfold coming
  cases hlost : child.lost with
  | none => simpa using hsteps
  | some n =>
    have hleft : n < rest.length + 1 := by simpa [isCutOff, hlost, hpending, hsteps] using hon
    have hcount : rest.length + 1 - n = rest.length - n + 1 := by omega
    simp only [hsteps, List.length_cons, hcount, List.take_succ_cons]

private theorem coming_of_cutOff {child : Child} (hoff : child.isCutOff = true) :
    child.lost ≠ none ∧ child.coming = [] ∧
      (child.pending = [] ∨ child.spec.lastSteps = none) := by
  cases hlost : child.lost with
  | none => simp [isCutOff, hlost] at hoff
  | some n =>
    obtain ⟨hless, hpending⟩ : child.steps.length ≤ n ∧
        (child.pending = [] ∨ child.spec.lastSteps = none) := by
      simpa [isCutOff, hlost] using hoff
    refine ⟨Option.some_ne_none n, ?_, hpending⟩
    simp [coming, hlost, Nat.sub_eq_zero_of_le hless]

private theorem IsLeftAlone.isCutOff_eq_false {child : Child} (h : child.IsLeftAlone) :
    child.isCutOff = false := by
  simp [isCutOff, h.lost]

private theorem IsLeftAlone.coming_stopped {child : Child} (h : child.IsLeftAlone)
    (hstops : ∀ s, child.spec.stops s = true) :
    child.stopped.coming = child.spec.parting child.steps := by
  have hlost := h.lost_stopped hstops
  unfold coming ProcessSpec.parting
  rw [hlost, child.endsOnly_stopped.steps_eq]
  cases child.spec.heedsRequest with
  | true => rfl
  | false =>
    cases child.spec.outlastsRequest with
    | true =>
      simp only [Bool.false_eq_true, if_false, if_true]
      rw [List.take_eq_take_iff]
      omega
    | false => simp

end Child

namespace Session

/-- What the reader of a session will still hand out before it comes to an end at which the session
has timed out: while the child has not stalled yet, and after it was stopped. -/
inductive Due (files : FileSystem) (session : Session) : List UInt8 → Prop
  | waiting {before left : List OutputStep} (hopen : session.child.isClosed = false)
      (htimer : session.timer = .live) (hlimit : session.timeoutText?.isSome = true)
      (hdrained : session.isDrained = false) (halone : session.child.IsLeftAlone)
      (hstops : ∀ s, session.child.spec.stops s = true)
      (hsteps : session.child.steps = before ++ .hang :: left) (hfirst : .hang ∉ before)
      (hreadable : OutputStep.AreReadable files (before ++ session.child.spec.parting left)) :
      Due files session (session.child.pending ++
        (before ++ session.child.spec.parting left).flatMap OutputStep.bytes)
  | ending (hopen : session.child.isClosed = false) (htimer : session.timer ≠ .live)
      (htimed : session.isTimedOut = true)
      (hlost : session.child.lost ≠ none → session.child.spec.lastSteps = none →
        session.child.pending = [] ∧ session.child.coming = [])
      (hreadable : OutputStep.AreReadable files session.child.coming) :
      Due files session (session.child.pending ++ session.child.coming.flatMap OutputStep.bytes)

section Due

variable {session : Session} {w : World} {bytes : List UInt8}

/-- The session at the moment at which its timer fires, with some steps left. -/
def firing (session : Session) (left : List OutputStep) : Session :=
  { session with isTimedOut := true, child := { session.child with steps := left } }

private theorem takeStep_hang {left : List OutputStep} (htimer : session.timer = .live)
    (hlimit : session.timeoutText?.isSome = true) (hdrained : session.isDrained = false)
    (hsteps : session.child.steps = .hang :: left) (w : World) :
    ∃ w', takeStep .hang session w = ((.ok (), (session.firing left).terminated), w') ∧
      w'.files = w.files := by
  obtain ⟨limit, hlimit⟩ := Option.isSome_iff_exists.mp hlimit
  let taken : Session := { session with child := { session.child with steps := left } }
  have hgoing : (taken.isDrained && !taken.child.isRunning) = false := by simp [taken, hdrained]
  obtain ⟨w', hfire, hrecords⟩ := fire_settles hgoing hlimit w
  refine ⟨w', ?_, hrecords.files_eq⟩
  have htaken : takeStep .hang session w = fire taken w := by
    simp [takeStep, modifyChild, hsteps, htimer, taken]
  rw [htaken, hfire, firing]

private theorem due_firing {left : List OutputStep} (hopen : session.child.isClosed = false)
    (halone : session.child.IsLeftAlone) (hstops : ∀ s, session.child.spec.stops s = true)
    (hpending : session.child.pending = []) {files : FileSystem}
    (hreadable : OutputStep.AreReadable files (session.child.spec.parting left)) :
    (session.firing left).terminated.Due files
      ((session.child.spec.parting left).flatMap OutputStep.bytes) := by
  let child := (session.firing left).child
  have halone' : child.IsLeftAlone :=
    ⟨halone.killedBy, halone.hasEndedInOrder, halone.isAtEnd, halone.lost⟩
  have hcoming : child.stopped.coming = session.child.spec.parting left :=
    halone'.coming_stopped hstops
  have hpending' : child.stopped.pending = [] := child.endsOnly_stopped.pending_eq.trans hpending
  have hdue : (session.firing left).terminated.Due files
      (child.stopped.pending ++ child.stopped.coming.flatMap OutputStep.bytes) := by
    refine .ending (child.endsOnly_stopped.isClosed_eq.trans hopen) session.timer.cancel_ne_live rfl
      (fun hlost hlast => ⟨hpending', ?_⟩) (hcoming.symm ▸ hreadable)
    have hlast : session.child.spec.lastSteps = none := by
      rw [← hlast]
      exact congrArg ProcessSpec.lastSteps child.endsOnly_stopped.spec_eq.symm
    change child.stopped.lost ≠ none at hlost
    rw [halone'.lost_stopped hstops] at hlost
    have hheeds : session.child.spec.heedsRequest = false := by
      refine eq_false_of_ne_true fun hheeds => hlost ?_
      exact if_pos hheeds
    change child.stopped.coming = []
    rw [hcoming]
    simp [ProcessSpec.parting, hheeds, hlast]
  rwa [hpending', List.nil_append, hcoming] at hdue

/-- A step at which no timer fires brings its bytes and makes its changes. -/
theorem takeStep_of_areReadable {step : OutputStep} {rest more : List OutputStep}
    (hreadable : OutputStep.AreReadable w.files (step :: more))
    (hpending : session.child.pending = []) (hsteps : session.child.steps = step :: rest)
    (hquiet : step = .hang → session.timer ≠ .live) :
    takeStep step session w =
      ((.ok (), { session with
          child := { session.child with steps := rest, pending := step.bytes } }),
        { w with files := (w.files.applyAll step.changes).1 }) := by
  cases step with
  | data => simp [takeStep, modifyChild, hsteps, OutputStep.bytes, OutputStep.changes,
      FileSystem.applyAll]
  | change changes =>
    have hchange : change changes w = (.ok (), { w with files := (w.files.applyAll changes).1 }) := by
      simp only [change, Act.bind_apply, Act.get_apply, Act.modify_apply, hreadable.1]
      rfl
    simp [takeStep, modifyChild, hsteps, hchange, OutputStep.bytes, OutputStep.changes, ← hpending]
  | hang =>
    simp [takeStep, modifyChild, hsteps, hquiet rfl, OutputStep.bytes, OutputStep.changes,
      FileSystem.applyAll, ← hpending]
  | readError | interrupt => exact hreadable.elim

/-- A step that a read has to take leaves due what was due before. -/
theorem Due.takeStep (hdue : session.Due w.files bytes) (hpending : session.child.pending = [])
    (hon : session.child.isCutOff = false) {step : OutputStep} {rest : List OutputStep}
    (hsteps : session.child.steps = step :: rest) :
    ∃ session' w', Session.takeStep step session w = ((.ok (), session'), w') ∧
      session'.Due w'.files bytes ∧ session'.child.steps = rest := by
  cases hdue with
  | @waiting before left hopen htimer hlimit hdrained halone hstops houtput hfirst hreadable =>
    rw [hpending]
    cases before with
    | nil =>
      obtain ⟨rfl, rfl⟩ : step = .hang ∧ rest = left := by simpa [hsteps] using houtput
      obtain ⟨w', htake, hfiles⟩ := takeStep_hang htimer hlimit hdrained hsteps w
      refine ⟨_, w', htake, ?_, (Child.endsOnly_stopped _).steps_eq⟩
      rw [hfiles]
      exact due_firing hopen halone hstops hpending hreadable
    | cons first before =>
      obtain ⟨rfl, rfl⟩ : step = first ∧ rest = before ++ .hang :: left := by
        simpa [hsteps] using houtput
      have hspeaks : step ≠ .hang := fun h => hfirst (h ▸ .head before)
      refine ⟨_, _, takeStep_of_areReadable hreadable hpending hsteps fun h => absurd h hspeaks, ?_,
        rfl⟩
      exact .waiting hopen htimer hlimit hdrained
        ⟨halone.killedBy, halone.hasEndedInOrder, halone.isAtEnd, halone.lost⟩ hstops rfl
        (fun hmem => hfirst (.tail _ hmem)) hreadable.tail.2
  | ending hopen htimer htimed hlost hreadable =>
    have hcoming := session.child.coming_cons hsteps hpending hon step.bytes
    rw [hpending, hcoming]
    rw [hcoming] at hreadable
    refine ⟨_, _, takeStep_of_areReadable hreadable hpending hsteps fun _ => htimer, ?_, rfl⟩
    refine .ending hopen htimer htimed (fun hsome hlast => ?_) hreadable.tail.2
    cases hcoming.symm.trans (hlost hsome hlast).2

private theorem Due.of_cutOff (hdue : session.Due w.files bytes) (hoff : session.child.isCutOff = true) :
    bytes = [] ∧ session.isTimedOut = true := by
  cases hdue with
  | waiting _ _ _ _ halone => simp [halone.isCutOff_eq_false] at hoff
  | ending _ _ htimed hlost =>
    obtain ⟨hsome, hcoming, hpending⟩ := Child.coming_of_cutOff hoff
    refine ⟨?_, htimed⟩
    rcases hpending with hnone | hlast
    · simp [hnone, hcoming]
    · simp [(hlost hsome hlast).1, hcoming]

/-- Nothing is due at the end of the output. -/
theorem Due.of_end (hdue : session.Due w.files bytes) (hpending : session.child.pending = [])
    (hsteps : session.child.steps = []) :
    bytes = [] ∧ session.isTimedOut = true ∧
      Due w.files { session with child := { session.child with isAtEnd := true } } bytes := by
  cases hdue with
  | waiting _ _ _ _ _ _ houtput => simp [hsteps] at houtput
  | ending hopen htimer htimed hlost hreadable =>
    have hcoming : session.child.coming = [] := by
      cases hlost : session.child.lost <;> simp [Child.coming, hlost, hsteps]
    exact ⟨by simp [hpending, hcoming], htimed, .ending hopen htimer htimed hlost hreadable⟩

/-- What a read has to come to: the front of what is due, and nothing only if nothing is due any more
and the session has timed out. -/
def Serves (bytes : List UInt8) (after : (Except Failure (List UInt8) × Session) × World) : Prop :=
  ∃ chunk rest, after.1.1 = .ok chunk ∧ chunk ++ rest = bytes ∧ after.1.2.Due after.2.files rest ∧
    (chunk = [] → bytes = [] ∧ after.1.2.isTimedOut = true)

/-- Bytes that have come are handed out first. -/
theorem Due.takePending {size : Int} (hsize : 1 ≤ size) (hdue : session.Due w.files bytes)
    (hpending : session.child.pending ≠ []) :
    Serves bytes (Session.takePending size session w) := by
  have hchunk : session.child.pending.take size.toNat ≠ [] := by
    rw [Ne, List.take_eq_nil_iff]
    rintro (hzero | hnone)
    · omega
    · exact hpending hnone
  cases hdue with
  | waiting hopen htimer hlimit hdrained halone hstops houtput hfirst hreadable =>
    refine ⟨_, _, rfl, ?_, .waiting hopen htimer hlimit hdrained
      ⟨halone.killedBy, halone.hasEndedInOrder, halone.isAtEnd, halone.lost⟩ hstops houtput hfirst
      hreadable, fun h => absurd h hchunk⟩
    simp [Session.takePending, modifyChild, ← List.append_assoc]
  | ending hopen htimer htimed hlost hreadable =>
    refine ⟨_, _, rfl, ?_, .ending hopen htimer htimed
      (fun hsome hlast => absurd (hlost hsome hlast).1 hpending) hreadable, fun h => absurd h hchunk⟩
    simp [Session.takePending, modifyChild, Child.coming, ← List.append_assoc]

/-- Where the output was cut off or bytes have come, no step has to be taken. -/
theorem Due.readSteps_at_once {size : Int} (hsize : 1 ≤ size) (hdue : session.Due w.files bytes)
    (hnow : session.child.isCutOff = true ∨ session.child.pending ≠ []) (steps : List OutputStep) :
    Serves bytes (Session.readSteps size steps session w) := by
  by_cases hoff : session.child.isCutOff = true
  · have hread : Session.readSteps size steps session w = ((.ok [], session), w) := by
      cases steps <;> simp [Session.readSteps, hoff]
    rw [hread]
    exact ⟨[], bytes, rfl, rfl, hdue, fun _ => hdue.of_cutOff hoff⟩
  · have hpending := hnow.resolve_left hoff
    have hread : Session.readSteps size steps session w = Session.takePending size session w := by
      cases steps <;> simp [Session.readSteps, hoff, hpending]
    rw [hread]
    exact hdue.takePending hsize hpending

theorem Due.readSteps {size : Int} (hsize : 1 ≤ size) {steps : List OutputStep}
    (hdue : session.Due w.files bytes) (hsteps : session.child.steps = steps) :
    Serves bytes (Session.readSteps size steps session w) := by
  -- Each step that is taken leaves due what was due; the recursion ends where bytes have come.
  induction steps generalizing session w with
  | nil =>
    by_cases hnow : session.child.isCutOff = true ∨ session.child.pending ≠ []
    · exact hdue.readSteps_at_once hsize hnow []
    · obtain ⟨hon, hpending⟩ : session.child.isCutOff = false ∧ session.child.pending = [] := by
        simpa using hnow
      obtain ⟨hnone, htimed, hdue'⟩ := hdue.of_end hpending hsteps
      have hread : Session.readSteps size [] session w =
          ((.ok [], { session with child := { session.child with isAtEnd := true } }), w) := by
        simp [Session.readSteps, hon, hpending, modifyChild, Except.map]
      rw [hread]
      exact ⟨[], bytes, rfl, rfl, hdue', fun _ => ⟨hnone, htimed⟩⟩
  | cons step rest ih =>
    by_cases hnow : session.child.isCutOff = true ∨ session.child.pending ≠ []
    · exact hdue.readSteps_at_once hsize hnow _
    · obtain ⟨hon, hpending⟩ : session.child.isCutOff = false ∧ session.child.pending = [] := by
        simpa using hnow
      obtain ⟨taken, w₁, htake, hdue', hrest⟩ := hdue.takeStep hpending hon hsteps
      have hread : Session.readSteps size (step :: rest) session w =
          Session.readSteps size rest taken w₁ := by
        simp [Session.readSteps, hon, hpending, htake]
      rw [hread]
      exact ih hdue' hrest

theorem Due.withReader {files : FileSystem} (hdue : session.Due files bytes) (reader : Reader) :
    Due files { session with reader } bytes := by
  cases hdue with
  | waiting hopen htimer hlimit hdrained halone hstops hsteps hfirst hreadable =>
    exact .waiting hopen htimer hlimit hdrained halone hstops hsteps hfirst hreadable
  | ending hopen htimer htimed hlost hreadable => exact .ending hopen htimer htimed hlost hreadable

theorem Due.isOpen (hdue : session.Due w.files bytes) : session.child.isClosed = false := by
  cases hdue <;> assumption

/-- A reader to which something is due. -/
structure Awaits (session : Session) (files : FileSystem) (bytes : List UInt8) : Prop where
  reading : session.IsReading
  chunkSize : 1 ≤ session.chunkSize
  due : session.Due files bytes

/-- Asked for a chunk, a reader hands out the front of what is due to it, or comes to its end if that
is nothing. -/
theorem Awaits.next (h : session.Awaits w.files bytes) :
    (∃ chunk rest after w', Session.next session w = ((.ok (some chunk), after), w') ∧
        chunk ++ rest = bytes ∧ after.Awaits w'.files rest) ∨
      (bytes = [] ∧ ∃ last w', Session.next session w = ((.ok none, last), w') ∧
        last.isTimedOut = true) := by
  obtain ⟨result, read', w₁, hread, _, hcut⟩ := read_spec session.chunkSize session w
  have hserves : Serves bytes (read session.chunkSize session w) := by
    simpa [read, h.due.isOpen] using h.due.readSteps h.chunkSize rfl
  rw [hread] at hserves
  obtain ⟨chunk, rest, rfl, hbytes, hdue, hend⟩ := hserves
  have hstatus := hcut.position.exitStatus.trans h.reading.exitStatus
  by_cases hchunk : chunk = []
  · subst hchunk
    obtain ⟨hnone, htimed⟩ := hend rfl
    obtain ⟨w', hnext⟩ := next_of_end h.reading.reader hstatus hread
    exact .inr ⟨hnone, _, w', hnext, htimed⟩
  · obtain ⟨w', hrecords, hnext⟩ := next_of_chunk h.reading.reader hchunk hread
    refine .inl ⟨chunk, rest, _, w', hnext, hbytes, ⟨.inr rfl, hstatus⟩, ?_, ?_⟩
    · exact hcut.position.chunkSize ▸ h.chunkSize
    · rw [hrecords.files_eq]
      exact hdue.withReader .suspended

end Due

end Session

end ScanLauncher
