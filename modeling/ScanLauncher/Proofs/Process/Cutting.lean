import ScanLauncher.Proofs.Process.LifeCycle

namespace ScanLauncher

/-- All that a child writes. -/
def ProcessSpec.bytes (spec : ProcessSpec) : List UInt8 := spec.output.flatMap OutputStep.bytes

namespace Session

instance (session : Session) : Decidable session.IsActive :=
  inferInstanceAs (Decidable (session.reader = .fresh ∨ session.reader = .suspended))

/-- The chunk that was handed out, if one was. -/
def Moment.chunk? (moment : Moment) : Option (List UInt8) :=
  match moment.answer with
  | .ok (.chunk bytes) => some bytes
  | _ => none

/-- Whether a reader was asked for a chunk. -/
def Moment.asks (moment : Moment) : Bool := moment.call == .next && decide moment.session.IsActive

/-- Whether the reader has come to its end, as a number. -/
def ended (session : Session) : Nat := if session.reader = .finished then 1 else 0

/-- One call leaves of the unread bytes what it does not hand out. A reader that is asked hands
something out or comes to its end. -/
structure Moment.Cuts (moment : Moment) (after : Session) : Prop where
  verbatim : moment.chunk?.getD [] ++ after.child.unread = moment.session.child.unread
  bounded : ∀ chunk, moment.chunk? = some chunk →
    1 ≤ chunk.length ∧ chunk.length ≤ moment.session.chunkSize.toNat
  asks : moment.asks.toNat + moment.session.ended ≤ moment.chunk?.toList.length + after.ended

private theorem CallCase.cuts {session after : Session} {call : Call} {answer : Except Failure Answer}
    (hcase : session.CallCase call answer after) (events : List TraceEvent) :
    Moment.Cuts ⟨session, call, answer, events⟩ after := by
  cases hcase with
  | aside hcall hanswer hreader hsame =>
    have hnone : Moment.chunk? ⟨session, call, answer, events⟩ = none := by
      unfold Moment.chunk?
      split
      · exact absurd ‹_› (hanswer _)
      · rfl
    have hasks : Moment.asks ⟨session, call, answer, events⟩ = false := by
      simpa [Moment.asks] using hcall
    refine ⟨by rw [hnone]; exact hsame.unread, by simp [hnone], ?_⟩
    rw [hasks, hnone]
    unfold ended
    rw [hreader]
    cases call <;> cases session.reader <;> simp [Call.moves]
  | @asked result _ hreading hreader hcase =>
    have hopen : session.ended = 0 := by
      rcases hreading.reader with hactive | hactive <;> simp [ended, hactive]
    have hasks := Bool.toNat_le (Moment.asks ⟨session, .next, result.map .ofChunk, events⟩)
    cases hcase with
    | chunk hchunk hunread _ _ hsize =>
      refine ⟨hunread, ?_, ?_⟩
      · intro chunk hsome
        obtain rfl := Option.some.inj hsome
        exact ⟨List.length_pos_iff.mpr hchunk, hsize⟩
      · rw [hopen]
        exact Nat.le_add_right_of_le hasks
    | drained hover hunread =>
      refine ⟨hunread, fun chunk hsome => (by cases hsome), ?_⟩
      rw [hopen, ended, hreader]
      exact Nat.le_add_left_of_le hasks
    | failed hunread =>
      refine ⟨hunread, fun chunk hsome => (by cases hsome), ?_⟩
      rw [hopen, ended, hreader]
      exact Nat.le_add_left_of_le hasks

namespace History

def chunks (history : History) : List (List UInt8) := history.moments.filterMap Moment.chunk?

/-- How often a reader was asked for a chunk. -/
def asks (history : History) : Nat := history.moments.countP Moment.asks

/-- The last call came to the end of the output, and no signal had reached the child by then. -/
structure EndsUndisturbed (history : History) (spec : ProcessSpec) : Prop where
  ends : ∃ moment, history.moments.getLast? = some moment ∧ moment.Drains
  undisturbed : ∀ moment ∈ history.moments, ∀ event ∈ moment.events, event.reaches spec = false

/-- Chunks and unread bytes make up the output; no chunk is empty or too long; and every time a
reader was asked there was a chunk, but for the last one at most. -/
structure IsCutOf (history : History) (output : List UInt8) (size : Int) : Prop where
  orderly : history.session.IsOrderly
  chunkSize : history.session.chunkSize = size
  verbatim : history.chunks.flatten ++ history.session.child.unread = output
  bounded : ∀ chunk ∈ history.chunks, 1 ≤ chunk.length ∧ chunk.length ≤ size.toNat
  asks : history.asks ≤ history.chunks.length + history.session.ended

theorem IsCutOf.make {history : History} {output : List UInt8} {size : Int}
    (hcut : history.IsCutOf output size) (call : Call) :
    (history.make call).IsCutOf output size := by
  obtain ⟨horderly, hsize, hverbatim, hbounded, hasks⟩ := hcut
  obtain ⟨answer, after, w', hperform, hcase⟩ := call.perform_cases horderly history.world
  have horderly' := horderly.perform call history.world
  have heffects := call.effects_perform history.session history.world .refl
  rw [hperform] at horderly' heffects
  rw [make_eq hperform]
  generalize hmoment : Moment.mk history.session call answer
    (w'.trace.drop history.world.trace.length) = moment
  obtain ⟨hverbatim', hbounded', hasks'⟩ : moment.Cuts after := hmoment ▸ hcase.cuts _
  have hbefore : moment.session = history.session := hmoment ▸ rfl
  rw [hbefore] at hverbatim' hbounded' hasks'
  have hchunks : (⟨after, w', history.moments ++ [moment]⟩ : History).chunks =
      history.chunks ++ moment.chunk?.toList := by
    cases hchunk : moment.chunk? <;> simp [chunks, hchunk]
  have hcount : (⟨after, w', history.moments ++ [moment]⟩ : History).asks =
      history.asks + moment.asks.toNat := by
    cases hask : moment.asks <;> simp [History.asks, hask]
  refine ⟨horderly', heffects.chunkSize_eq.trans hsize, ?_, ?_, ?_⟩
  · have hflat : moment.chunk?.toList.flatten = moment.chunk?.getD [] := by
      cases moment.chunk? <;> simp
    rw [hchunks, List.flatten_append, List.append_assoc, hflat, hverbatim', hverbatim]
  · intro chunk hchunk
    rw [hchunks] at hchunk
    rcases List.mem_append.mp hchunk with hold | hnew
    · exact hbounded chunk hold
    · rw [← hsize]
      exact hbounded' chunk (Option.mem_toList.mp hnew)
  · simp only [hchunks, hcount, List.length_append]
    omega

theorem isCutOf_makeAll {session : Session} {chunkSize : Int} (hnew : session.IsNew chunkSize)
    (w : World) (calls : List Call) :
    ((session.unused w).makeAll calls).IsCutOf session.child.spec.bytes chunkSize := by
  refine makeAll_induction (motive := fun _ history =>
    history.IsCutOf session.child.spec.bytes chunkSize) ?_ (fun _ _ call hcut => hcut.make call) calls
  obtain ⟨pid, spec, hchild⟩ := hnew.child
  refine ⟨.inl ⟨hnew.isDrained, hnew.exitStatus⟩, hnew.chunkSize_eq, ?_, nofun, Nat.zero_le _⟩
  simp [unused, chunks, hchild, Child.unread, Child.start, ProcessSpec.bytes]

private theorem length_le_length_flatten {chunks : List (List UInt8)}
    (hchunks : ∀ chunk ∈ chunks, 1 ≤ chunk.length) : chunks.length ≤ chunks.flatten.length := by
  induction chunks with
  | nil => exact Nat.le_refl 0
  | cons chunk rest ih =>
    have hfirst := hchunks chunk (.head rest)
    have hrest := ih fun chunk hchunk => hchunks chunk (.tail _ hchunk)
    simp only [List.length_cons, List.flatten_cons, List.length_append]
    omega

private theorem IsCutOf.asks_le {history : History} {output : List UInt8} {size : Int}
    (hcut : history.IsCutOf output size) : history.asks ≤ output.length + 1 := by
  have hcount := hcut.asks
  have hended : history.session.ended ≤ 1 := by
    unfold ended
    split <;> omega
  have hchunks := length_le_length_flatten fun chunk hchunk => (hcut.bounded chunk hchunk).1
  have houtput : history.chunks.flatten.length ≤ output.length := by
    rw [← hcut.verbatim, List.length_append]
    exact Nat.le_add_right _ _
  omega

private theorem trace_makeAll (session : Session) (w : World) (calls : List Call) :
    ((session.unused w).makeAll calls).world.trace =
      w.trace ++ ((session.unused w).makeAll calls).moments.flatMap Moment.events := by
  refine makeAll_induction (motive := fun _ history =>
    history.world.trace = w.trace ++ history.moments.flatMap Moment.events) ?_ ?_ calls
  · simp [unused]
  · intro _ history call htrace
    obtain ⟨events, hevents, _⟩ := (call.effects_perform history.session history.world .refl).shown
    rcases hperform : call.perform history.session history.world with ⟨⟨answer, after⟩, w'⟩
    have hevents : w'.trace = history.world.trace ++ events := by rw [hperform] at hevents; exact hevents
    rw [make_eq hperform]
    simp only [List.flatMap_append, List.flatMap_singleton, hevents, List.drop_left]
    rw [htrace, List.append_assoc]

private theorem chunks_prefix_makeAll (history : History) (calls : List Call) :
    history.chunks <+: (history.makeAll calls).chunks := by
  refine makeAll_induction (motive := fun _ later => history.chunks <+: later.chunks)
    List.prefix_rfl ?_ calls
  intro _ later call hprefix
  rcases hperform : call.perform later.session later.world with ⟨⟨answer, after⟩, w'⟩
  have hmake : later.moments <+: (later.make call).moments := by
    rw [make_eq hperform]
    exact List.prefix_append _ _
  exact hprefix.trans (hmake.filterMap Moment.chunk?)

private theorem sameFate_of_undisturbed {session : Session} {w : World} {calls : List Call}
    (hquiet : ∀ moment ∈ ((session.unused w).makeAll calls).moments, ∀ event ∈ moment.events,
      event.reaches session.child.spec = false) :
    session.child.SameFate ((session.unused w).makeAll calls).session.child := by
  obtain ⟨events, hevents, _, hfate⟩ := ((session.unused w).effects_makeAll calls).shown
  have hseen := trace_makeAll session w calls
  obtain rfl := List.append_cancel_left (hevents.symm.trans hseen)
  refine hfate fun event hevent => ?_
  obtain ⟨moment, hmoment, hevent⟩ := List.mem_flatMap.mp hevent
  exact hquiet moment hmoment event hevent

/-- Where the last call came to the end of the output, the exit is known; and either the pipe has lost
its writers or all of the output was handed out. -/
theorem settled_of_ends {session : Session} {chunkSize : Int} (hnew : session.IsNew chunkSize)
    {w : World} {calls : List Call} {moment : Moment}
    (hlast : ((session.unused w).makeAll calls).moments.getLast? = some moment)
    (hdrains : moment.Drains) :
    ∃ status, ((session.unused w).makeAll calls).session.IsSettled status ∧
      (1 ≤ chunkSize → ((session.unused w).makeAll calls).session.child.lost ≠ none ∨
        ((session.unused w).makeAll calls).session.child.unread = []) := by
  rcases List.eq_nil_or_concat calls with rfl | ⟨before, call, rfl⟩
  · cases hlast
  obtain ⟨horderly, hchunkSize, _⟩ := isCutOf_makeAll hnew w before
  obtain ⟨answer, after, w', hperform, hcase⟩ :=
    call.perform_cases horderly ((session.unused w).makeAll before).world
  rw [List.concat_eq_append, makeAll_concat, make_eq hperform] at hlast ⊢
  obtain rfl : _ = moment := by simpa using hlast
  obtain ⟨hnext, hactive, hexhausted⟩ := hdrains
  cases hcase with
  | aside hcall => exact absurd hactive (hcall hnext)
  | asked _ hreader hcase =>
    cases hcase with
    | chunk | failed => cases hexhausted
    | drained hover _ hleft =>
      rw [hchunkSize] at hleft
      exact ⟨_, ⟨hover, hreader⟩, hleft⟩

/-- If a child was read to its end and no signal had reached it, then all of its output was handed out
and it has exited in its own way. -/
theorem complete_of_undisturbed {session : Session} {chunkSize : Int} (hnew : session.IsNew chunkSize)
    (hsize : 1 ≤ chunkSize) {w : World} {calls : List Call}
    (hend : ((session.unused w).makeAll calls).EndsUndisturbed session.child.spec) :
    ((session.unused w).makeAll calls).chunks.flatten = session.child.spec.bytes ∧
      ((session.unused w).makeAll calls).session.IsSettled session.child.spec.exit := by
  obtain ⟨⟨moment, hlast, hdrains⟩, hquiet⟩ := hend
  obtain ⟨status, hsettled, hleft⟩ := settled_of_ends hnew hlast hdrains
  have hfate := sameFate_of_undisturbed hquiet
  have hspec := ((session.unused w).effects_makeAll calls).spec_eq
  have hverbatim := (isCutOf_makeAll hnew w calls).verbatim
  obtain ⟨pid, spec, hchild⟩ := hnew.child
  have halive : ((session.unused w).makeAll calls).session.child.lost = none := by
    rw [hfate.lost, hchild]
    rfl
  have hunread : ((session.unused w).makeAll calls).session.child.unread = [] := by
    simpa [halive] using hleft hsize
  have hkilled : ((session.unused w).makeAll calls).session.child.killedBy = none := by
    rw [hfate.killedBy, hchild]
    rfl
  have hexit : status = session.child.spec.exit := by
    have hpoll := hsettled.poll
    rw [Child.poll, hkilled, hspec] at hpoll
    simp only at hpoll
    split at hpoll
    · exact (Option.some.inj hpoll).symm
    · cases hpoll
  rw [hunread, List.append_nil] at hverbatim
  exact ⟨hverbatim, hexit ▸ hsettled⟩

end History

/-- The chunks of a session are a cut of its child's output, whatever is called in between. No chunk
is empty or longer than the size of chunks; together they are the beginning of the output, in its
order; a reader is asked at most once more than the output has bytes; and if it comes to its end and no
signal has reached the child by then, the chunks are all of the output and the exit status is the
child's own. -/
theorem chunks_cut_output {command : List Value} {workingDir : Text} {chunkSize : Int}
    {timeout : Option Seconds} {session : Session} {w w₀ : World}
    (hlaunch : launch command workingDir chunkSize timeout w = (.ok session, w₀))
    (hsize : 1 ≤ chunkSize) (calls : List Call) :
    let history := (session.unused w₀).makeAll calls
    (∀ chunk ∈ history.chunks, 1 ≤ chunk.length ∧ (chunk.length : Int) ≤ chunkSize) ∧
    history.chunks.flatten <+: session.child.spec.bytes ∧
    history.asks ≤ session.child.spec.bytes.length + 1 ∧
    (history.EndsUndisturbed session.child.spec → ∀ more,
      (history.makeAll more).chunks.flatten = session.child.spec.bytes ∧
      (history.makeAll more).session.exitStatus = some session.child.spec.exit) := by
  intro history
  have hnew := isNew_of_launch hlaunch
  have hcut := History.isCutOf_makeAll hnew w₀ calls
  have hprefix (calls : List Call) :
      ((session.unused w₀).makeAll calls).chunks.flatten <+: session.child.spec.bytes :=
    ⟨_, (History.isCutOf_makeAll hnew w₀ calls).verbatim⟩
  refine ⟨fun chunk hchunk => ?_, hprefix calls, hcut.asks_le, fun hend more => ?_⟩
  · obtain ⟨hpos, hlong⟩ := hcut.bounded chunk hchunk
    omega
  · obtain ⟨hall, hsettled⟩ := History.complete_of_undisturbed hnew hsize hend
    refine ⟨?_, (History.isSettled_makeAll hsettled more).exitStatus⟩
    -- More chunks would be more than the output.
    have hmore := hprefix (calls ++ more)
    rw [History.makeAll_append] at hmore
    have hless : history.chunks.flatten <+: (history.makeAll more).chunks.flatten := by
      obtain ⟨rest, hrest⟩ := history.chunks_prefix_makeAll more
      rw [← hrest, List.flatten_append]
      exact List.prefix_append _ _
    rw [hall] at hless
    exact (hmore.eq_of_length_le hless.length_le)

/-- A script that says five bytes, with a pause, and fails. -/
def wordyWorld : World where
  files := { tree := ⟨[]⟩, cwd := [] }
  specs := [{ output := [.data [0x68, 0x65, 0x6c], .hang, .data [0x6c, 0x6f]], exit := 3 }]

theorem chunks_cut_output_wordyWorld :
    ∃ session w₀, launch [.text "scan"] "/" 2 none wordyWorld = (.ok session, w₀) ∧
      ((session.unused w₀).makeAll [.openReader, .next, .next, .next, .next]).EndsUndisturbed
        session.child.spec ∧
      ∀ more, (((session.unused w₀).makeAll [.openReader, .next, .next, .next, .next]).makeAll
        more).chunks.flatten = [0x68, 0x65, 0x6c, 0x6c, 0x6f] := by
  obtain ⟨session, w₀, hlaunch, hend, hbytes⟩ : ∃ session w₀,
      launch [.text "scan"] "/" 2 none wordyWorld = (.ok session, w₀) ∧
      ((session.unused w₀).makeAll [.openReader, .next, .next, .next, .next]).EndsUndisturbed
        session.child.spec ∧
      session.child.spec.bytes = [0x68, 0x65, 0x6c, 0x6c, 0x6f] :=
    ⟨_, _, rfl, ⟨⟨_, rfl, rfl, .inr rfl, rfl⟩, by decide +kernel⟩, rfl⟩
  refine ⟨session, w₀, hlaunch, hend, fun more => ?_⟩
  rw [← hbytes]
  exact ((chunks_cut_output hlaunch (by decide) _).2.2.2 hend more).1

end Session

end ScanLauncher
