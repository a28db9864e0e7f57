import ScanLauncher.Proofs.Process.Reading

namespace ScanLauncher

namespace Child

private theorem poll_finish (child : Child) : child.finish.poll = some child.finalStatus := by
  have hended := child.isRunning_finish
  unfold finalStatus
  cases hpoll : child.finish.poll with
  | none => simp [isRunning, hpoll] at hended
  | some status => rfl

theorem lost_finish (child : Child) : child.finish.lost = child.lost := by
  unfold finish
  split <;> rfl

end Child

namespace Session

/-- The session after its child was waited for. -/
def waited (session : Session) : Session :=
  { session with
    child := session.child.finish
    exitStatus := some session.child.finalStatus
    timer := session.timer.cancel }

private theorem wait_settles {session : Session} (hdrained : session.isDrained = true)
    (hstatus : session.exitStatus = none) :
    wait.Settles session session.child.finalStatus session.waited := by
  refine (ActOn.settles_get session).bind ?_
  simp only [hdrained, hstatus, Bool.not_true, Bool.false_eq_true, if_false]
  exact (ActOn.settles_modify _ _).bind ((ActOn.settles_modify _ _).bind
    ((cancelTimer_settles _).bind ((log_settles _ _ _).bind (ActOn.settles_pure _ _))))

/-- A reader that can still hand something out, of a session whose exit status is not known yet. -/
structure IsReading (session : Session) : Prop where
  reader : session.IsActive
  exitStatus : session.exitStatus = none

/-- The session has been read to the end, and it is known how its child ended. -/
structure IsOver (session : Session) (status : Int) : Prop where
  isDrained : session.isDrained = true
  exitStatus : session.exitStatus = some status
  poll : session.child.poll = some status

/-- What asking for a chunk can come to. -/
inductive NextCase (session : Session) : Except Failure (Option (List UInt8)) → Session → Prop
  | chunk {chunk : List UInt8} {after : Session} (hchunk : chunk ≠ [])
      (hunread : chunk ++ after.child.unread = session.child.unread) (hreading : after.IsReading)
      (hdrained : after.isDrained = session.isDrained)
      (hsize : chunk.length ≤ session.chunkSize.toNat) :
      NextCase session (.ok (some chunk)) after
  | drained {status : Int} {after : Session} (hover : after.IsOver status)
      (hunread : after.child.unread = session.child.unread)
      (hend : 1 ≤ session.chunkSize → after.child.lost ≠ none ∨ after.child.unread = []) :
      NextCase session (.ok none) after
  | failed {failure : Failure} {after : Session} (hunread : after.child.unread = session.child.unread)
      (hdrained : after.isDrained = session.isDrained) (hstatus : after.exitStatus = none) :
      NextCase session (.error failure) after

section Next

variable {session read' : Session} {w w₁ : World}

/-- A reader that has read bytes hands them out and waits. -/
theorem next_of_chunk {chunk : List UInt8} (hactive : session.IsActive) (hchunk : chunk ≠ [])
    (hread : read session.chunkSize session w = ((.ok chunk, read'), w₁)) :
    ∃ w', w₁.RecordsOnly w' ∧
      next session w = ((.ok (some chunk), { read' with reader := .suspended }), w') := by
  obtain ⟨w', hlog, hrecords⟩ := log_settles .debug (fun session =>
    "Read " ++ Text.decimal chunk.length ++ " bytes from " ++ session.pidText) read' w₁
  have hreadChunk : readChunk session w = ((.ok (some chunk), read'), w') := by
    simp only [readChunk, ActOn.bind_apply, ActOn.get_apply, hread, List.isEmpty_iff, hchunk,
      if_false, hlog, ActOn.pure_apply]
  refine ⟨w', hrecords, ?_⟩
  rw [next_of_active hactive, handOut, ActOn.bind_apply, ActOn.onFailure_apply]
  simp [hreadChunk]

/-- A reader that has come to the end of the output waits for the child and closes the pipe. -/
theorem next_of_end (hactive : session.IsActive) (hstatus : read'.exitStatus = none)
    (hread : read session.chunkSize session w = ((.ok [], read'), w₁)) :
    ∃ w', next session w = ((.ok none,
      { ({ read' with isDrained := true } : Session).waited.streamClosed with reader := .finished }),
        w') := by
  let drained : Session := { read' with isDrained := true }
  have hdrained : drained.isDrained = true := rfl
  obtain ⟨w₂, hwait, _⟩ := wait_settles hdrained hstatus w₁
  obtain ⟨w', hfinish, _⟩ := finishReader_settles drained.waited w₂
  have hreadChunk : readChunk session w = ((.ok none, drained.waited), w₂) := by
    simp [readChunk, hread, hwait, drained]
    rfl
  refine ⟨w', ?_⟩
  rw [next_of_active hactive, handOut, ActOn.bind_apply, ActOn.onFailure_apply]
  simp [hreadChunk, hfinish, drained]

end Next

theorem next_cases {session : Session} (hreading : session.IsReading) (w : World) :
    ∃ result after w', next session w = ((result, after), w') ∧ session.NextCase result after := by
  obtain ⟨result, read', w₁, hread, _, hsame, hunread, hbounded, hcomplete⟩ :=
    read_spec session.chunkSize session w
  have hstatus : read'.exitStatus = none := hsame.exitStatus.trans hreading.exitStatus
  cases result with
  | error failure =>
    obtain ⟨w₂, hfinish, _⟩ := finishReader_settles read' w₁
    refine ⟨.error failure, { read'.streamClosed with reader := .finished }, w₂, ?_,
      .failed hunread hsame.isDrained hstatus⟩
    rw [next_of_active hreading.reader, handOut, ActOn.bind_apply, ActOn.onFailure_apply]
    simp [readChunk, hread, hfinish]
  | ok chunk =>
    by_cases hchunk : chunk = []
    · subst hchunk
      obtain ⟨w', hnext⟩ := next_of_end hreading.reader hstatus hread
      refine ⟨_, _, w', hnext, .drained ⟨rfl, rfl, read'.child.poll_finish⟩
        (read'.child.endsOnly_finish.unread_eq.trans hunread) fun hsize => ?_⟩
      rcases hcomplete rfl hsize with hlost | hnone
      · exact .inl fun h => hlost (read'.child.lost_finish.symm.trans h)
      · exact .inr (read'.child.endsOnly_finish.unread_eq.trans hnone)
    · obtain ⟨w', _, hnext⟩ := next_of_chunk hreading.reader hchunk hread
      exact ⟨_, _, w', hnext, .chunk hchunk hunread ⟨.inr rfl, hstatus⟩ hsame.isDrained
        (hbounded _ rfl)⟩

/-- The session hands out these chunks, one after the other, and then ends in this way. -/
inductive Produces : Session → World → List (List UInt8) → Except Failure Unit → Session → World →
    Prop
  | drained {session last : Session} {w w' : World}
      (hnext : next session w = ((.ok none, last), w')) : Produces session w [] (.ok ()) last w'
  | failed {session last : Session} {w w' : World} {failure : Failure}
      (hnext : next session w = ((.error failure, last), w')) :
      Produces session w [] (.error failure) last w'
  | chunk {session after last : Session} {w w' w'' : World} {chunk : List UInt8}
      {rest : List (List UInt8)} {result : Except Failure Unit}
      (hnext : next session w = ((.ok (some chunk), after), w'))
      (hrest : Produces after w' rest result last w'') :
      Produces session w (chunk :: rest) result last w''

theorem Produces.next_cases {session last : Session} {w w' : World} {chunks : List (List UInt8)}
    {result : Except Failure Unit} (h : session.Produces w chunks result last w') :
    (chunks = [] ∧ result = .ok () ∧ next session w = ((.ok none, last), w')) ∨
      (∃ failure, chunks = [] ∧ result = .error failure ∧
        next session w = ((.error failure, last), w')) ∨
      ∃ chunk rest after w₁, chunks = chunk :: rest ∧
        next session w = ((.ok (some chunk), after), w₁) ∧ after.Produces w₁ rest result last w' := by
  cases h with
  | drained hnext => exact .inl ⟨rfl, rfl, hnext⟩
  | failed hnext => exact .inr (.inl ⟨_, rfl, rfl, hnext⟩)
  | chunk hnext hrest => exact .inr (.inr ⟨_, _, _, _, rfl, hnext, hrest⟩)

/-- Every reader comes to an end, and at a normal end it is known how the child ended. -/
theorem exists_produces {session : Session} (hreading : session.IsReading) (w : World) :
    ∃ chunks result last w', session.Produces w chunks result last w' ∧
      (result = .ok () → ∃ status, last.IsOver status) := by
  -- A chunk is never empty, so that each one leaves fewer bytes unread.
  generalize hsize : session.child.unread.length = size
  induction size using Nat.strongRecOn generalizing session w with
  | ind size ih =>
    obtain ⟨result, after, w', hnext, hcase⟩ := next_cases hreading w
    cases hcase with
    | failed => exact ⟨[], _, after, w', .failed hnext, nofun⟩
    | drained hover => exact ⟨[], _, after, w', .drained hnext, fun _ => ⟨_, hover⟩⟩
    | chunk hchunk hunread hreading' =>
      have hless : after.child.unread.length < size := by
        have hpos := List.length_pos_iff.mpr hchunk
        rw [← hsize, ← hunread, List.length_append]
        omega
      obtain ⟨rest, result, last, w'', hrest, hover⟩ := ih _ hless hreading' w' rfl
      exact ⟨_ :: rest, result, last, w'', .chunk hnext hrest, hover⟩

end Session

end ScanLauncher
