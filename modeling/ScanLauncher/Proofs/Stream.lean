import ScanLauncher.Proofs.Action
import ScanLauncher.Stream

namespace ScanLauncher

variable {σ : Type} {next : ActOn σ (Option (List UInt8))} {p p' p'' : σ} {w w' w'' : World}
  {chunks : List (List UInt8)}

/-- A producer that is asked again and again hands out some chunks. -/
inductive Hands (next : ActOn σ (Option (List UInt8))) :
    σ → World → List (List UInt8) → σ → World → Prop
  | nil (p : σ) (w : World) : Hands next p w [] p w
  | cons {p p' p'' : σ} {w w' w'' : World} {chunk : List UInt8} {rest : List (List UInt8)}
      (hnext : next p w = ((.ok (some chunk), p'), w')) (hrest : Hands next p' w' rest p'' w'') :
      Hands next p w (chunk :: rest) p'' w''

/-- What a producer hands out may be cut anywhere: the rest comes from the producer as it is then. -/
theorem Hands.split {before behind : List (List UInt8)}
    (h : Hands next p w (before ++ behind) p'' w'') :
    ∃ p' w', Hands next p w before p' w' ∧ Hands next p' w' behind p'' w'' := by
  induction before generalizing p w with
  | nil => exact ⟨p, w, .nil p w, h⟩
  | cons chunk before ih =>
    cases h with
    | cons hnext hrest =>
      obtain ⟨p', w', hbefore, hbehind⟩ := ih hrest
      exact ⟨p', w', .cons hnext hbefore, hbehind⟩

/-- What was handed out last came of one more call. -/
theorem Hands.split_last {chunk : List UInt8} (h : Hands next p w (chunks ++ [chunk]) p'' w'') :
    ∃ p' w', Hands next p w chunks p' w' ∧ next p' w' = ((.ok (some chunk), p''), w'') := by
  obtain ⟨p', w', hbefore, hlast⟩ := h.split
  cases hlast with
  | cons hnext hrest =>
    cases hrest
    exact ⟨p', w', hbefore, hnext⟩

namespace Sink

/-- The sink after some chunks have passed: each was asked for, written and flushed before the next
one was asked for. -/
def received (sink : Sink) (chunks : List (List UInt8)) : Sink :=
  { sink with events := sink.events ++ chunks.flatMap fun chunk => [.asked, .wrote chunk, .flushed] }

/-- The sink when the producer has been asked once more. -/
def askedOnce (sink : Sink) : Sink := { sink with events := sink.events ++ [.asked] }

private theorem received_nil (sink : Sink) : sink.received [] = sink := by simp [received]

private theorem received_cons (sink : Sink) (chunk : List UInt8) (rest : List (List UInt8)) :
    sink.received (chunk :: rest) = (sink.received [chunk]).received rest := by simp [received]

private theorem written_received (sink : Sink) (chunks : List (List UInt8)) :
    (sink.received chunks).written = sink.written ++ chunks.flatten := by
  induction chunks generalizing sink with
  | nil => simp [received_nil]
  | cons chunk rest ih =>
    rw [received_cons, ih]
    simp [received, written]

private theorem written_askedOnce (sink : Sink) : sink.askedOnce.written = sink.written := by
  simp [askedOnce, written]

theorem written_received_askedOnce (chunks : List (List UInt8)) :
    (({} : Sink).received chunks).askedOnce.written = chunks.flatten := by
  rw [written_askedOnce, written_received]
  rfl

/-- No write and no flush fails. -/
def NeverFails (sink : Sink) : Prop := sink.writesLeft = none ∧ sink.flushesLeft = none

/-- The next `n` chunks can be written and flushed. -/
def Endures (sink : Sink) (n : Nat) : Prop :=
  (∀ m, sink.writesLeft = some m → n ≤ m) ∧ ∀ m, sink.flushesLeft = some m → n ≤ m

/-- The first `k` chunks pass, and then a write or a flush fails. -/
def FailsAt (sink : Sink) (k : Nat) : Prop :=
  sink.Endures k ∧ (sink.writesLeft = some k ∨ sink.flushesLeft = some k)

/-- The sink after some chunks have passed, which count against what it can take. -/
def passed (sink : Sink) (chunks : List (List UInt8)) : Sink :=
  { sink.received chunks with
    writesLeft := sink.writesLeft.map (· - chunks.length)
    flushesLeft := sink.flushesLeft.map (· - chunks.length) }

/-- The sink when it fails at a chunk: it was not written or, if it was, not flushed. -/
def stuckAt (sink : Sink) (chunk : List UInt8) : Sink :=
  if sink.writesLeft = some 0 then sink.askedOnce
  else
    { sink with
      events := sink.events ++ [.asked, .wrote chunk]
      writesLeft := sink.writesLeft.map (· - 1) }

theorem NeverFails.endures {sink : Sink} (h : sink.NeverFails) (n : Nat) : sink.Endures n := by
  simp [Endures, h.1, h.2]

theorem NeverFails.passed_eq {sink : Sink} (h : sink.NeverFails) (chunks : List (List UInt8)) :
    sink.passed chunks = sink.received chunks := by
  simp [passed, received, h.1, h.2]

private theorem passed_nil (sink : Sink) : sink.passed [] = sink := by
  simp [passed, received]

private theorem passed_cons (sink : Sink) (chunk : List UInt8) (rest : List (List UInt8)) :
    sink.passed (chunk :: rest) = (sink.passed [chunk]).passed rest := by
  have hleft (left : Option Nat) : left.map (· - (rest.length + 1)) =
      (left.map (· - 1)).map (· - rest.length) := by
    cases left with
    | none => rfl
    | some m => simp [Nat.sub_sub, Nat.add_comm]
  simp [passed, received, hleft]

theorem Endures.passed {sink : Sink} {n : Nat} (h : sink.Endures (n + 1)) (chunk : List UInt8) :
    (sink.passed [chunk]).Endures n := by
  constructor
  · intro m hm
    obtain ⟨left, hleft, rfl⟩ := Option.map_eq_some_iff.mp hm
    have hbound := h.1 left hleft
    simp only [List.length_singleton]
    omega
  · intro m hm
    obtain ⟨left, hleft, rfl⟩ := Option.map_eq_some_iff.mp hm
    have hbound := h.2 left hleft
    simp only [List.length_singleton]
    omega

/-- What is left when some chunks have passed. -/
theorem FailsAt.passed {sink : Sink} {chunks : List (List UInt8)} {k : Nat}
    (h : sink.FailsAt (k + chunks.length)) : (sink.passed chunks).FailsAt k := by
  obtain ⟨⟨hwrites, hflushes⟩, hend⟩ := h
  have hbound {left : Option Nat} (hleft : ∀ m, left = some m → k + chunks.length ≤ m) (m : Nat)
      (hm : left.map (· - chunks.length) = some m) : k ≤ m := by
    obtain ⟨before, hbefore, rfl⟩ := Option.map_eq_some_iff.mp hm
    have hle := hleft before hbefore
    omega
  refine ⟨⟨hbound hwrites, hbound hflushes⟩, ?_⟩
  rcases hend with hend | hend
  · exact .inl (by simp [Sink.passed, hend])
  · exact .inr (by simp [Sink.passed, hend])

end Sink

namespace Forwarding

variable {sink : Sink}

private theorem forwardUpTo_succ (hroom : sink.Endures 1) {chunk : List UInt8}
    (hnext : next p w = ((.ok (some chunk), p'), w')) (fuel total : Nat) :
    forwardUpTo next (fuel + 1) total ⟨p, sink⟩ w =
      forwardUpTo next fuel (total + chunk.length) ⟨p', sink.passed [chunk]⟩ w' := by
  have hwrites : sink.writesLeft ≠ some 0 := fun h => absurd (hroom.1 0 h) (by decide)
  have hflushes : sink.flushesLeft ≠ some 0 := fun h => absurd (hroom.2 0 h) (by decide)
  simp [forwardUpTo, onSink, onProducer, Sink.record, Sink.write, Sink.flush, Sink.passed,
    Sink.received, hnext, hwrites, hflushes]

private theorem forwardUpTo_stuck (hfails : sink.FailsAt 0) {chunk : List UInt8}
    (hnext : next p w = ((.ok (some chunk), p'), w')) (fuel total : Nat) :
    forwardUpTo next (fuel + 1) total ⟨p, sink⟩ w =
      ((.error sink.failure, ⟨p', sink.stuckAt chunk⟩), w') := by
  by_cases hwrites : sink.writesLeft = some 0
  · simp [forwardUpTo, onSink, onProducer, Sink.record, Sink.write, Sink.stuckAt, Sink.askedOnce,
      hnext, hwrites]
  · have hflushes : sink.flushesLeft = some 0 := hfails.2.resolve_left hwrites
    simp [forwardUpTo, onSink, onProducer, Sink.record, Sink.write, Sink.flush, Sink.stuckAt, hnext,
      hwrites, hflushes]

/-- After so many chunks a forwarding goes on as from a sink that they have passed. -/
theorem forwardUpTo_passed (h : Hands next p w chunks p' w') (hroom : sink.Endures chunks.length)
    (fuel total : Nat) :
    forwardUpTo next (fuel + chunks.length) total ⟨p, sink⟩ w =
      forwardUpTo next fuel (total + chunks.flatten.length) ⟨p', sink.passed chunks⟩ w' := by
  induction h generalizing sink total with
  | nil => simp [Sink.passed_nil]
  | @cons _ _ _ _ _ _ chunk rest hnext _ ih =>
    have hfirst : sink.Endures 1 := by
      constructor
      · exact fun m hm => Nat.le_trans (by simp) (hroom.1 m hm)
      · exact fun m hm => Nat.le_trans (by simp) (hroom.2 m hm)
    have hround := forwardUpTo_succ hfirst hnext (fuel + rest.length) total
    have hrest := ih (Sink.Endures.passed hroom chunk) (total + chunk.length)
    rw [List.length_cons, ← Nat.add_assoc, hround, hrest, ← Sink.passed_cons, List.flatten_cons,
      List.length_append, Nat.add_assoc]

/-- A forwarding whose sink fails at a chunk stops there: what the producer handed out before has
passed, and the producer is left as it was when it had handed out the chunk. -/
theorem forward_stuck (h : Hands next p w chunks p' w') {chunk : List UInt8}
    (hnext : next p' w' = ((.ok (some chunk), p''), w'')) (hfails : sink.FailsAt chunks.length)
    {bound : Nat} (hbound : chunks.length < bound) :
    forward next bound ⟨p, sink⟩ w =
      ((.error sink.failure, ⟨p'', (sink.passed chunks).stuckAt chunk⟩), w'') := by
  obtain ⟨fuel, rfl⟩ : ∃ fuel, bound = (fuel + 1) + chunks.length :=
    ⟨bound - chunks.length - 1, by omega⟩
  have hlast : (sink.passed chunks).FailsAt 0 := Sink.FailsAt.passed (by rwa [Nat.zero_add])
  have hloop := forwardUpTo_passed h hfails.1 (fuel + 1) 0
  rw [forwardUpTo_stuck hlast hnext] at hloop
  simp only [forward, ActOn.bind_apply, hloop]
  rfl

/-- The loop over a producer that comes to its end when the sink has taken all chunks: the end
decides what it gives. -/
theorem forwardUpTo_ended (ending : Except Failure Unit) (h : Hands next p w chunks p' w')
    (hend : next p' w' = ((ending.map fun _ => none, p''), w''))
    (hroom : sink.Endures chunks.length) (fuel : Nat) :
    forwardUpTo next (fuel + 1 + chunks.length) 0 ⟨p, sink⟩ w =
      ((ending.map fun _ => chunks.flatten.length, ⟨p'', (sink.passed chunks).askedOnce⟩),
        w'') := by
  rw [forwardUpTo_passed h hroom]
  cases ending with
  | ok _ => simp [forwardUpTo, onSink, onProducer, Sink.record, Sink.askedOnce, hend, Except.map]
  | error _ => simp [forwardUpTo, onSink, onProducer, Sink.record, Sink.askedOnce, hend, Except.map]

/-- What a forwarding leaves in the log once all chunks are through. -/
def counted (w : World) (total : Nat) : World :=
  w.note .debug .stream ("Forwarded " ++ Text.decimal total ++ " bytes")

/-- A producer with nothing left is forwarded as a whole, if the sink takes all chunks. -/
theorem forward_of_end (h : Hands next p w chunks p' w')
    (hend : next p' w' = ((.ok none, p''), w'')) (hroom : sink.Endures chunks.length) {bound : Nat}
    (hbound : chunks.length < bound) :
    forward next bound ⟨p, sink⟩ w =
      ((.ok chunks.flatten.length, ⟨p'', (sink.passed chunks).askedOnce⟩),
        counted w'' chunks.flatten.length) := by
  obtain ⟨fuel, rfl⟩ : ∃ fuel, bound = (fuel + 1) + chunks.length :=
    ⟨bound - chunks.length - 1, by omega⟩
  have hloop := forwardUpTo_ended (.ok ()) h hend hroom fuel
  simp only [forward, ActOn.bind_apply, hloop]
  rfl

/-- A producer that fails fails its forwarding, which has passed on all chunks, if the sink takes
them. -/
theorem forward_of_raise (h : Hands next p w chunks p' w') {failure : Failure}
    (hend : next p' w' = ((.error failure, p''), w'')) (hroom : sink.Endures chunks.length)
    {bound : Nat} (hbound : chunks.length < bound) :
    forward next bound ⟨p, sink⟩ w =
      ((.error failure, ⟨p'', (sink.passed chunks).askedOnce⟩), w'') := by
  obtain ⟨fuel, rfl⟩ : ∃ fuel, bound = (fuel + 1) + chunks.length :=
    ⟨bound - chunks.length - 1, by omega⟩
  have hloop := forwardUpTo_ended (.error failure) h hend hroom fuel
  simp only [forward, ActOn.bind_apply, hloop]
  rfl

variable (hopen : sink.NeverFails)

include hopen

/-- A producer that comes to its end within the bound is forwarded as a whole. -/
theorem forward_of_hands (h : Hands next p w chunks p' w')
    (hend : next p' w' = ((.ok none, p''), w'')) {bound : Nat} (hbound : chunks.length < bound) :
    ∃ message, forward next bound ⟨p, sink⟩ w =
      ((.ok chunks.flatten.length, ⟨p'', (sink.received chunks).askedOnce⟩),
        w''.note .debug .stream message) := by
  rw [forward_of_end h hend (hopen.endures chunks.length) hbound, hopen.passed_eq]
  exact ⟨_, rfl⟩

/-- A producer that fails within the bound fails its forwarding, which has passed on all chunks. -/
theorem forward_of_failure (h : Hands next p w chunks p' w') {failure : Failure}
    (hend : next p' w' = ((.error failure, p''), w'')) {bound : Nat} (hbound : chunks.length < bound) :
    forward next bound ⟨p, sink⟩ w =
      ((.error failure, ⟨p'', (sink.received chunks).askedOnce⟩), w'') := by
  rw [forward_of_raise h hend (hopen.endures chunks.length) hbound, hopen.passed_eq]

end Forwarding

end ScanLauncher
