import Mathlib
import ScanLauncher.Proofs.Stream

namespace ScanLauncher

variable {σ : Type} {next : ActOn σ (Option (List UInt8))} {p p' : σ} {w w' : World}
  {chunks : List (List UInt8)} {ending : Except Failure Unit} {sink : Sink}

/-- A producer hands out some chunks and comes to its end, with nothing left or with a failure. -/
def ComesToEnd (next : ActOn σ (Option (List UInt8))) (p : σ) (w : World)
    (chunks : List (List UInt8)) (ending : Except Failure Unit) (p' : σ) (w' : World) : Prop :=
  ∃ q v, Hands next p w chunks q v ∧ next q v = ((ending.map fun _ => none, p'), w')

namespace SinkEvent

/-- Whether an event is a call of the sink. -/
def isCall : SinkEvent → Bool
  | asked => false
  | wrote _ | flushed => true

/-- How many calls had been made each time that the producer was asked, if there were `made` before
all events. -/
def callsAtAsks : (made : Nat) → List SinkEvent → List Nat
  | _, [] => []
  | made, asked :: events => made :: callsAtAsks made events
  | made, _ :: events => callsAtAsks (made + 1) events

/-- The rounds of some chunks: each is asked for, written and flushed. -/
def rounds (chunks : List (List UInt8)) : List SinkEvent :=
  chunks.flatMap fun chunk => [asked, wrote chunk, flushed]

/-- The events in which some chunks pass, and nothing else: each is written and flushed, in order,
and the producer is asked once before each of them and once after the last. It is asked for the chunk
behind the first `i` when exactly `2 * i` calls have been made. -/
structure Pass (chunks : List (List UInt8)) (events : List SinkEvent) : Prop where
  calls : events.filter isCall = chunks.flatMap fun chunk => [wrote chunk, flushed]
  asks : callsAtAsks 0 events = (List.range (chunks.length + 1)).map (2 * ·)

private theorem callsAtAsks_rounds (made : Nat) (chunks : List (List UInt8)) :
    callsAtAsks made (rounds chunks ++ [asked]) =
      (List.range (chunks.length + 1)).map (made + 2 * ·) := by
  induction chunks generalizing made with
  | nil => rfl
  | cons chunk rest ih =>
    have hrest : callsAtAsks made (rounds (chunk :: rest) ++ [asked]) =
        made :: callsAtAsks (made + 1 + 1) (rounds rest ++ [asked]) := rfl
    rw [hrest, ih, List.length_cons, List.range_succ_eq_map (n := rest.length + 1), List.map_cons,
      List.map_map]
    refine congrArg (made :: ·) (List.map_congr_left fun i _ => ?_)
    simp only [Function.comp_apply]
    omega

theorem pass_rounds (chunks : List (List UInt8)) : Pass chunks (rounds chunks ++ [asked]) := by
  refine ⟨?_, by simpa using callsAtAsks_rounds 0 chunks⟩
  simp [rounds, List.filter_flatMap, List.filter_cons, isCall]

end SinkEvent

namespace Sink

private theorem endures_or_failsAt (sink : Sink) (n : Nat) :
    sink.Endures n ∨ ∃ i < n, sink.FailsAt i := by
  induction n with
  | zero => exact .inl ⟨fun m _ => Nat.zero_le m, fun m _ => Nat.zero_le m⟩
  | succ n ih =>
    obtain hroom | ⟨i, hi, hfails⟩ := ih
    · by_cases hspent : sink.writesLeft = some n ∨ sink.flushesLeft = some n
      · exact .inr ⟨n, Nat.lt_succ_self n, hroom, hspent⟩
      · obtain ⟨hwrites, hflushes⟩ := not_or.mp hspent
        refine .inl ⟨fun m hm => ?_, fun m hm => ?_⟩
        · exact Nat.lt_of_le_of_ne (hroom.1 m hm) fun heq => hwrites (heq ▸ hm)
        · exact Nat.lt_of_le_of_ne (hroom.2 m hm) fun heq => hflushes (heq ▸ hm)
    · exact .inr ⟨i, Nat.lt_succ_of_lt hi, hfails⟩

theorem events_passed (sink : Sink) (chunks : List (List UInt8)) :
    (sink.passed chunks).askedOnce.events =
      sink.events ++ (SinkEvent.rounds chunks ++ [.asked]) := by
  simp [askedOnce, passed, received, SinkEvent.rounds]

private theorem FailsAt.events_stuckAt (h : sink.FailsAt chunks.length) (chunk : List UInt8) :
    ((sink.passed chunks).stuckAt chunk).events =
      sink.events ++ (SinkEvent.rounds chunks ++ [.asked]) ++
        if sink.writesLeft = some chunks.length then [] else [.wrote chunk] := by
  have hspent :
      (sink.passed chunks).writesLeft = some 0 ↔ sink.writesLeft = some chunks.length := by
    have hroom := h.1.1
    cases hleft : sink.writesLeft with
    | none => simp [Sink.passed, hleft]
    | some m =>
      have hle := hroom m hleft
      simp only [Sink.passed, hleft, Option.map_some, Option.some.injEq]
      omega
  rw [← events_passed, stuckAt]
  by_cases hwrites : sink.writesLeft = some chunks.length
  · rw [if_pos (hspent.mpr hwrites), if_pos hwrites, List.append_nil]
  · rw [if_neg (mt hspent.mp hwrites), if_neg hwrites]
    simp [askedOnce]

end Sink

namespace Forwarding

/-- What a forwarding comes to, for a producer that hands out `chunks` and then comes to its end. -/
structure IsDisciplined (next : ActOn σ (Option (List UInt8))) (bound : Nat) (p : σ) (w : World)
    (chunks : List (List UInt8)) (ending : Except Failure Unit) (p' : σ) (w' : World)
    (sink : Sink) : Prop where
  /-- The sink takes all chunks, or it fails at one of them. -/
  decided : sink.Endures chunks.length ∨ ∃ i < chunks.length, sink.FailsAt i
  /-- The forwarding comes to ask for the chunk behind the first `i` when the sink has taken these,
  and the producer has handed out no more. -/
  asks : ∀ i ≤ chunks.length, sink.Endures i → ∃ q v, Hands next p w (chunks.take i) q v ∧
    ∀ fuel, forwardUpTo next (fuel + i) 0 ⟨p, sink⟩ w =
      forwardUpTo next fuel ((chunks.take i).map List.length).sum
        ⟨q, sink.passed (chunks.take i)⟩ v
  /-- If the sink takes all chunks, then the end of the producer is that of the forwarding. -/
  ends : sink.Endures chunks.length → ∃ last v,
    forward next bound ⟨p, sink⟩ w =
        ((ending.map fun _ => (chunks.map List.length).sum, ⟨p', last⟩), v) ∧
      (∃ events, last.events = sink.events ++ events ∧ SinkEvent.Pass chunks events) ∧
      v = match ending with
        | .ok _ => counted w' (chunks.map List.length).sum
        | .error _ => w'
  /-- If the sink fails at a chunk then its failure leaves, when the producer has handed out that
  chunk and no more. The chunks before have passed; and if it was the flush that failed then the
  chunk itself was written. -/
  fails : ∀ i chunk, chunks[i]? = some chunk → sink.FailsAt i → ∃ q last v,
    forward next bound ⟨p, sink⟩ w = ((.error sink.failure, ⟨q, last⟩), v) ∧
      Hands next p w (chunks.take (i + 1)) q v ∧
      ∃ events, SinkEvent.Pass (chunks.take i) events ∧
        last.events = sink.events ++ events ++
          if sink.writesLeft = some i then [] else [.wrote chunk]

/-- Every forwarding is disciplined, whatever its producer hands out before it comes to its end, if the
bound leaves room for that, and at whatever chunk its sink may fail. -/
theorem forward_disciplined (h : ComesToEnd next p w chunks ending p' w') {bound : Nat}
    (hbound : chunks.length < bound) (sink : Sink) :
    IsDisciplined next bound p w chunks ending p' w' sink := by
  obtain ⟨q, v, hhands, hend⟩ := h
  have hpart (i : Nat) : ∃ q v, Hands next p w (chunks.take i) q v := by
    rw [← List.take_append_drop i chunks] at hhands
    obtain ⟨q, v, hbefore, _⟩ := hhands.split
    exact ⟨q, v, hbefore⟩
  refine ⟨sink.endures_or_failsAt _, fun i hi hroom => ?asks, fun hroom => ?ends,
    fun i chunk hchunk hfails => ?fails⟩
  case asks =>
    obtain ⟨q, v, hbefore⟩ := hpart i
    have hlength : (chunks.take i).length = i := List.length_take_of_le hi
    refine ⟨q, v, hbefore, fun fuel => ?_⟩
    have hloop := forwardUpTo_passed hbefore (by rwa [hlength]) fuel 0
    rwa [hlength, Nat.zero_add, List.length_flatten] at hloop
  case ends =>
    refine ⟨(sink.passed chunks).askedOnce, _, ?_, ⟨_, sink.events_passed chunks,
      SinkEvent.pass_rounds chunks⟩, rfl⟩
    rw [← List.length_flatten]
    cases ending with
    | ok _ => exact forward_of_end hhands hend hroom hbound
    | error failure => exact forward_of_raise hhands hend hroom hbound
  case fails =>
    obtain ⟨hi, hvalue⟩ := List.getElem?_eq_some_iff.mp hchunk
    have hlength : (chunks.take i).length = i := List.length_take_of_le (Nat.le_of_lt hi)
    obtain ⟨q, v, hthrough⟩ := hpart (i + 1)
    have hcut : chunks.take (i + 1) = chunks.take i ++ [chunk] := by
      rw [List.take_succ_eq_append_getElem hi, hvalue]
    obtain ⟨_, _, hbefore, hnext⟩ := (hcut ▸ hthrough).split_last
    rw [← hlength] at hfails
    have hevents := hfails.events_stuckAt chunk
    rw [hlength] at hevents
    exact ⟨q, _, v, forward_stuck hbefore hnext hfails (by omega), hthrough, _,
      SinkEvent.pass_rounds _, hevents⟩

/-- A list of chunks as a producer that fails when it has handed out all. -/
def nextOrFail (failure : Failure) : ActOn (List (List UInt8)) (Option (List UInt8)) := do
  match ← nextOfList with
  | none => throw failure
  | some chunk => return some chunk

private theorem comesToEnd_nextOrFail (failure : Failure) (chunks : List (List UInt8)) (w : World) :
    ComesToEnd (nextOrFail failure) chunks w chunks (.error failure) [] w := by
  refine ⟨[], w, ?_, rfl⟩
  induction chunks with
  | nil => exact .nil [] w
  | cons chunk rest ih => exact .cons rfl ih

/-- Three chunks, the second of which is empty. -/
def threeChunks : List (List UInt8) := [[0x61, 0x62], [], [0x63]]

/-- A sink that takes one chunk, and fails when the next one is written. -/
def oneWrite : Sink := { writesLeft := some 1 }

/-- The producer fails behind its last chunk, or the sink before that in its second write. -/
theorem forward_disciplined_threeChunks :
    ComesToEnd (nextOrFail .closedStream) threeChunks World.bare threeChunks (.error .closedStream)
        [] World.bare ∧
      threeChunks.length < 4 ∧
      (∃ last, forward (nextOrFail .closedStream) 4 ⟨threeChunks, {}⟩ World.bare =
          ((.error .closedStream, ⟨[], last⟩), World.bare) ∧
        SinkEvent.Pass threeChunks last.events) ∧
      ∃ last, forward (nextOrFail .closedStream) 4 ⟨threeChunks, oneWrite⟩ World.bare =
          ((.error (.os (.numbered .brokenPipe none)), ⟨[[0x63]], last⟩), World.bare) ∧
        SinkEvent.Pass [[0x61, 0x62]] last.events := by
  have hend := comesToEnd_nextOrFail .closedStream threeChunks World.bare
  have hbound : threeChunks.length < 4 := by decide
  refine ⟨hend, hbound, ?_, ?_⟩
  · obtain ⟨last, v, hforward, ⟨events, hevents, hpass⟩, rfl⟩ :=
      (forward_disciplined hend hbound {}).ends ⟨nofun, nofun⟩
    obtain rfl : last.events = events := hevents
    exact ⟨last, hforward, hpass⟩
  · have hfails : oneWrite.FailsAt 1 :=
      ⟨⟨fun m hm => Nat.le_of_eq (Option.some.inj hm), nofun⟩, .inl rfl⟩
    obtain ⟨q, last, v, hforward, hhands, events, hpass, hevents⟩ :=
      (forward_disciplined hend hbound oneWrite).fails 1 [] rfl hfails
    obtain rfl : last.events = events := hevents.trans (List.append_nil events)
    cases hhands with
    | cons hfirst hrest =>
      cases hfirst
      cases hrest with
      | cons hsecond hlast =>
        cases hsecond
        cases hlast
        exact ⟨last, hforward, hpass⟩

end Forwarding

end ScanLauncher
