import ScanLauncher.World

/-!
Forwarding chunks to a sink: every chunk is written and flushed before the next one is asked for,
and nothing is kept.
-/
namespace ScanLauncher

/-- What a sink sees of a forwarding. -/
inductive SinkEvent where
  /-- The producer is asked for a chunk. -/
  | asked
  | wrote (chunk : List UInt8)
  | flushed
deriving DecidableEq, Repr

/-- A sink that keeps what it sees. It may be made to fail after a number of writes or flushes. -/
structure Sink where
  events : List SinkEvent := []
  writesLeft : Option Nat := none
  flushesLeft : Option Nat := none
  /-- What a write or a flush fails with. -/
  failure : Failure := .os (.numbered .brokenPipe none)
deriving Repr

namespace Sink

/-- The bytes written so far. -/
def written (sink : Sink) : List UInt8 :=
  sink.events.flatMap fun
    | .wrote chunk => chunk
    | _ => []

/-- Notes an event. -/
def record (event : SinkEvent) : ActOn Sink Unit :=
  modify fun sink => { sink with events := sink.events ++ [event] }

/-- Writes a chunk. -/
def write (chunk : List UInt8) : ActOn Sink Unit := do
  if (← get).writesLeft == some 0 then throw (← get).failure
  modify fun sink => { sink with writesLeft := sink.writesLeft.map (· - 1) }
  record (.wrote chunk)

/-- Pushes everything written to the receiving end. -/
def flush : ActOn Sink Unit := do
  if (← get).flushesLeft == some 0 then throw (← get).failure
  modify fun sink => { sink with flushesLeft := sink.flushesLeft.map (· - 1) }
  record .flushed

end Sink

/-- A producer of chunks and the sink they go to. -/
structure Forwarding (σ : Type) where
  producer : σ
  sink : Sink

namespace Forwarding

variable {σ : Type}

/-- Acts on the producer. -/
def onProducer {α : Type} (act : ActOn σ α) : ActOn (Forwarding σ) α :=
  act.part Forwarding.producer fun f producer => { f with producer }

/-- Acts on the sink. -/
def onSink {α : Type} (act : ActOn Sink α) : ActOn (Forwarding σ) α :=
  act.part Forwarding.sink fun f sink => { f with sink }

/-- Forwards at most `fuel` chunks and counts their bytes. -/
def forwardUpTo (next : ActOn σ (Option (List UInt8))) :
    (fuel total : Nat) → ActOn (Forwarding σ) Nat
  | 0, total => return total
  | fuel + 1, total => do
    onSink (Sink.record .asked)
    match ← onProducer next with
    | none => return total
    | some chunk =>
      onSink (Sink.write chunk)
      onSink Sink.flush
      forwardUpTo next fuel (total + chunk.length)

/-- Forwards all chunks, which are fewer than `bound`, and counts their bytes. -/
def forward (next : ActOn σ (Option (List UInt8))) (bound : Nat) : ActOn (Forwarding σ) Nat := do
  let total ← forwardUpTo next bound 0
  ActOn.lift (Act.log .debug .stream ("Forwarded " ++ Text.decimal total ++ " bytes"))
  return total

end Forwarding

/-- A list of chunks as a producer. -/
def nextOfList : ActOn (List (List UInt8)) (Option (List UInt8)) := do
  match ← get with
  | [] => return none
  | chunk :: rest =>
    set rest
    return some chunk

end ScanLauncher
