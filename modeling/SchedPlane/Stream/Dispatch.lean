/-
SchedPlane/Stream/Dispatch.lean

Dispatch streams: senders put decisions into a bounded queue, and a flush thread publishes
them, in order, on a ring the kernel reads.  A full ring stalls the thread, the queue
fills up behind it, and a blocking send waits: that chain is the only backpressure a
sender sees.

Every attempt to send holds the gate for reading.  Closing asks for the gate, which keeps
new attempts out, takes it when the last attempt has left, and only then stops the flush
thread, so no decision enters the queue once the thread drains it.  What the thread
holds or finds queued at that time is discarded and counted.

The flush thread, each blocking sender and the closing are machines with small steps,
`flushStep`, `sendStep` and `closeStep`.  The flush thread takes the answer of the ring as
an argument, so the machine does not depend on what it publishes to;
`DispatchStream.advance` supplies the answer of a simulated kernel.
-/
import SchedPlane.Config
import SchedPlane.Kernel.Basic
import SchedPlane.Stream.Counters
import SchedPlane.Stream.Schedule

namespace SchedPlane

/-! ### The flush thread -/

/-- Where a flush thread is. -/
inductive FlushPhase where
  /-- About to look at the stop flag. -/
  | idle
  /-- Waiting a limited time for a decision. -/
  | waiting
  /-- About to submit a decision. -/
  | publishing (d : Decision)
  /-- The ring was full; about to look at the stop flag. -/
  | stalled (d : Decision)
  /-- The stop flag was seen; about to discard what is queued. -/
  | draining
  | finished
  /-- Submitting a decision has ended the thread. -/
  | dead
  deriving DecidableEq, Repr

/-- The gate that every attempt to send passes. -/
inductive Gate where
  | unlocked
  /-- Closing waits for the last attempt to leave; no new one enters. -/
  | requested
  | closed
  deriving DecidableEq, Repr

/-- A stream of decisions towards the ring of a map. -/
structure DispatchStream where
  /-- The name the stream was started under. -/
  name : String
  /-- The map whose ring is written. -/
  map : String
  capacity : Nat
  /-- Oldest decision first. -/
  queue : List Decision := []
  phase : FlushPhase := .idle
  counters : Counters := {}
  gate : Gate := .unlocked
  /-- The attempts to send that are behind the gate. -/
  inside : Nat := 0
  stop : Bool := false
  deriving DecidableEq, Repr

namespace DispatchStream

/-- Whether no further decision fits into the queue. -/
def isFull (s : DispatchStream) : Bool :=
  decide (s.capacity ≤ s.queue.length)

/-- Whether the flush thread has ended. -/
def isFinished (s : DispatchStream) : Bool :=
  match s.phase with
  | .finished | .dead => true
  | _ => false

/-- What submitting a decision leads to. -/
def answered (s : DispatchStream) (d : Decision) : Kernel.SubmitAnswer → DispatchStream
  | .published =>
    { s with
      phase := .idle
      counters := { s.counters with delivered := s.counters.delivered + 1 } }
  | .full =>
    { s with
      phase := .stalled d
      counters := { s.counters with stalls := s.counters.stalls + 1 } }
  | .failed _ =>
    { s with
      phase := .idle
      counters := { s.counters with discarded := s.counters.discarded + 1 } }
  | .panicked => { s with phase := .dead }

/-- The next step of the flush thread.  `answer` is what the ring says if this step submits
a decision. -/
def flushStep (answer : Kernel.SubmitAnswer) (s : DispatchStream) : DispatchStream :=
  match s.phase with
  | .idle => { s with phase := if s.stop then .draining else .waiting }
  | .waiting =>
    match s.queue with
    | [] => { s with phase := .idle }
    | d :: rest =>
      { s with
        queue := rest
        phase := .publishing d
        counters := { s.counters with received := s.counters.received + 1 } }
  | .publishing d => s.answered d answer
  | .stalled d =>
    if s.stop then
      { s with
        phase := .idle
        counters := { s.counters with discarded := s.counters.discarded + 1 } }
    else { s with phase := .publishing d }
  | .draining =>
    { s with
      queue := []
      phase := .finished
      counters := { s.counters with discarded := s.counters.discarded + s.queue.length } }
  | .finished => s
  | .dead => s

/-! ### Senders -/

/-- What becomes of a send that does not wait. -/
inductive SendAnswer where
  | accepted
  /-- The queue is full; the decision goes back to the sender. -/
  | refused (d : Decision)
  | closed
  deriving DecidableEq, Repr

/-- Sends a decision without waiting. -/
def trySend (s : DispatchStream) (d : Decision) : SendAnswer × DispatchStream :=
  if s.gate ≠ .unlocked ∨ s.isFinished then (.closed, s)
  else if s.isFull then (.refused d, s)
  else (.accepted, { s with queue := s.queue ++ [d] })

/-- Where a blocking send is. -/
inductive Sender where
  /-- Outside, about to pass the gate. -/
  | atGate (d : Decision)
  /-- Behind the gate, waiting a limited time for room. -/
  | inside (d : Decision)
  /-- Done: the decision was accepted, or the stream is closed. -/
  | returned (accepted : Bool)
  deriving DecidableEq, Repr

/-- The next step of a blocking send. -/
def sendStep (s : DispatchStream) : Sender → DispatchStream × Sender
  | .atGate d =>
    match s.gate with
    | .unlocked => ({ s with inside := s.inside + 1 }, .inside d)
    | .requested => (s, .atGate d)
    | .closed => (s, .returned false)
  | .inside d =>
    let out := { s with inside := s.inside - 1 }
    if s.isFinished then (out, .returned false)
    else if s.isFull then (out, .atGate d)
    else ({ out with queue := out.queue ++ [d] }, .returned true)
  | .returned accepted => (s, .returned accepted)

/-- Whether a blocking send can do nothing more by itself: it waits for room with nobody
asking for the gate, it is kept out while the gate is asked for, or it is done. -/
def senderAtRest (s : DispatchStream) : Sender → Bool
  | .atGate _ => decide (s.gate = .requested)
  | .inside _ => s.isFull && !s.isFinished && decide (s.gate = .unlocked)
  | .returned _ => true

/-! ### Closing -/

/-- The next step of closing: ask for the gate, take it, stop the flush thread. -/
def closeStep (s : DispatchStream) : DispatchStream :=
  match s.gate with
  | .unlocked => { s with gate := .requested }
  | .requested => if s.inside = 0 then { s with gate := .closed } else s
  | .closed => { s with stop := true }

/-- Whether closing has nothing more to do: the thread it stopped has ended. -/
def isClosed (s : DispatchStream) : Bool :=
  decide (s.gate = .closed) && s.stop && s.isFinished

/-- The statistics of the stream. -/
def stats (s : DispatchStream) : ChannelStats :=
  s.counters.snapshot s.queue.length

/-! ### On a kernel -/

/-- The next step of the flush thread on the ring of its map.  Its end releases the ring. -/
def advance (k : Kernel) (s : DispatchStream) : Kernel × DispatchStream :=
  let (answer, k') : Kernel.SubmitAnswer × Kernel :=
    match s.phase with
    | .publishing d => k.submit s.map d.bytes
    | _ => (.published, k)
  let s' := s.flushStep answer
  (if s'.isFinished && !s.isFinished then k'.releaseRing s.map else k', s')

/-- Whether the flush thread can do nothing more by itself. -/
def restsOn (k : Kernel) (s : DispatchStream) : Bool :=
  match s.phase with
  | .idle | .waiting => !s.stop && s.queue.isEmpty
  | .stalled d => !s.stop && decide ((k.submit s.map d.bytes).1 = .full)
  | .publishing _ | .draining => false
  | .finished | .dead => true

/-- Opens the ring of a map and starts a flush thread on it, under a name. -/
def start (k : Kernel) (name map : String) (t : Tuning) :
    Except ControlError (Kernel × DispatchStream) :=
  match k.openRing map with
  | .ok k' => .ok (k', { name, map, capacity := t.room })
  | .error (.refused e) =>
    .error (.channel s!"failed to open user ring buffer {name}: {e.message}")
  | .error .panicked => .error (.channel s!"flush thread for {name} exited during startup")

end DispatchStream

end SchedPlane
