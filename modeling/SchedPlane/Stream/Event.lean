/-
SchedPlane/Stream/Event.lean

Event streams: a poll thread moves the records of a kernel ring, one by one, into a
bounded queue that consumers read.  When the queue is full the thread holds the one
record it has read and the rest stays in the ring, so backpressure reaches the kernel.

The thread is a machine whose state says where it is.  `EventStream.pollStep` is its next
small step: it looks at the stop flag before each batch of records and before each wait
for room, and nowhere else.  A timed wait that ends without success is a step too, so
any schedule of the threads of a program is a sequence of such steps.  Once the flag is
set the thread discards the record it holds and every good record still in the ring,
and finishes; what is queued stays readable.
-/
import SchedPlane.Config
import SchedPlane.Kernel.Basic
import SchedPlane.Stream.Counters
import SchedPlane.Stream.Schedule

namespace SchedPlane

/-! ### The machine -/

/-- Where a poll thread is. -/
inductive PollPhase (α : Type) where
  /-- About to look at the stop flag before the next batch. -/
  | idle
  /-- Inside a batch, about to take the next record. -/
  | reading
  /-- About to put an item into the queue. -/
  | offering (item : α)
  /-- The queue was full; about to look at the stop flag. -/
  | stalled (item : α)
  /-- Waiting a limited time for room. -/
  | awaiting (item : α)
  | finished
  deriving DecidableEq, Repr

/-- A stream of items read from the ring of a map. -/
structure EventStream (α : Type) where
  /-- The name the stream was started under. -/
  name : String
  /-- The map whose ring is read. -/
  map : String
  capacity : Nat
  /-- Oldest item first. -/
  queue : List α := []
  phase : PollPhase α := .idle
  counters : Counters := {}
  stop : Bool := false
  /-- The polls that will fail before the first that works. -/
  failingPolls : Nat := 0
  deriving DecidableEq, Repr

namespace EventStream

variable {α : Type}

/-- Whether no further item fits into the queue. -/
def isFull (s : EventStream α) : Bool :=
  decide (s.capacity ≤ s.queue.length)

/-- Whether the poll thread has ended. -/
def isFinished (s : EventStream α) : Bool :=
  match s.phase with
  | .finished => true
  | _ => false

/-- Puts an item into the queue and goes on with the batch. -/
def deliver (s : EventStream α) (item : α) : EventStream α :=
  { s with
    queue := s.queue ++ [item]
    phase := .reading
    counters := { s.counters with delivered := s.counters.delivered + 1 } }

/-- Gives an item up and goes on with the batch. -/
def discard (s : EventStream α) : EventStream α :=
  { s with
    phase := .reading
    counters := { s.counters with discarded := s.counters.discarded + 1 } }

/-- Meets a full queue with an item at hand. -/
def stall (s : EventStream α) (item : α) : EventStream α :=
  { s with
    phase := .stalled item
    counters := { s.counters with stalls := s.counters.stalls + 1 } }

/-- Takes a record from the ring: a malformed one is counted, a good one offered. -/
def accept [EventRecord α] (s : EventStream α) (b : Bytes) : EventStream α :=
  let counters := { s.counters with received := s.counters.received + 1 }
  match EventRecord.ofRecord (α := α) b with
  | .ok item => { s with phase := .offering item, counters }
  | .error _ =>
    { s with phase := .reading, counters := { counters with malformed := counters.malformed + 1 } }

/-- The next step of the poll thread. -/
def pollStep [EventRecord α] (r : Ring) (s : EventStream α) : Ring × EventStream α :=
  match s.phase with
  | .idle =>
    if s.stop then (r, { s with phase := .finished })
    else if 0 < s.failingPolls then (r, { s with failingPolls := s.failingPolls - 1 })
    else (r, { s with phase := .reading })
  | .reading =>
    match r.pop? with
    | some (b, r') => (r', s.accept b)
    | none => (r, { s with phase := .idle })
  | .offering item => (r, if s.isFull then s.stall item else s.deliver item)
  | .stalled item => (r, if s.stop then s.discard else { s with phase := .awaiting item })
  | .awaiting item =>
    (r, if s.isFull then { s with phase := .stalled item } else s.deliver item)
  | .finished => (r, s)

/-- Whether the poll thread can do nothing more by itself. -/
def atRest (r : Ring) (s : EventStream α) : Bool :=
  match s.phase with
  | .idle | .reading => !s.stop && r.records.isEmpty
  | .offering _ => false
  | .stalled _ | .awaiting _ => !s.stop && s.isFull
  | .finished => true

/-! ### The two ends -/

/-- Takes the oldest item of the queue. -/
def take? (s : EventStream α) : Option (α × EventStream α) :=
  match s.queue with
  | [] => none
  | item :: rest => some (item, { s with queue := rest })

/-- What a consumer finds. -/
inductive Receipt (α : Type) where
  | item (x : α)
  | empty
  /-- Nothing is queued and nothing will be. -/
  | disconnected
  deriving DecidableEq, Repr

/-- What a consumer finds now, and the stream after it. -/
def receive (s : EventStream α) : Receipt α × EventStream α :=
  match s.take? with
  | some (x, s') => (.item x, s')
  | none => (if s.isFinished then .disconnected else .empty, s)

/-- Asks the poll thread to stop. -/
def requestStop (s : EventStream α) : EventStream α :=
  { s with stop := true }

/-- The statistics of the stream. -/
def stats (s : EventStream α) : ChannelStats :=
  s.counters.snapshot s.queue.length

/-! ### On a kernel -/

/-- The next step of the poll thread on the ring of its map.  Its end releases the ring. -/
def advance [EventRecord α] (k : Kernel) (s : EventStream α) : Kernel × EventStream α :=
  match k.rings.get? s.map with
  | none => (k, s)
  | some r =>
    let (r', s') := s.pollStep r
    let k' := k.setRing s.map r'
    (if s'.isFinished && !s.isFinished then k'.releaseRing s.map else k', s')

/-- Whether the poll thread can do nothing more by itself. -/
def restsOn (k : Kernel) (s : EventStream α) : Bool :=
  match k.rings.get? s.map with
  | none => true
  | some r => s.atRest r

/-- Enough steps for the poll thread to come to rest. -/
def bound (k : Kernel) (s : EventStream α) : Nat :=
  6 * (k.waiting s.map).length + s.failingPolls + 12

/-- Lets the poll thread run until it rests. -/
def settle [EventRecord α] (k : Kernel) (s : EventStream α) : Kernel × EventStream α :=
  untilRest (fun p => p.2.restsOn p.1) (fun p => p.2.advance p.1) (s.bound k) (k, s)

/-- Stops the poll thread and waits for its end. -/
def close [EventRecord α] (k : Kernel) (s : EventStream α) : Kernel × EventStream α :=
  s.requestStop.settle k

/-- Opens the ring of a map and starts a poll thread on it, under a name. -/
def start (α : Type) (k : Kernel) (name map : String) (t : Tuning) :
    Except ControlError (Kernel × EventStream α) :=
  match k.openRing map with
  | .ok k' => .ok (k', { name, map, capacity := t.room, failingPolls := k.failingPolls map })
  | .error (.refused e) =>
    .error (.channel s!"failed to open ring buffer {name}: {e.message}")
  | .error .panicked => .error (.channel s!"poll thread for {name} exited during startup")

end EventStream

end SchedPlane
