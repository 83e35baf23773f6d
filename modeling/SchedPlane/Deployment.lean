/-
SchedPlane/Deployment.lean

A deployment: a kernel, a handle loaded over it, the placement loop if one runs, and the
blocking sends and call-outs of other threads on the handle.  `Deployment.step` is the
next step of one of these threads; a run of the program is a sequence of such steps in any
order, mixed with what the kernel does by itself.  `Deployment.settle` lets all threads
run until none can do anything more.
-/
import SchedPlane.Placement
import SchedPlane.Stream.Line

namespace SchedPlane

/-- A kernel, a handle over it, and the threads that act on both. -/
structure Deployment where
  kernel : Kernel
  handle : Handle
  loop : Option PlacementLoop := none
  /-- Blocking sends on the handle's dispatcher, the loop's own apart. -/
  senders : List DispatchStream.Sender := []
  /-- Call-outs through the handle, the loop's own apart. -/
  calls : List Call := []

/-- A thread of a deployment. -/
inductive Actor where
  /-- The thread that closes the handle. -/
  | teardown
  /-- The poll thread of the exit stream. -/
  | pollExits
  /-- The poll thread of the queued stream. -/
  | pollQueued
  /-- The flush thread, or a blocking send. -/
  | dispatch (a : Line.Actor)
  /-- The call-out of a number. -/
  | call (n : Nat)
  /-- The placement loop. -/
  | place
  deriving DecidableEq, Repr

namespace Deployment

/-- The handle's dispatch stream with the blocking sends on it. -/
def line (d : Deployment) : Line :=
  { stream := d.handle.dispatch, senders := d.senders }

/-- The deployment with that replaced. -/
def setLine (d : Deployment) (l : Line) : Deployment :=
  { d with handle := { d.handle with dispatch := l.stream }, senders := l.senders }

/-! ### Steps -/

/-- The next step of a thread. -/
def step (d : Deployment) : Actor → Deployment
  | .teardown =>
    let (kernel, handle) := d.handle.teardownStep d.kernel
    { d with kernel, handle }
  | .pollExits =>
    let (kernel, exits) := d.handle.exits.advance d.kernel
    { d with kernel, handle := { d.handle with exits } }
  | .pollQueued =>
    let (kernel, queued) := d.handle.queued.advance d.kernel
    { d with kernel, handle := { d.handle with queued } }
  | .dispatch a =>
    let (kernel, l) := d.line.advance d.kernel a
    { d with kernel }.setLine l
  | .call n =>
    match d.calls[n]? with
    | none => d
    | some c =>
      let (kernel, invoker, c') := c.step d.handle.closed d.kernel d.handle.invoker
      { d with kernel, handle := { d.handle with invoker }, calls := d.calls.set n c' }
  | .place =>
    match d.loop with
    | none => d
    | some p =>
      let (kernel, handle, p') := p.step d.kernel d.handle
      { d with kernel, handle, loop := some p' }

/-- Whether a thread can do nothing more by itself. -/
def resting (d : Deployment) : Actor → Bool
  | .teardown => d.handle.teardownAtRest
  | .pollExits => d.handle.exits.restsOn d.kernel
  | .pollQueued => d.handle.queued.restsOn d.kernel
  | .dispatch a => d.line.resting d.kernel a
  | .call n => ((d.calls[n]?).map (·.atRest d.handle.invoker)).getD true
  | .place => (d.loop.map (·.atRest d.handle)).getD true

/-! ### Letting threads run -/

/-- The threads in the order in which a round lets them step. -/
def actors (d : Deployment) : List Actor :=
  [Actor.teardown, .pollExits, .pollQueued] ++ d.line.actors.map Actor.dispatch ++
    (List.range d.calls.length).map Actor.call ++ [Actor.place]

/-- A thread takes a step, unless it can do nothing. -/
def turn (d : Deployment) (a : Actor) : Deployment :=
  if d.resting a then d else d.step a

/-- Every thread takes a step. -/
def round (d : Deployment) : Deployment :=
  d.actors.foldl turn d

/-- Whether no thread can do anything more. -/
def atRest (d : Deployment) : Bool :=
  d.actors.all d.resting

/-- Enough rounds for all threads to come to rest. -/
def bound (d : Deployment) : Nat :=
  let records := (d.kernel.waiting d.handle.queued.map).length +
    (d.kernel.waiting d.handle.exits.map).length + d.handle.queued.queue.length +
    d.handle.exits.queue.length + d.handle.dispatch.queue.length + d.senders.length +
    d.calls.length + d.handle.probes.length
  24 * records + d.handle.queued.failingPolls + d.handle.exits.failingPolls + 96

/-- Lets all threads run until none can do anything more. -/
def settle (d : Deployment) : Deployment :=
  untilRest atRest round d.bound d

/-! ### Operations that wait -/

/-- Closes the handle and waits for the end of its threads. -/
def close (d : Deployment) : Deployment :=
  { d with handle := d.handle.beginClose }.settle

/-- Makes a call-out and waits for its result. -/
def call (d : Deployment) (r : CallRequest) : Option CallResult × Deployment :=
  let d' := settle { d with calls := d.calls ++ [{ request := r }] }
  ((d'.calls[d.calls.length]?).bind Call.result?,
    { d' with calls := d'.calls.take d.calls.length })

end Deployment

end SchedPlane
