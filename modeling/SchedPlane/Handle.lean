/-
SchedPlane/Handle.lean

Scheduler handles.  A handle owns a loaded object and everything bound to it: the links
of its probes, the link that makes it the active scheduler, the two event streams and
the dispatch stream.  It is attached at most once, and one attempt is all it gets.

Closing sets the closed flag, which every call-out and every accessor looks at first, and
then tears down in a fixed order: exit stream, dispatch stream, queued stream, scheduler
link, probe links newest first, object.  `Handle.teardownStep` is one step of it, so
closing can be interleaved with the threads that it stops.  Errors of a release never stop
the releases that follow.
-/
import SchedPlane.Callout
import SchedPlane.Registry
import SchedPlane.Stream.Dispatch
import SchedPlane.Stream.Event

namespace SchedPlane

/-- How far the closing of a handle has come. -/
inductive Teardown where
  | notBegun
  | exits
  | dispatch
  | queued
  | scheduler
  | probes
  | object
  | done
  deriving DecidableEq, Repr

/-- A loaded, possibly attached, scheduling policy. -/
structure Handle where
  memoryLocked : Bool
  state : Lifecycle := .loaded
  /-- Whether attaching has been tried. -/
  attachTried : Bool := false
  closed : Bool := false
  registry : Registry
  invoker : Invoker
  /-- In the order of attachment. -/
  probes : List Link
  scheduler : Option Link := none
  queued : EventStream Task
  exits : EventStream ExitEvent
  dispatch : DispatchStream
  teardown : Teardown := .notBegun
  deriving DecidableEq, Repr

namespace Handle

/-! ### Attaching -/

/-- Makes the loaded policy the active scheduler. -/
def attach (k : Kernel) (h : Handle) : Except ControlError Unit × Kernel × Handle :=
  if h.closed then (.error .closed, k, h)
  else if h.attachTried || !h.state.canBecome .attached then
    (.error (h.state.refusal .attached), k, h)
  else
    let tried := { h with attachTried := true }
    let map := h.registry.structOps.name
    match k.attachScheduler map with
    | .error e => (.error (.attach s!"{map}: {e.message}"), k, tried)
    | .ok (link, k') =>
      let held := { tried with scheduler := some link }
      match h.state.become .attached with
      | .ok state => (.ok (), k', { held with state })
      | .error e => (.error e, k', held)

/-! ### Reads -/

/-- What every accessor of a channel looks at first. -/
def ensureOpen (h : Handle) : Except ControlError Unit :=
  if h.closed then .error .closed else .ok ()

/-- Reads a state region. -/
def snapshot (k : Kernel) (h : Handle) (region : StateRegion) :
    Except ControlError (Option Bytes) := do
  h.ensureOpen
  let map := (h.registry.region region).name
  match k.readValue map with
  | .ok value => .ok value
  | .error e => .error (.stateRead map e.message)

/-- The statistics of the handle. -/
def stats (h : Handle) : SchedulerStats where
  state := h.state
  backend := Kernel.backend
  memoryLocked := h.memoryLocked
  queued := h.queued.stats
  exits := h.exits.stats
  dispatch := h.dispatch.stats
  callouts := h.invoker.stats

/-! ### Closing -/

/-- Sets the closed flag and begins the teardown; only the first time does anything. -/
def beginClose (h : Handle) : Handle :=
  if h.closed then h else { h with closed := true, teardown := .exits }

/-- Detaches links in the order given; errors are passed over. -/
def detachAll (k : Kernel) : List Link → Kernel
  | [] => k
  | l :: rest => detachAll (k.detach l).2 rest

/-- The next step of the teardown. -/
def teardownStep (k : Kernel) (h : Handle) : Kernel × Handle :=
  match h.teardown with
  | .notBegun => (k, h)
  | .exits =>
    (k, if h.exits.stop && h.exits.isFinished then { h with teardown := .dispatch }
        else { h with exits := h.exits.requestStop })
  | .dispatch =>
    (k, if h.dispatch.isClosed then { h with teardown := .queued }
        else { h with dispatch := h.dispatch.closeStep })
  | .queued =>
    (k, if h.queued.stop && h.queued.isFinished then { h with teardown := .scheduler }
        else { h with queued := h.queued.requestStop })
  | .scheduler =>
    (detachAll k h.scheduler.toList, { h with scheduler := none, teardown := .probes })
  | .probes =>
    match h.probes.getLast? with
    | some l => ((k.detach l).2, { h with probes := h.probes.dropLast })
    | none => (k, { h with teardown := .object })
  | .object => (k.close.2, { h with state := .closed, teardown := .done })
  | .done => (k, h)

/-- Whether the teardown waits for nothing: it has not begun, or it is done. -/
def teardownAtRest (h : Handle) : Bool :=
  match h.teardown with
  | .notBegun | .done => true
  | _ => false

end Handle

end SchedPlane
