/-
SchedPlane/Session/State.lean

The state of a session: the kernel, what the operator holds of it, and the channels, the
handle and the placement loop that run on it.  Nothing is timed: after every command
`Session.settle` lets all threads run until none can do anything more, so answers do
not depend on a schedule.

The simulation hands its object out once, so a session has one handle at most; after it is
dropped it stays in the state, closed, for the ends that were fetched from it.
-/
import SchedPlane.Session.Answer
import SchedPlane.Session.Command

namespace SchedPlane

namespace Session

/-- An event channel of either kind. -/
inductive EventChannel where
  | tasks (s : EventStream Task)
  | exits (s : EventStream ExitEvent)
  deriving DecidableEq, Repr

/-- A ring opened for reading by hand. -/
structure Poller where
  map : String
  /-- The polls that will fail before the first that works. -/
  failing : Nat
  deriving DecidableEq, Repr

/-- Whose queue a sender fills. -/
inductive Dispatcher where
  /-- A dispatch channel by itself, by the order of their starts. -/
  | channel (n : Nat)
  /-- The dispatch channel of the handle. -/
  | ofHandle
  deriving DecidableEq, Repr

/-- The subprograms that call-outs of the session reach. -/
inductive Caller where
  /-- An invoker of the session, closed by the session's own flag. -/
  | own (i : Invoker)
  | ofHandle
  deriving DecidableEq, Repr

end Session

/-- A session with a simulated deployment. -/
structure Session where
  kernel : Kernel
  config : Config
  /-- Whether the bare object was loaded. -/
  objectHeld : Bool := false
  links : Table Link := []
  sources : Table String := []
  pollers : Table Session.Poller := []
  sinks : Table String := []
  writers : Table String := []
  events : Table Session.EventChannel := []
  /-- All dispatch channels started by themselves, in that order. -/
  streams : List DispatchStream := []
  /-- The one of them that is held. -/
  heldStream : Option Nat := none
  handle : Option Handle := none
  /-- Whether the handle has not been dropped. -/
  handleHeld : Bool := false
  loop : Option PlacementLoop := none
  /-- The sender in use. -/
  dispatcher : Option Session.Dispatcher := none
  /-- The last blocking send. -/
  lastSend : Option (Session.Dispatcher × DispatchStream.Sender) := none
  caller : Option Session.Caller := none
  /-- The closed flag of the session's own invokers. -/
  closedFlag : Bool := false
  queuedFetched : Bool := false
  exitsFetched : Bool := false

namespace Session

/-! ### Planning -/

/-- The configuration of a session that names none. -/
def standardConfig : Config where
  objectPath := none
  moduleName := Contract.moduleName
  residency := .disabled
  queued := ⟨1, 8⟩
  exit := ⟨1, 8⟩
  dispatch := ⟨1, 8⟩

/-- A session with a planned object. -/
def new (base : Blueprint) (plan : List PlanStep) (faults : Faults) (config : Config) :
    Session where
  kernel := (plan.foldl PlanStep.apply base).build faults
  config := config

/-! ### Letting threads run -/

/-- The blocking senders on a dispatcher. -/
def sendersOn (s : Session) (target : Dispatcher) : List DispatchStream.Sender :=
  match s.lastSend with
  | some (d, p) => if d = target then [p] else []
  | none => []

/-- The session with the blocking senders on a dispatcher replaced. -/
def setSenders (s : Session) (target : Dispatcher) (senders : List DispatchStream.Sender) :
    Session :=
  match senders with
  | p :: _ => { s with lastSend := some (target, p) }
  | [] => s

/-- Runs an event channel on the session's kernel. -/
def EventChannel.run (k : Kernel) (tasks : Kernel → EventStream Task → Kernel × EventStream Task)
    (exits : Kernel → EventStream ExitEvent → Kernel × EventStream ExitEvent) :
    EventChannel → Kernel × EventChannel
  | .tasks s => let (k', s') := tasks k s; (k', .tasks s')
  | .exits s => let (k', s') := exits k s; (k', .exits s')

/-- Lets an event channel run until it rests. -/
def EventChannel.settle (k : Kernel) (c : EventChannel) : Kernel × EventChannel :=
  c.run k (fun k s => s.settle k) (fun k s => s.settle k)

/-- Closes an event channel. -/
def EventChannel.close (k : Kernel) (c : EventChannel) : Kernel × EventChannel :=
  c.run k (fun k s => s.close k) (fun k s => s.close k)

/-- Lets the event channels run until they rest. -/
def settleEvents (k : Kernel) : Table EventChannel → Kernel × Table EventChannel
  | [] => (k, [])
  | (id, c) :: rest =>
    let (k', c') := c.settle k
    let (k'', rest') := settleEvents k' rest
    (k'', (id, c') :: rest')

/-- Runs a dispatch channel, with the sends that wait on it. -/
def runStream (s : Session) (n : Nat) (f : Kernel → Line → Kernel × Line) : Session :=
  match s.streams[n]? with
  | none => s
  | some stream =>
    let (kernel, l) := f s.kernel { stream, senders := s.sendersOn (.channel n) }
    { s with kernel, streams := s.streams.set n l.stream }.setSenders (.channel n) l.senders

/-- The deployment of a handle in the session. -/
def deployment (s : Session) (handle : Handle) : Deployment where
  kernel := s.kernel
  handle := handle
  loop := s.loop
  senders := s.sendersOn .ofHandle

/-- The session after its deployment has run. -/
def setDeployment (s : Session) (d : Deployment) : Session :=
  { s with kernel := d.kernel, handle := some d.handle, loop := d.loop }.setSenders
    .ofHandle d.senders

/-- Runs the deployment of the handle, if there is one. -/
def runDeployment (s : Session) (f : Deployment → Deployment) : Session :=
  match s.handle with
  | none => s
  | some handle => s.setDeployment (f (s.deployment handle))

/-- Lets all threads run until none can do anything more. -/
def settle (s : Session) : Session :=
  let (kernel, events) := settleEvents s.kernel s.events
  let s := { s with kernel, events }
  let s := (List.range s.streams.length).foldl (fun s n => s.runStream n Line.settle) s
  s.runDeployment (·.settle)

/-! ### Dropping -/

/-- Closes the dispatch channel that is held, and lets go of it. -/
def dropStream (s : Session) : Session :=
  match s.heldStream with
  | none => s
  | some n => { s with heldStream := none }.runStream n Line.close

/-- Closes the handle that is held, and lets go of it. -/
def dropHandle (s : Session) : Session :=
  if s.handleHeld then { s with handleHeld := false }.runDeployment (·.close) else s

/-- Closes an event channel and forgets it. -/
def dropEvents (s : Session) (id : String) : Session :=
  match s.events.get? id with
  | none => s
  | some c => { s with kernel := (c.close s.kernel).1, events := s.events.erase id }

/-- Drops everything: the handle, the event channels, the dispatch channel, the links, the
opened rings; of a kind, by ascending name. -/
def dropAll (s : Session) : Session :=
  let s := s.dropHandle
  let s := s.events.sorted.foldl (fun s e => s.dropEvents e.1) s
  let s := s.dropStream
  let k := s.links.sorted.foldl (fun k e => k.release e.2) s.kernel
  let k := s.pollers.sorted.foldl (fun k e => k.releaseRing e.2.map) k
  let k := s.writers.sorted.foldl (fun k e => k.releaseRing e.2) k
  { s with kernel := k, links := [], sources := [], pollers := [], sinks := [], writers := [] }

/-- The state of the handle, while there is one. -/
def handleState (s : Session) : Option Lifecycle :=
  if s.handleHeld then s.handle.map (·.state) else none

end Session

end SchedPlane
