/-
SchedPlane/Session/Command.lean

The commands of a session: what an operator can do to a simulated deployment.  A session
starts from a plan of an object, with faults if wanted, and a configuration.  Commands
act on the kernel's side, on the bare object, on single channels, on the call-outs and
on a whole handle; things kept for later are named by the operator.
-/
import SchedPlane.Config
import SchedPlane.Kernel.Blueprint
import SchedPlane.Lifecycle

namespace SchedPlane.Session

/-! ### Subprogram bodies -/

/-- A subprogram body as a session describes it. -/
inductive Body where
  /-- Answers with a word. -/
  | answer (word : UInt32)
  | fail (e : ObjectError)
  /-- Answers with the word at an offset of the context. -/
  | wordAt (offset : Nat)
  /-- Answers with the length of the context. -/
  | length
  /-- Answers with the CPU field of a task on a machine of so many CPUs, or refuses it. -/
  | topology (cpus : Int)
  /-- Answers with one word on one context and with another on all others. -/
  | onContext (expected : Bytes) (same other : UInt32)

namespace Body

/-- The little-endian word at an offset; a shorter context fails the run. -/
def word (context : Bytes) (offset : Nat) : Except ObjectError UInt32 :=
  let field := context.slice offset 4
  if field.length < 4 then .error (.runFailed "short context")
  else .ok (UInt32.ofNat field.toNatLE)

/-- The word for a CPU that the machine does not have. -/
def noSuchCpu : UInt32 := 4294967280

/-- The subprogram that a description stands for. -/
def run : Body → Subprogram
  | .answer w, _ => .ok w
  | .fail e, _ => .error e
  | .wordAt offset, context => word context offset
  | .length, context => .ok (UInt32.ofNat context.length)
  | .topology cpus, context => do
    let w ← word context 4
    let cpu := w.toInt32.toInt
    return if 0 ≤ cpu ∧ cpu < cpus then w else noSuchCpu
  | .onContext expected same other, context =>
    .ok (if context = expected then same else other)

end Body

/-! ### Plans -/

/-- A step in planning the object. -/
inductive PlanStep where
  | program (name : String) (kind : ProgramKind)
  | map (name : String) (kind : MapKind)
  | without (name : String)
  | subprogram (name : String) (body : Body)
  | mapValue (name : String) (value : Bytes)
  | failingAttach (name : String)
  | failingLoad (reason : String)
  | ringCapacity (n : Nat)

/-- Carries out a planning step. -/
def PlanStep.apply (p : Blueprint) : PlanStep → Blueprint
  | .program name kind => p.program name kind
  | .map name kind => p.map name kind
  | .without name => p.without name
  | .subprogram name body => p.subprogram name body.run
  | .mapValue name value => p.mapValue name value
  | .failingAttach name => p.withFailingAttach name
  | .failingLoad reason => p.withFailingLoad reason
  | .ringCapacity n => p.withRingCapacity n

/-! ### Commands -/

/-- What an event channel reads. -/
inductive EventKind where
  | task
  | exit
  deriving DecidableEq, Repr

/-- What the kernel does by itself, and what can be seen of it. -/
inductive KernelCommand where
  | produce (map : String) (b : Bytes)
  | enqueueTask (t : Task)
  | emitExit (b : Bytes)
  | pending (map : String)
  | runCount (name : String)
  | flags
  | journal
  | takeDispatched
  | drainDispatched
  | setSubprogram (name : String) (body : Body)
  | setMapValue (map : String) (value : Bytes)
  | setAttachFailure (name : String) (failing : Bool)

/-- Operations on the bare object.  Links and rings are kept under names. -/
inductive ObjectCommand where
  | load (artifact : Artifact)
  | programs
  | maps
  | run (name : String) (context : Bytes)
  | read (map : String)
  | close
  | attachProgram (name id : String)
  | attachScheduler (name id : String)
  | detach (id : String)
  | dropLink (id : String)
  | bindRing (map id : String)
  | openRing (id : String)
  | poll (id : String)
  | dropPoller (id : String)
  | bindUserRing (map id : String)
  | openUserRing (id : String)
  | submit (id : String) (b : Bytes)
  | dropWriter (id : String)

/-- Operations on event channels started by themselves. -/
inductive EventCommand where
  | start (id name : String) (kind : EventKind) (t : Tuning)
  /-- Takes an item, if there is one. -/
  | take (id : String)
  /-- Looks what a consumer finds. -/
  | receive (id : String)
  | stats (id : String)
  | info (id : String)
  | close (id : String)
  | drop (id : String)

/-- Operations on the dispatch channel started by itself, and on the sender in use. -/
inductive DispatchCommand where
  | start (id name : String) (t : Tuning)
  | stats
  | info
  | close
  | drop
  | trySend (d : Decision)
  | send (d : Decision)
  | joinSender
  | backlog

/-- Operations on the invoker in use. -/
inductive CalloutCommand where
  | new (selectCpu siblingCpu : Option String)
  | setClosed (value : Bool)
  | select (t : Task)
  | enableSibling (r : Relation)
  | stats
  | isClosed

/-- Operations on a controller and its handle. -/
inductive HandleCommand where
  | load (artifact : Option Artifact) (residency : Option (ResidencyPolicy × LockOutcome))
  | attach
  | close
  | isClosed
  | drop
  | stats
  | select (t : Task)
  | enableSibling (r : Relation)
  | snapshot (region : StateRegion)
  | fetchQueued
  | fetchExits
  | fetchDispatcher
  | fetchInvoker
  | receiveQueued
  | receiveExit
  | placementStart
  | placementJoin

/-- A command of a session. -/
inductive Command where
  | kernel (c : KernelCommand)
  | object (c : ObjectCommand)
  | event (c : EventCommand)
  | dispatch (c : DispatchCommand)
  | callout (c : CalloutCommand)
  | handle (c : HandleCommand)

end SchedPlane.Session
