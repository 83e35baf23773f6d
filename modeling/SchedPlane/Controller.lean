/-
SchedPlane/Controller.lean

Loading a scheduling object.  A load hands the object out, builds its registry, attaches
its probes and starts its three channels, in this order.  It either yields a handle with
all of that or fails at the first step that goes wrong with nothing left behind: what
was acquired is released newest first, and then the object is unloaded.
-/
import SchedPlane.Handle

namespace SchedPlane

/-- A controller: its configuration, and the evidence that the residency step has run. -/
structure Controller where
  config : Config
  residency : Residency
  deriving DecidableEq, Repr

/-! ### What a load has acquired -/

/-- What an unfinished load holds of the object. -/
structure Holding where
  kernel : Kernel
  /-- In the order of attachment. -/
  probes : List Link := []
  queued : Option (EventStream Task) := none
  exits : Option (EventStream ExitEvent) := none

namespace Holding

/-- Ends a stream of events, its poll thread having run meanwhile. -/
def closeStream {α : Type} [EventRecord α] (k : Kernel) : Option (EventStream α) → Kernel
  | none => k
  | some s =>
    let (k', s') := s.settle k
    (s'.close k').1

/-- Releases everything, newest first, and unloads the object. -/
def unwind (h : Holding) : Kernel :=
  let k := closeStream (closeStream h.kernel h.exits) h.queued
  (Handle.detachAll k h.probes.reverse).close.2

/-- Attaches probes in order.  A failure comes with what is held at that point. -/
def attachProbes (h : Holding) : List String → Except (ControlError × Holding) Holding
  | [] => .ok h
  | name :: rest =>
    match h.kernel.attachProgram name with
    | .ok (link, kernel) => attachProbes { h with kernel, probes := h.probes ++ [link] } rest
    | .error e => .error (.probeAttach name e.message, h)

end Holding

/-! ### Starting channels -/

/-- The failure of a ring that cannot be bound. -/
def bindError (map : String) (e : ObjectError) : ControlError :=
  .channel s!"failed to bind {map}: {e.message}"

/-- Binds the ring of a map and starts an event stream on it. -/
def startEvents (α : Type) (k : Kernel) (map : String) (t : Tuning) :
    Except ControlError (Kernel × EventStream α) :=
  match k.bindRing map .ringBuf with
  | .error e => .error (bindError map e)
  | .ok () => EventStream.start α k map map t

/-- Binds the ring of a map and starts a dispatch stream on it. -/
def startDispatch (k : Kernel) (map : String) (t : Tuning) :
    Except ControlError (Kernel × DispatchStream) :=
  match k.bindRing map .userRingBuf with
  | .error e => .error (bindError map e)
  | .ok () => DispatchStream.start k map map t

namespace Controller

/-! ### Loading -/

/-- Starts the channels of a bound object whose probes are attached. -/
def startChannels (c : Controller) (registry : Registry) (held : Holding) :
    Except (ControlError × Holding) (Kernel × Handle) := do
  let (k, queued) ← (startEvents Task held.kernel registry.queued.name c.config.queued).mapError
    fun e => (e, held)
  let held := { held with kernel := k, queued := some queued }
  let (k, exits) ← (startEvents ExitEvent k registry.exit.name c.config.exit).mapError
    fun e => (e, held)
  let held := { held with kernel := k, exits := some exits }
  let (k, dispatch) ← (startDispatch k registry.dispatched.name c.config.dispatch).mapError
    fun e => (e, held)
  return (k,
    { memoryLocked := c.residency.locked
      registry
      invoker := .new (some registry.selectCpu.name) (some registry.siblingCpu.name)
      probes := held.probes
      queued, exits, dispatch })

/-- Attaches the probes of a bound object and starts its channels. -/
def acquire (c : Controller) (registry : Registry) (k : Kernel) :
    Except (ControlError × Holding) (Kernel × Handle) := do
  let held ← Holding.attachProbes { kernel := k } (registry.probes.map (·.name))
  c.startChannels registry held

/-- Loads an artifact. -/
def load (c : Controller) (k : Kernel) (artifact : Artifact) :
    Except ControlError Handle × Kernel :=
  match k.load artifact with
  | .error e => (.error (.load e.message), k)
  | .ok k =>
    match Registry.build c.config.moduleName k.maps k.programs with
    | .error e => (.error e, k.close.2)
    | .ok registry =>
      match c.acquire registry k with
      | .error (e, held) => (.error e, held.unwind)
      | .ok (k, handle) => (.ok handle, k)

/-- Loads the artifact that the configuration names. -/
def loadConfigured (c : Controller) (k : Kernel) : Except ControlError Handle × Kernel :=
  match c.config.artifact with
  | .error e => (.error e, k)
  | .ok artifact => c.load k artifact

end Controller

end SchedPlane
