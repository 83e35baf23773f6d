/-
SchedPlane/Config.lean

The configuration of a controller: the object to load, the module name that prefixes
the state regions, the residency policy and the tuning of the three channels.
Environment variables override the defaults one by one; a path given to the program
overrides the environment.
-/
import SchedPlane.Contract
import SchedPlane.Residency

namespace SchedPlane

/-- The poll interval of a channel in milliseconds and the capacity of its queue. -/
structure Tuning where
  interval : UInt64
  capacity : UInt64
  deriving DecidableEq, Repr

/-- The items the queue of a channel has room for: at least one. -/
def Tuning.room (t : Tuning) : Nat :=
  max 1 t.capacity.toNat

/-- The configuration of a controller. -/
structure Config where
  objectPath : Option String
  moduleName : String
  residency : ResidencyPolicy
  queued : Tuning
  exit : Tuning
  dispatch : Tuning
  deriving DecidableEq, Repr

namespace Config

/-- A tuning of so many microseconds and items. -/
def tuning (micros capacity : Nat) : Tuning :=
  ⟨UInt64.ofNat (micros / 1000), UInt64.ofNat capacity⟩

/-- The configuration of a controller in an empty environment. -/
def standard : Config where
  objectPath := none
  moduleName := Contract.moduleName
  residency := .required
  queued := tuning Limits.queuedPollMicros Limits.queuedCapacity
  exit := tuning Limits.exitPollMicros Limits.exitCapacity
  dispatch := tuning Limits.dispatchFlushMicros Limits.dispatchCapacity

/-- The module name in an environment; an empty one is an error. -/
def lookupModule (lookup : String → Option String) : Except ControlError String :=
  match lookup Contract.envModuleName with
  | none => .ok standard.moduleName
  | some name =>
    if name.isEmpty then .error (.config (Contract.envModuleName ++ " is empty")) else .ok name

/-- The residency policy in an environment. -/
def lookupResidency (lookup : String → Option String) : Except ControlError ResidencyPolicy :=
  match lookup Contract.envMemlock with
  | none => .ok standard.residency
  | some text =>
    match ResidencyPolicy.parse? text with
    | some policy => .ok policy
    | none => .error (.config (ResidencyPolicy.invalidMessage text))

/-- The defaults overridden by an environment.  An empty object path counts as absent; the
module name is looked at before the residency policy. -/
def ofLookup (lookup : String → Option String) : Except ControlError Config := do
  let moduleName ← lookupModule lookup
  let residency ← lookupResidency lookup
  return { standard with
    objectPath := (lookup Contract.envObjectPath).filter (!·.isEmpty)
    moduleName := moduleName
    residency := residency }

/-- The configuration with another object, whatever the environment said. -/
def withObjectPath (c : Config) (path : String) : Config :=
  { c with objectPath := some path }

/-- The artifact to load. -/
def artifact (c : Config) : Except ControlError Artifact :=
  match c.objectPath with
  | some path => .ok (.path path)
  | none => .error (.config
      s!"no scheduling object given (pass a path or set {Contract.envObjectPath})")

end Config

end SchedPlane
