/-
SchedPlane/Lifecycle.lean

The life of a scheduler handle: unloaded, loaded, attached, closed.  A loaded handle may
be attached or closed, an attached one closed, and closed is final.
-/
import SchedPlane.ControlError

namespace SchedPlane

/-- Where a handle is in its life. -/
inductive Lifecycle where
  | unloaded
  /-- Resources bound and channels running, the policy not yet active. -/
  | loaded
  /-- The policy is the active scheduler. -/
  | attached
  | closed
  deriving DecidableEq, Repr

namespace Lifecycle

/-- The name of a state. -/
def label : Lifecycle → String
  | .unloaded => "unloaded"
  | .loaded => "loaded"
  | .attached => "attached"
  | .closed => "closed"

/-- Whether a handle may go from one state to another. -/
def canBecome : Lifecycle → Lifecycle → Bool
  | .unloaded, .loaded => true
  | .loaded, .attached => true
  | .loaded, .closed => true
  | .attached, .closed => true
  | _, _ => false

/-- The failure of a step that the life of a handle does not allow. -/
def refusal (source target : Lifecycle) : ControlError :=
  .invalidTransition source.label target.label

/-- Goes from one state to another, if that is allowed. -/
def become (source target : Lifecycle) : Except ControlError Lifecycle :=
  if source.canBecome target then .ok target else .error (source.refusal target)

end Lifecycle

/-- A region of state that the kernel program keeps. -/
inductive StateRegion where
  /-- Zero-initialised state. -/
  | bss
  /-- Initialised state. -/
  | data
  deriving DecidableEq, Repr

end SchedPlane
