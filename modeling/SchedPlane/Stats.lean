/-
SchedPlane/Stats.lean

Statistics as they are reported: snapshots of 64-bit counters.  In an event channel
`received` counts records read from the kernel and `delivered` those that entered the
queue; in the dispatch channel `received` counts decisions taken from the queue and
`delivered` those published to the kernel.
-/
import SchedPlane.Lifecycle

namespace SchedPlane

/-- A snapshot of one channel: its counters and the items waiting in its queue. -/
structure ChannelStats where
  received : UInt64 := 0
  delivered : UInt64 := 0
  malformed : UInt64 := 0
  discarded : UInt64 := 0
  /-- Times a full queue or a full kernel buffer was met. -/
  stalls : UInt64 := 0
  queued : UInt64 := 0
  deriving DecidableEq, Repr

/-- The calls of one subprogram and how many of them failed. -/
structure CallStats where
  invocations : UInt64 := 0
  failures : UInt64 := 0
  deriving DecidableEq, Repr

/-- The calls of both subprograms. -/
structure CalloutStats where
  selectCpu : CallStats := {}
  siblingCpu : CallStats := {}
  deriving DecidableEq, Repr

/-- A snapshot of a handle. -/
structure SchedulerStats where
  state : Lifecycle
  backend : String
  memoryLocked : Bool
  queued : ChannelStats
  exits : ChannelStats
  dispatch : ChannelStats
  callouts : CalloutStats
  deriving DecidableEq, Repr

end SchedPlane
