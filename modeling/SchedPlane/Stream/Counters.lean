/-
SchedPlane/Stream/Counters.lean

The running counters of a channel.
-/
import SchedPlane.Stats

namespace SchedPlane

/-- What a channel has done so far. -/
structure Counters where
  received : Nat := 0
  delivered : Nat := 0
  malformed : Nat := 0
  discarded : Nat := 0
  stalls : Nat := 0
  deriving DecidableEq, Repr

/-- The counters as they are reported, together with the items waiting. -/
def Counters.snapshot (c : Counters) (queued : Nat) : ChannelStats where
  received := UInt64.ofNat c.received
  delivered := UInt64.ofNat c.delivered
  malformed := UInt64.ofNat c.malformed
  discarded := UInt64.ofNat c.discarded
  stalls := UInt64.ofNat c.stalls
  queued := UInt64.ofNat queued

end SchedPlane
