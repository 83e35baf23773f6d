/-
SchedPlane/Session/Answer.lean

The answers of a session's commands.
-/
import SchedPlane.Controller
import SchedPlane.Deployment

namespace SchedPlane.Session

/-- What a command needs and does not find. -/
inductive Absent where
  | object | handle | invoker | dispatcher | queued | exits | event | dispatch
  | link | source | poller | sink | writer
  /-- A blocking send waits already. -/
  | freeSender
  deriving DecidableEq, Repr

/-- The name of what is absent. -/
def Absent.label : Absent → String
  | .object => "object"
  | .handle => "handle"
  | .invoker => "invoker"
  | .dispatcher => "dispatcher"
  | .queued => "queued"
  | .exits => "exits"
  | .event => "event"
  | .dispatch => "dispatch"
  | .link => "link"
  | .source => "source"
  | .poller => "poller"
  | .sink => "sink"
  | .writer => "writer"
  | .freeSender => "sender already blocked"

/-- The answer of a command. -/
inductive Answer where
  /-- Done, without a value. -/
  | ok
  | absent (what : Absent)
  | controlError (e : ControlError)
  | objectError (e : ObjectError)
  | flag (b : Bool)
  | count (n : Nat)
  | backend (name : String)
  | journal (entries : List JournalEntry)
  | kernelFlags (attached unloaded : Bool)
  /-- A record, if there is one. -/
  | record (b : Option Bytes)
  | records (bs : List Bytes)
  /-- The value of a map, if it has one. -/
  | value (b : Option Bytes)
  | polled (bs : List Bytes)
  | programs (ps : List ProgramInfo)
  | maps (ms : List MapInfo)
  /-- A received item, if there is one. -/
  | task (t : Option Task)
  | exit (e : Option ExitEvent)
  /-- What a consumer found. -/
  | taskReceipt (r : EventStream.Receipt Task)
  | exitReceipt (r : EventStream.Receipt ExitEvent)
  | eventStats (s : ChannelStats)
  | dispatchStats (s : ChannelStats)
  | channelInfo (name : String) (running : Bool)
  /-- The queue was full; the decision comes back. -/
  | refused (d : Decision)
  /-- A blocking send still waits. -/
  | blocked
  | selection (s : Selection)
  | callouts (s : CalloutStats)
  | loaded (r : Registry) (closed : Bool)
  | handleStats (s : SchedulerStats)
  /-- There never was what is asked about. -/
  | never
  /-- The placement loop still runs. -/
  | running
  deriving DecidableEq, Repr

/-- The outcome of a command: its answer, the journal entries it made, and the state of the
handle while there is one. -/
structure Outcome where
  answer : Answer
  journal : List JournalEntry
  state : Option Lifecycle
  deriving DecidableEq, Repr

/-- How a session ends: the journal entries of dropping everything, and the kernel after
it. -/
structure Ending where
  journal : List JournalEntry
  attached : Bool
  unloaded : Bool
  deriving DecidableEq, Repr

end SchedPlane.Session
