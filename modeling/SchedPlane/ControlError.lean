/-
SchedPlane/ControlError.lean

The failures the control plane reports, as causes, with one function for their
wording, one for their diagnostic code and one for the advice that goes with them.
Failures of a load, a probe or an attach are fatal to the handle being built;
failures of a call-out go back to its caller.
-/
import SchedPlane.Object

namespace SchedPlane

/-- Why an operation of the control plane failed. -/
inductive ControlError where
  /-- The object could not be loaded, or breaks the contract in kind. -/
  | load (reason : String)
  /-- Two resources claim one role. -/
  | duplicateResource (name : String)
  /-- Roles of the contract that no resource fills. -/
  | missingResources (names : List String)
  | probeAttach (name reason : String)
  | attach (reason : String)
  | invalidTransition (source target : String)
  | subprogramUnavailable (name : String)
  | invocation (name reason : String)
  /-- The kernel program rejected a sibling relation. -/
  | domainConfig (code : UInt32)
  | stateRead (name reason : String)
  | channel (reason : String)
  /-- The handle is closed. -/
  | closed
  | memoryLock (reason : String)
  | config (reason : String)
  deriving DecidableEq, Repr

namespace ControlError

/-- The wording of a failure. -/
def message : ControlError → String
  | .load reason => s!"Failed to load scheduling object: {reason}"
  | .duplicateResource name => s!"Resource {name} bound more than once"
  | .missingResources names =>
    "Required resources missing from object: " ++ String.intercalate ", " names
  | .probeAttach name reason => s!"Failed to attach probe {name}: {reason}"
  | .attach reason => s!"Failed to attach scheduler: {reason}"
  | .invalidTransition source target => s!"Invalid state transition: {source} -> {target}"
  | .subprogramUnavailable name => s!"Subprogram {name} is not available"
  | .invocation name reason => s!"Invocation of {name} failed: {reason}"
  | .domainConfig code => s!"Domain configuration rejected with code {code.toNat}"
  | .stateRead name reason => s!"Failed to read state region {name}: {reason}"
  | .channel reason => s!"Channel error: {reason}"
  | .closed => "Scheduler handle is closed"
  | .memoryLock reason => s!"Failed to lock process memory: {reason}"
  | .config reason => s!"Invalid configuration: {reason}"

/-- The diagnostic code of a failure. -/
def code : ControlError → String
  | .load _ => "sched::load_failed"
  | .duplicateResource _ => "sched::duplicate_resource"
  | .missingResources _ => "sched::missing_resources"
  | .probeAttach .. => "sched::probe_attach_failed"
  | .attach _ => "sched::attach_failed"
  | .invalidTransition .. => "sched::invalid_transition"
  | .subprogramUnavailable _ => "sched::subprogram_unavailable"
  | .invocation .. => "sched::invocation_failed"
  | .domainConfig _ => "sched::domain_config"
  | .stateRead .. => "sched::state_read"
  | .channel _ => "sched::channel"
  | .closed => "sched::closed"
  | .memoryLock _ => "sched::memory_lock"
  | .config _ => "sched::config"

/-- The advice that goes with a failure, where there is some. -/
def help : ControlError → Option String
  | .load _ => some ("Check that the object exists, was built for this kernel, and that the " ++
      "process has CAP_BPF.")
  | .duplicateResource _ => some ("The object exposes two resources with the same role. Rebuild " ++
      "the scheduling program.")
  | .missingResources _ => some "The object does not match the controller's named contract."
  | .attach _ => some ("Another scheduler may already be attached, or the kernel rejected the " ++
      "struct-ops map.")
  | .domainConfig _ => some ("The kernel program rejected the sibling relation. Check level and " ++
      "CPU ids.")
  | .memoryLock _ => some ("Raise RLIMIT_MEMLOCK or grant CAP_IPC_LOCK, or set " ++
      "SCHED_MEMLOCK=best_effort.")
  | _ => none

end ControlError

end SchedPlane
