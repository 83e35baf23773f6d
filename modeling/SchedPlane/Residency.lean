/-
SchedPlane/Residency.lean

Memory residency.  CPU selection runs while the kernel waits for its answer, so the
process locks its memory before it touches the kernel.  A policy says how strictly;
`Residency.establish` turns the policy and the outcome of the one lock request into a
token, which the controller asks for, or into the failure that ends the start.
-/
import SchedPlane.ControlError

namespace SchedPlane

/-- How strictly memory residency is enforced. -/
inductive ResidencyPolicy where
  /-- Fail if memory cannot be locked. -/
  | required
  /-- Try to lock memory and go on without. -/
  | bestEffort
  /-- Leave memory unlocked. -/
  | disabled
  deriving DecidableEq, Repr

namespace ResidencyPolicy

/-- The policy a text names, in any case.  No letter outside ASCII has a lower case that
occurs in these words, so the ASCII case map decides. -/
def parse? (text : String) : Option ResidencyPolicy :=
  let word := text.map Char.toLower
  if word ∈ ["required", "1", "true"] then some .required
  else if word ∈ ["best_effort", "besteffort"] then some .bestEffort
  else if word ∈ ["disabled", "0", "false"] then some .disabled
  else none

/-- The wording for a text that names no policy. -/
def invalidMessage (text : String) : String :=
  s!"Invalid residency policy '{text}'. Valid: required, best_effort, disabled"

/-- The name of a policy in log lines. -/
def label : ResidencyPolicy → String
  | .required => "Required"
  | .bestEffort => "BestEffort"
  | .disabled => "Disabled"

end ResidencyPolicy

/-! ### Lock requests -/

/-- Why the kernel refused to lock the memory of the process. -/
inductive LockRefusal where
  | notPermitted
  | tryAgain
  | outOfMemory
  | invalidArgument
  /-- Any other error number. -/
  | unknown
  /-- The platform has no such request. -/
  | unsupported
  deriving DecidableEq, Repr

namespace LockRefusal

/-- The refusal that an error number of the kernel stands for. -/
def ofErrno : Nat → LockRefusal
  | 1 => .notPermitted
  | 11 => .tryAgain
  | 12 => .outOfMemory
  | 22 => .invalidArgument
  | _ => .unknown

/-- The wording of a refusal: the name of the error and what it says. -/
def message : LockRefusal → String
  | .notPermitted => "EPERM: Operation not permitted"
  | .tryAgain => "EAGAIN: Try again"
  | .outOfMemory => "ENOMEM: Out of memory"
  | .invalidArgument => "EINVAL: Invalid argument"
  | .unknown => "UnknownErrno: Unknown errno"
  | .unsupported => "memory locking is only supported on Linux"

end LockRefusal

/-- The outcome of the request to lock memory: granted, or refused. -/
abbrev LockOutcome := Option LockRefusal

/-- The outcome behind an error number, zero being success. -/
def LockOutcome.ofErrno (n : Nat) : LockOutcome :=
  if n = 0 then none else some (.ofErrno n)

/-- The flags of a lock request: current and future pages. -/
def lockFlags : Nat := 3

/-! ### The residency token -/

/-- Evidence that the residency step has run. -/
structure Residency where
  policy : ResidencyPolicy
  locked : Bool
  deriving DecidableEq, Repr

namespace Residency

/-- The lock requests that a policy makes, by their flags. -/
def requests : ResidencyPolicy → List Nat
  | .disabled => []
  | _ => [lockFlags]

/-- Carries out a policy.  The outcome is looked at only where the policy makes a
request. -/
def establish (policy : ResidencyPolicy) (outcome : LockOutcome) :
    Except ControlError Residency :=
  match policy, outcome with
  | .disabled, _ => .ok ⟨policy, false⟩
  | _, none => .ok ⟨policy, true⟩
  | .bestEffort, some _ => .ok ⟨policy, false⟩
  | .required, some refusal => .error (.memoryLock refusal.message)

/-- The token of a control plane that leaves memory unlocked. -/
def disabled : Residency := ⟨.disabled, false⟩

end Residency

end SchedPlane
