/-
SchedPlane/Object.lean

What a loader reports about a scheduling object: its maps and programs with their
kinds, where the object came from, and the ways in which an operation on it fails.
-/
import SchedPlane.Bytes

namespace SchedPlane

/-! ### Maps and programs -/

/-- The kind of a map. -/
inductive MapKind where
  | array
  | hash
  /-- A ring the kernel fills and the control plane reads. -/
  | ringBuf
  /-- A ring the control plane fills and the kernel reads. -/
  | userRingBuf
  /-- The attach point of a scheduler. -/
  | structOps
  | other (raw : UInt32)
  deriving DecidableEq, Repr

namespace MapKind

/-- The kernel's name for a kind; all unknown kinds share one. -/
def label : MapKind → String
  | .array => "BPF_MAP_TYPE_ARRAY"
  | .hash => "BPF_MAP_TYPE_HASH"
  | .ringBuf => "BPF_MAP_TYPE_RINGBUF"
  | .userRingBuf => "BPF_MAP_TYPE_USER_RINGBUF"
  | .structOps => "BPF_MAP_TYPE_STRUCT_OPS"
  | .other _ => "BPF_MAP_TYPE_UNSPEC"

/-- The name of a kind as messages give it: an unknown kind shows its number. -/
def describe : MapKind → String
  | .other raw => s!"{label (.other raw)}({raw.toNat})"
  | kind => kind.label

/-- Whether maps of this kind hold a ring of records. -/
def isRing : MapKind → Bool
  | .ringBuf | .userRingBuf => true
  | _ => false

end MapKind

/-- The kind of a program. -/
inductive ProgramKind where
  | kprobe
  | structOps
  /-- Runnable on demand. -/
  | syscall
  | tracing
  | other
  deriving DecidableEq, Repr

/-- An enumerated map. -/
structure MapInfo where
  name : String
  kind : MapKind
  fd : Int32
  deriving DecidableEq, Repr

/-- An enumerated program. -/
structure ProgramInfo where
  name : String
  kind : ProgramKind
  deriving DecidableEq, Repr

/-! ### Artifacts -/

/-- A compiled scheduling object. -/
inductive Artifact where
  /-- On disk. -/
  | path (text : String)
  /-- Embedded in the program. -/
  | embedded (bytes : Bytes)
  deriving DecidableEq, Repr

/-- How messages and the journal name an artifact. -/
def Artifact.describe : Artifact → String
  | .path text => text
  | .embedded bytes => s!"<embedded, {bytes.length} bytes>"

/-! ### Failures -/

/-- Why an operation on an object failed. -/
inductive ObjectError where
  | loadFailed (reason : String)
  | attachFailed (reason : String)
  | detachFailed (reason : String)
  | mapError (reason : String)
  | programNotFound (name : String)
  | mapNotFound (name : String)
  | runFailed (reason : String)
  | unloaded
  | notAvailable
  deriving DecidableEq, Repr

/-- The wording of a failed operation. -/
def ObjectError.message : ObjectError → String
  | .loadFailed reason => s!"Failed to load BPF object: {reason}"
  | .attachFailed reason => s!"Failed to attach: {reason}"
  | .detachFailed reason => s!"Failed to detach: {reason}"
  | .mapError reason => s!"Map operation failed: {reason}"
  | .programNotFound name => s!"Program not found: {name}"
  | .mapNotFound name => s!"Map not found: {name}"
  | .runFailed reason => s!"Program run failed: {reason}"
  | .unloaded => "Object already unloaded"
  | .notAvailable => "BPF feature not available"

end SchedPlane
