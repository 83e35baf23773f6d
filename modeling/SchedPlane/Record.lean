/-
SchedPlane/Record.lean

The records exchanged with the kernel program.  A task record is a process number, a
CPU number (both signed, four bytes) and a word of flags (eight bytes): what the
kernel offers for placement, the context of the CPU selection subprogram, and the
layout of a dispatch decision.  A sibling relation is a level and two CPU numbers, four
bytes each.  Reading ignores trailing bytes, so the kernel program may append fields;
a record shorter than its wire size is refused with both lengths.
-/
import SchedPlane.Bytes

namespace SchedPlane

/-- A record is shorter than its wire size. -/
structure Truncated where
  expected : Nat
  actual : Nat
  deriving DecidableEq, Repr

/-- The wording of a truncated record. -/
def Truncated.message (t : Truncated) : String :=
  s!"Record too short: expected {t.expected} bytes, got {t.actual}"

/-! ### Tasks -/

/-- A task the kernel offers for placement. -/
structure Task where
  pid : Int32
  cpu : Int32
  flags : UInt64
  deriving DecidableEq, Repr

namespace Task

/-- Bytes of a task record on the wire. -/
def wireSize : Nat := 16

/-- The record of a task: its fields in order. -/
def encode (t : Task) : Bytes :=
  Bytes.ofInt32 t.pid ++ Bytes.ofInt32 t.cpu ++ Bytes.ofUInt64 t.flags

/-- The task whose record the bytes start with. -/
def decode (b : Bytes) : Except Truncated Task :=
  if b.length < wireSize then
    .error ⟨wireSize, b.length⟩
  else
    .ok { pid := (b.slice 0 4).toInt32
          cpu := (b.slice 4 4).toInt32
          flags := (b.slice 8 8).toUInt64 }

@[simp] theorem length_encode (t : Task) : t.encode.length = wireSize := by
  simp [encode, wireSize]

end Task

/-! ### Sibling relations -/

/-- A claim that two CPUs are siblings at one level of the topology. -/
structure Relation where
  level : Int32
  cpu : Int32
  sibling : Int32
  deriving DecidableEq, Repr

namespace Relation

/-- Bytes of a sibling relation on the wire. -/
def wireSize : Nat := 12

/-- The record of a relation: its fields in order. -/
def encode (r : Relation) : Bytes :=
  Bytes.ofInt32 r.level ++ Bytes.ofInt32 r.cpu ++ Bytes.ofInt32 r.sibling

/-- The relation whose record the bytes start with. -/
def decode (b : Bytes) : Except Truncated Relation :=
  if b.length < wireSize then
    .error ⟨wireSize, b.length⟩
  else
    .ok { level := (b.slice 0 4).toInt32
          cpu := (b.slice 4 4).toInt32
          sibling := (b.slice 8 4).toInt32 }

@[simp] theorem length_encode (r : Relation) : r.encode.length = wireSize := by
  simp [encode, wireSize]

end Relation

/-! ### Decisions and exit events -/

/-- Where and how to run a task: opaque bytes in the layout the kernel program reads. -/
structure Decision where
  bytes : Bytes
  deriving DecidableEq, Repr

/-- The decision that runs `pid` on `cpu`, in the task layout. -/
def Decision.forTask (pid cpu : Int32) (flags : UInt64) : Decision :=
  ⟨({ pid, cpu, flags } : Task).encode⟩

/-- The notification that a task has exited: opaque bytes. -/
structure ExitEvent where
  bytes : Bytes
  deriving DecidableEq, Repr

/-! ### Records of an event stream -/

/-- A kind of item that an event stream reads from the records of a ring. -/
class EventRecord (α : Type) where
  /-- The item a record holds, unless the record is malformed. -/
  ofRecord : Bytes → Except Truncated α

instance : EventRecord Task := ⟨Task.decode⟩

instance : EventRecord ExitEvent := ⟨fun b => .ok ⟨b⟩⟩

end SchedPlane
