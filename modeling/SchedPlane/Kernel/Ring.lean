/-
SchedPlane/Kernel/Ring.lean

A kernel ring: a first-in, first-out buffer of records with room for a fixed number of
them.  A record offered to a full ring is refused, and the ring stays as it was.
-/
import SchedPlane.Bytes

namespace SchedPlane

/-- A ring and the records waiting in it, oldest first. -/
structure Ring where
  capacity : Nat
  records : List Bytes := []
  deriving DecidableEq, Repr

namespace Ring

/-- Whether no further record fits. -/
def isFull (r : Ring) : Bool :=
  decide (r.capacity ≤ r.records.length)

/-- The ring with a record at its end, if it has room. -/
def push? (r : Ring) (b : Bytes) : Option Ring :=
  if r.isFull then none else some { r with records := r.records ++ [b] }

/-- The oldest record, and the ring without it. -/
def pop? (r : Ring) : Option (Bytes × Ring) :=
  match r.records with
  | [] => none
  | b :: rest => some (b, { r with records := rest })

/-- The ring without its records. -/
def cleared (r : Ring) : Ring :=
  { r with records := [] }

end Ring

end SchedPlane
