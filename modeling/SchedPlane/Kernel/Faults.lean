/-
SchedPlane/Kernel/Faults.lean

Faults injected into an object: which rings fail to open, which polls fail, which
submitted records are refused or end the thread that submits them, and which releases
report an error although they are carried out.
-/
import SchedPlane.Object
import SchedPlane.Table

namespace SchedPlane

/-- The faults of an object. -/
structure Faults where
  /-- Opening the ring of a map fails. -/
  openErrors : Table ObjectError := []
  /-- Opening the ring of a map ends the thread that does it. -/
  openPanics : List String := []
  /-- The number of polls of a map's ring that fail before the first that works. -/
  pollErrors : Table Nat := []
  /-- Submitting a record fails. -/
  submitErrors : List (Bytes × ObjectError) := []
  /-- Submitting a record ends the thread that does it. -/
  submitPanics : List Bytes := []
  /-- Detaching a link releases it and then fails. -/
  detachErrors : Table ObjectError := []
  /-- Reading the value of a map fails. -/
  readErrors : Table ObjectError := []
  /-- Unloading the object is carried out and then fails. -/
  closeError : Option ObjectError := none
  deriving DecidableEq, Repr

end SchedPlane
