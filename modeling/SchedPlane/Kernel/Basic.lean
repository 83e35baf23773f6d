/-
SchedPlane/Kernel/Basic.lean

A simulated kernel that holds one scheduling object.  The object has maps, programs,
subprograms that run on demand, bounded rings and map values; it is handed out once,
and after it is unloaded it refuses every operation.  The journal records each step of
its life: the load, every attach and detach, every ring opened and released, and the
unload.  The operations below the heading "The loaded object" are what a controller
may do; those below "The kernel's side" are what the kernel does by itself.
-/
import SchedPlane.Contract
import SchedPlane.Kernel.Faults
import SchedPlane.Kernel.Ring
import SchedPlane.Record

namespace SchedPlane

/-- The body of a subprogram: input context in, return value out. -/
abbrev Subprogram := Bytes → Except ObjectError UInt32

/-! ### The journal -/

/-- A step in the life of an object. -/
inductive JournalEntry where
  | loaded (artifact : String)
  | attached (program : String)
  | schedulerAttached (map : String)
  | opened (map : String)
  | released (map : String)
  | detached (label : String)
  | unloaded
  deriving DecidableEq, Repr

/-- The written form of a journal entry. -/
def JournalEntry.render : JournalEntry → String
  | .loaded artifact => "load:" ++ artifact
  | .attached program => "attach:" ++ program
  | .schedulerAttached map => "struct_ops:" ++ map
  | .opened map => "open:" ++ map
  | .released map => "release:" ++ map
  | .detached label => "detach:" ++ label
  | .unloaded => "close"

/-! ### The kernel -/

/-- A simulated kernel and the object it holds. -/
structure Kernel where
  programs : List ProgramInfo
  maps : List MapInfo
  subprograms : Table Subprogram
  rings : Table Ring
  values : Table Bytes
  runCounts : Table Nat := []
  /-- Programs and maps whose attach fails. -/
  failingAttach : List String := []
  /-- Why every load fails, if it does. -/
  loadRefusal : Option String := none
  faults : Faults := {}
  /-- Oldest entry first. -/
  journal : List JournalEntry := []
  /-- Whether the object has been handed out. -/
  handedOut : Bool := false
  /-- Whether a scheduler is attached. -/
  attached : Bool := false
  /-- Whether the object has been unloaded. -/
  unloaded : Bool := false

/-- An active attachment, by the name of what is attached. -/
structure Link where
  label : String
  /-- Whether it makes the object the active scheduler. -/
  isScheduler : Bool
  deriving DecidableEq, Repr

namespace Kernel

/-- The name of this backend. -/
def backend : String := "simulation"

/-- The kernel with one more journal entry. -/
def record (k : Kernel) (e : JournalEntry) : Kernel :=
  { k with journal := k.journal ++ [e] }

/-- The kernel with the ring of a map replaced. -/
def setRing (k : Kernel) (map : String) (r : Ring) : Kernel :=
  { k with rings := k.rings.set map r }

/-- Refuses an operation on an unloaded object. -/
def ensureLoaded (k : Kernel) : Except ObjectError Unit :=
  if k.unloaded then .error .unloaded else .ok ()

/-- The first map of a name. -/
def map (k : Kernel) (name : String) : Except ObjectError MapInfo :=
  match k.maps.find? fun m => m.name = name with
  | some m => .ok m
  | none => .error (.mapNotFound name)

/-! ### The loaded object -/

/-- Hands the object out, once. -/
def load (k : Kernel) (artifact : Artifact) : Except ObjectError Kernel :=
  match k.loadRefusal with
  | some reason => .error (.loadFailed reason)
  | none =>
    if k.handedOut then .error (.loadFailed "simulated object already loaded")
    else .ok ({ k with handedOut := true }.record (.loaded artifact.describe))

/-- Attaches a program. -/
def attachProgram (k : Kernel) (name : String) : Except ObjectError (Link × Kernel) := do
  k.ensureLoaded
  if name ∉ k.programs.map ProgramInfo.name then .error (.programNotFound name)
  else if name ∈ k.failingAttach then
    .error (.attachFailed s!"simulated attach failure for {name}")
  else .ok (⟨name, false⟩, k.record (.attached name))

/-- Makes the object of a struct-ops map the active scheduler; there is one at most. -/
def attachScheduler (k : Kernel) (name : String) : Except ObjectError (Link × Kernel) := do
  k.ensureLoaded
  let m ← k.map name
  if m.kind ≠ .structOps then .error (.attachFailed s!"{name} is not a struct-ops map")
  else if name ∈ k.failingAttach then
    .error (.attachFailed s!"simulated struct-ops attach failure for {name}")
  else if k.attached then .error (.attachFailed "a scheduler is already attached")
  else .ok (⟨name, true⟩, { k with attached := true }.record (.schedulerAttached name))

/-- Releases a link. -/
def release (k : Kernel) (l : Link) : Kernel :=
  { k with attached := k.attached && !l.isScheduler }.record (.detached l.label)

/-- Detaches a link: it is released in any case, and a fault may be reported after that. -/
def detach (k : Kernel) (l : Link) : Except ObjectError Unit × Kernel :=
  match k.faults.detachErrors.get? l.label with
  | some e => (.error e, k.release l)
  | none => (.ok (), k.release l)

/-- The number of times a subprogram was run. -/
def runCount (k : Kernel) (name : String) : Nat :=
  (k.runCounts.get? name).getD 0

/-- Runs a subprogram of an object that was seen loaded.  A run is counted before its body
answers; a subprogram without a body is not run. -/
def runLoaded (k : Kernel) (name : String) (context : Bytes) :
    Except ObjectError UInt32 × Kernel :=
  match k.subprograms.get? name with
  | none => (.error (.programNotFound name), k)
  | some body =>
    (body context, { k with runCounts := k.runCounts.set name (k.runCount name + 1) })

/-- Runs a subprogram on a context. -/
def run (k : Kernel) (name : String) (context : Bytes) : Except ObjectError UInt32 × Kernel :=
  match k.ensureLoaded with
  | .error e => (.error e, k)
  | .ok () => k.runLoaded name context

/-- Checks that a map has a ring of one kind. -/
def bindRing (k : Kernel) (name : String) (expected : MapKind) : Except ObjectError Unit := do
  k.ensureLoaded
  let m ← k.map name
  if m.kind ≠ expected then
    .error (.mapError s!"{name} is {m.kind.describe}, expected {expected.describe}")
  else if (k.rings.get? name).isNone then .error (.mapNotFound name)
  else .ok ()

/-- Reads the value of a map. -/
def readValue (k : Kernel) (name : String) : Except ObjectError (Option Bytes) :=
  match k.faults.readErrors.get? name with
  | some e => .error e
  | none => do
    k.ensureLoaded
    let _ ← k.map name
    .ok (k.values.get? name)

/-- Unloads the object; only the first time does anything.  A fault is reported after the
fact, that one time. -/
def close (k : Kernel) : Except ObjectError Unit × Kernel :=
  if k.unloaded then (.error .unloaded, k)
  else
    let unloaded := { k with unloaded := true }.record .unloaded
    match k.faults.closeError with
    | some e => (.error e, unloaded)
    | none => (.ok (), unloaded)

/-! ### Rings -/

/-- How opening a ring fails. -/
inductive OpenFailure where
  /-- With an error. -/
  | refused (e : ObjectError)
  /-- By ending the thread that opens it. -/
  | panicked
  deriving DecidableEq, Repr

/-- Opens the ring of a map for reading or writing. -/
def openRing (k : Kernel) (map : String) : Except OpenFailure Kernel :=
  if map ∈ k.faults.openPanics then .error .panicked
  else
    match k.faults.openErrors.get? map with
    | some e => .error (.refused e)
    | none => .ok (k.record (.opened map))

/-- The number of polls of a map's ring that fail first. -/
def failingPolls (k : Kernel) (map : String) : Nat :=
  (k.faults.pollErrors.get? map).getD 0

/-- Releases an opened ring. -/
def releaseRing (k : Kernel) (map : String) : Kernel :=
  k.record (.released map)

/-- What becomes of a submitted record. -/
inductive SubmitAnswer where
  | published
  /-- The ring is full; nothing happened. -/
  | full
  | failed (e : ObjectError)
  /-- The thread that submitted the record has ended. -/
  | panicked
  deriving DecidableEq, Repr

/-- Submits a record to the ring of a map. -/
def submit (k : Kernel) (map : String) (b : Bytes) : SubmitAnswer × Kernel :=
  if b ∈ k.faults.submitPanics then (.panicked, k)
  else
    match k.faults.submitErrors.lookup b with
    | some e => (.failed e, k)
    | none =>
      match (k.rings.get? map).bind (·.push? b) with
      | some r => (.published, k.setRing map r)
      | none => (.full, k)

/-! ### The kernel's side -/

/-- Puts a record on a ring; false if the ring is full or there is none. -/
def produce (k : Kernel) (map : String) (b : Bytes) : Bool × Kernel :=
  match (k.rings.get? map).bind (·.push? b) with
  | some r => (true, k.setRing map r)
  | none => (false, k)

/-- Offers a task for placement. -/
def enqueueTask (k : Kernel) (t : Task) : Bool × Kernel :=
  k.produce Contract.queued t.encode

/-- Tells of a task exit. -/
def emitExit (k : Kernel) (payload : Bytes) : Bool × Kernel :=
  k.produce Contract.exit payload

/-- The records waiting in the ring of a map. -/
def waiting (k : Kernel) (map : String) : List Bytes :=
  ((k.rings.get? map).map Ring.records).getD []

/-- Takes the oldest dispatch decision. -/
def takeDispatched (k : Kernel) : Option (Bytes × Kernel) :=
  match (k.rings.get? Contract.dispatched).bind Ring.pop? with
  | some (b, r) => some (b, k.setRing Contract.dispatched r)
  | none => none

/-- Replaces the body of a subprogram. -/
def setSubprogram (k : Kernel) (name : String) (body : Subprogram) : Kernel :=
  { k with subprograms := k.subprograms.set name body }

/-- Replaces the value of a map. -/
def setValue (k : Kernel) (map : String) (value : Bytes) : Kernel :=
  { k with values := k.values.set map value }

/-- Makes attaching a program or map fail, or work, from now on. -/
def setAttachFailure (k : Kernel) (name : String) (failing : Bool) : Kernel :=
  let others := k.failingAttach.filter (· != name)
  { k with failingAttach := if failing then name :: others else others }

end Kernel

end SchedPlane
