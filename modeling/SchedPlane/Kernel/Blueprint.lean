/-
SchedPlane/Kernel/Blueprint.lean

Blueprints of simulated objects.  A blueprint lists programs, maps, subprogram bodies and
map values, and says which attaches and loads fail and how much a ring holds;
`Blueprint.build` numbers the maps with file descriptors and gives every ring map a ring.
`Blueprint.contract` has every resource the controller recognises.
-/
import SchedPlane.Kernel.Basic

namespace SchedPlane

/-- The plan of a simulated object. -/
structure Blueprint where
  programs : List ProgramInfo := []
  maps : List (String × MapKind) := []
  subprograms : Table Subprogram := []
  values : Table Bytes := []
  failingAttach : List String := []
  ringCapacity : Nat := 1024
  loadRefusal : Option String := none

namespace Blueprint

/-- Adds a program. -/
def program (p : Blueprint) (name : String) (kind : ProgramKind) : Blueprint :=
  { p with programs := p.programs ++ [⟨name, kind⟩] }

/-- Adds a map. -/
def map (p : Blueprint) (name : String) (kind : MapKind) : Blueprint :=
  { p with maps := p.maps ++ [(name, kind)] }

/-- Removes the programs and maps of a name. -/
def without (p : Blueprint) (name : String) : Blueprint :=
  { p with
    programs := p.programs.filter (·.name != name)
    maps := p.maps.filter (·.1 != name) }

/-- Sets the body of a subprogram. -/
def subprogram (p : Blueprint) (name : String) (body : Subprogram) : Blueprint :=
  { p with subprograms := p.subprograms.set name body }

/-- Sets the value of a map. -/
def mapValue (p : Blueprint) (name : String) (value : Bytes) : Blueprint :=
  { p with values := p.values.set name value }

/-- Makes attaching a program or map fail. -/
def withFailingAttach (p : Blueprint) (name : String) : Blueprint :=
  { p with failingAttach := name :: p.failingAttach }

/-- Makes the load fail. -/
def withFailingLoad (p : Blueprint) (reason : String) : Blueprint :=
  { p with loadRefusal := some reason }

/-- Sets the records every ring holds: at least one. -/
def withRingCapacity (p : Blueprint) (capacity : Nat) : Blueprint :=
  { p with ringCapacity := max 1 capacity }

/-! ### The contract -/

/-- CPU selection that keeps a task where it is: the word of the task's CPU field. -/
def keepCpu : Subprogram := fun context =>
  match Task.decode context with
  | .ok t => .ok t.cpu.toUInt32
  | .error e => .error (.runFailed e.message)

/-- The sibling subprogram that accepts every relation. -/
def acceptRelation : Subprogram := fun _ => .ok 0

/-- An object with every resource the controller recognises, and some it ignores. -/
def contract (module : String) : Blueprint where
  programs :=
    [⟨"rustland_enqueue", .structOps⟩, ⟨Contract.selectCpu, .syscall⟩,
      ⟨Contract.siblingCpu, .syscall⟩] ++ Contract.probes.map (⟨·, .kprobe⟩)
  maps :=
    [(module ++ Contract.bssSuffix, .array), (module ++ Contract.dataSuffix, .array),
      (module ++ ".rodata", .array), (Contract.queued, .ringBuf),
      (Contract.dispatched, .userRingBuf), (Contract.exit, .ringBuf),
      ("sched_ops", .structOps)]
  subprograms := [(Contract.selectCpu, keepCpu), (Contract.siblingCpu, acceptRelation)]

/-- The object that the contract of the assumed module asks for. -/
def standard : Blueprint := contract Contract.moduleName

/-! ### Building -/

/-- The maps of a plan, numbered with file descriptors: the first three are taken. -/
def mapInfos (fd : Nat) : List (String × MapKind) → List MapInfo
  | [] => []
  | (name, kind) :: rest => ⟨name, kind, Int32.ofNat fd⟩ :: mapInfos (fd + 1) rest

/-- A ring of a capacity for every map that has one; maps of one name share theirs. -/
def ringTable (capacity : Nat) (maps : List (String × MapKind)) : Table Ring :=
  (maps.filter fun m => m.2.isRing).foldl (fun t m => t.set m.1 { capacity }) []

/-- The kernel that holds the planned object. -/
def build (p : Blueprint) (faults : Faults := {}) : Kernel where
  programs := p.programs
  maps := mapInfos 3 p.maps
  subprograms := p.subprograms
  rings := ringTable p.ringCapacity p.maps
  values := p.values
  failingAttach := p.failingAttach
  loadRefusal := p.loadRefusal
  faults := faults

end Blueprint

end SchedPlane
