/-
SchedPlane/Registry.lean

The binding of an object's maps and programs to the roles of the contract.  Every entry
of the enumeration is classified by one role at most: a struct-ops map by its kind, any
other entry by its name.  A role is bound once, a ring must have the right kind, and
the registry exists only if every required role is filled, so its fields are never
empty.  The first offending entry decides the error; only if there is none are the
missing roles reported, all together and in a fixed order.
-/
import SchedPlane.Contract
import SchedPlane.Lifecycle

namespace SchedPlane

/-! ### Roles -/

/-- The roles that maps fill. -/
inductive MapRole where
  | bss | data | queued | dispatched | exit | structOps
  deriving DecidableEq, Repr

namespace MapRole

/-- The name of a role in the object of a module. -/
def label (module : String) : MapRole → String
  | .bss => module ++ Contract.bssSuffix
  | .data => module ++ Contract.dataSuffix
  | .queued => Contract.queued
  | .dispatched => Contract.dispatched
  | .exit => Contract.exit
  | .structOps => Contract.structOpsRole

/-- The kind that a map must have for its role, where the name alone does not decide. -/
def requiredKind : MapRole → Option MapKind
  | .queued => some .ringBuf
  | .dispatched => some .userRingBuf
  | .exit => some .ringBuf
  | _ => none

/-- The role that a map fills, if any: its kind goes before its name, and the state
regions before the rings. -/
def ofMap (module : String) (m : MapInfo) : Option MapRole :=
  if m.kind = .structOps then some .structOps
  else [bss, data, queued, dispatched, exit].find? fun role => m.name = role.label module

end MapRole

/-- The roles that programs fill. -/
inductive ProgramRole where
  | selectCpu | siblingCpu | probe
  deriving DecidableEq, Repr

/-- The role that a program fills, if any. -/
def ProgramRole.ofProgram (p : ProgramInfo) : Option ProgramRole :=
  if p.name = Contract.selectCpu then some .selectCpu
  else if p.name = Contract.siblingCpu then some .siblingCpu
  else if p.name ∈ Contract.probes then some .probe
  else none

/-! ### Binding -/

/-- The roles bound so far. -/
structure Bindings where
  bss : Option MapInfo := none
  data : Option MapInfo := none
  queued : Option MapInfo := none
  dispatched : Option MapInfo := none
  exit : Option MapInfo := none
  structOps : Option MapInfo := none
  selectCpu : Option ProgramInfo := none
  siblingCpu : Option ProgramInfo := none
  /-- In the order of enumeration. -/
  probes : List ProgramInfo := []
  deriving DecidableEq, Repr

namespace Bindings

/-- The map that fills a role. -/
def map (b : Bindings) : MapRole → Option MapInfo
  | .bss => b.bss
  | .data => b.data
  | .queued => b.queued
  | .dispatched => b.dispatched
  | .exit => b.exit
  | .structOps => b.structOps

/-- The bindings with a role filled by a map. -/
def setMap (b : Bindings) (m : MapInfo) : MapRole → Bindings
  | .bss => { b with bss := some m }
  | .data => { b with data := some m }
  | .queued => { b with queued := some m }
  | .dispatched => { b with dispatched := some m }
  | .exit => { b with exit := some m }
  | .structOps => { b with structOps := some m }

/-- The failure of a ring whose kind is wrong for its role. -/
def kindError (m : MapInfo) (expected : MapKind) : ControlError :=
  .load s!"map {m.name} has kind {m.kind.describe}, expected {expected.describe}"

/-- Binds a map to a role: first the kind has to be right, then the role free. -/
def bindRole (module : String) (b : Bindings) (m : MapInfo) (role : MapRole) :
    Except ControlError Bindings :=
  match role.requiredKind with
  | some expected =>
    if m.kind ≠ expected then .error (kindError m expected)
    else if (b.map role).isSome then .error (.duplicateResource (role.label module))
    else .ok (b.setMap m role)
  | none =>
    if (b.map role).isSome then .error (.duplicateResource (role.label module))
    else .ok (b.setMap m role)

/-- Takes the next map of the enumeration; one without a role changes nothing. -/
def addMap (module : String) (b : Bindings) (m : MapInfo) : Except ControlError Bindings :=
  match MapRole.ofMap module m with
  | some role => b.bindRole module m role
  | none => .ok b

/-- Takes the next program of the enumeration; one without a role changes nothing. -/
def addProgram (b : Bindings) (p : ProgramInfo) : Except ControlError Bindings :=
  match ProgramRole.ofProgram p with
  | some .selectCpu =>
    if b.selectCpu.isSome then .error (.duplicateResource p.name)
    else .ok { b with selectCpu := some p }
  | some .siblingCpu =>
    if b.siblingCpu.isSome then .error (.duplicateResource p.name)
    else .ok { b with siblingCpu := some p }
  | some .probe =>
    if p.name ∈ b.probes.map ProgramInfo.name then .error (.duplicateResource p.name)
    else .ok { b with probes := b.probes ++ [p] }
  | none => .ok b

/-- Takes all maps and then all programs, up to the first that offends. -/
def scan (module : String) (maps : List MapInfo) (programs : List ProgramInfo) :
    Except ControlError Bindings := do
  let b ← maps.foldlM (addMap module) {}
  programs.foldlM addProgram b

/-- The names of the roles that nothing fills, in the order they are reported. -/
def missing (module : String) (b : Bindings) : List String :=
  let absent {α : Type} (slot : Option α) (name : String) : List String :=
    if slot.isNone then [name] else []
  absent b.bss (MapRole.label module .bss) ++ absent b.data (MapRole.label module .data) ++
    absent b.queued (MapRole.label module .queued) ++
    absent b.dispatched (MapRole.label module .dispatched) ++
    absent b.exit (MapRole.label module .exit) ++
    absent b.structOps (MapRole.label module .structOps) ++
    absent b.selectCpu Contract.selectCpu ++ absent b.siblingCpu Contract.siblingCpu

end Bindings

/-! ### The registry -/

/-- The bound resources of a loaded scheduling object. -/
structure Registry where
  module : String
  bss : MapInfo
  data : MapInfo
  queued : MapInfo
  dispatched : MapInfo
  exit : MapInfo
  structOps : MapInfo
  selectCpu : ProgramInfo
  siblingCpu : ProgramInfo
  /-- The probes the object has, in the order of enumeration. -/
  probes : List ProgramInfo
  deriving DecidableEq, Repr

namespace Registry

/-- The registry of complete bindings. -/
def ofBindings (module : String) (b : Bindings) : Except ControlError Registry :=
  match b with
  | { bss := some bss, data := some data, queued := some queued,
      dispatched := some dispatched, exit := some exit, structOps := some structOps,
      selectCpu := some selectCpu, siblingCpu := some siblingCpu, probes } =>
    .ok { module, bss, data, queued, dispatched, exit, structOps, selectCpu, siblingCpu, probes }
  | b => .error (.missingResources (b.missing module))

/-- Binds an enumeration of maps and programs to the contract of a module. -/
def build (module : String) (maps : List MapInfo) (programs : List ProgramInfo) :
    Except ControlError Registry := do
  let b ← Bindings.scan module maps programs
  ofBindings module b

/-- The map of a state region. -/
def region (r : Registry) : StateRegion → MapInfo
  | .bss => r.bss
  | .data => r.data

end Registry

end SchedPlane
