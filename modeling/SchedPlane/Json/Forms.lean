/-
SchedPlane/Json/Forms.lean

The JSON forms of the domain: records by their field names, kinds and states by their
names, selections and control errors as a tag beside a payload, object errors as a tag
among their fields.  Every form is read back as the value it was written from.
-/
import SchedPlane.Selection
import SchedPlane.Config
import SchedPlane.Registry
import SchedPlane.Stats
import SchedPlane.Json.Form

namespace SchedPlane

open Json (record str)

/-! ### Records of the wire -/

instance : Form Task where
  toJson t := record [("pid", toJson t.pid), ("cpu", toJson t.cpu), ("flags", toJson t.flags)]
  ofJson? j :=
    match j.columns? ["pid", "cpu", "flags"] with
    | some [some pid, some cpu, some flags] => do
      let pid ← pid.as? Int32
      let cpu ← cpu.as? Int32
      let flags ← flags.as? UInt64
      return ⟨pid, cpu, flags⟩
    | _ => none

instance : Form Relation where
  toJson r := record
    [("level_id", toJson r.level), ("cpu_id", toJson r.cpu),
      ("sibling_cpu_id", toJson r.sibling)]
  ofJson? j :=
    match j.columns? ["level_id", "cpu_id", "sibling_cpu_id"] with
    | some [some level, some cpu, some sibling] => do
      let level ← level.as? Int32
      let cpu ← cpu.as? Int32
      let sibling ← sibling.as? Int32
      return ⟨level, cpu, sibling⟩
    | _ => none

instance : Form Decision where
  toJson d := toJson d.bytes
  ofJson? j := (j.as? (List UInt8)).map Decision.mk

instance : Form ExitEvent where
  toJson e := toJson e.bytes
  ofJson? j := (j.as? (List UInt8)).map ExitEvent.mk

/-! ### Kinds and states -/

instance : Form MapKind where
  toJson
    | .array => str "array"
    | .hash => str "hash"
    | .ringBuf => str "ring_buf"
    | .userRingBuf => str "user_ring_buf"
    | .structOps => str "struct_ops"
    | .other raw => record [("other", toJson raw)]
  ofJson? j :=
    match j with
    | .obj [(some "other", raw)] => (raw.as? UInt32).map MapKind.other
    | j =>
      match j.variantName? with
      | some "array" => some .array
      | some "hash" => some .hash
      | some "ring_buf" => some .ringBuf
      | some "user_ring_buf" => some .userRingBuf
      | some "struct_ops" => some .structOps
      | _ => none

instance : Form ProgramKind where
  toJson
    | .kprobe => str "kprobe"
    | .structOps => str "struct_ops"
    | .syscall => str "syscall"
    | .tracing => str "tracing"
    | .other => str "other"
  ofJson? j :=
    match j.variantName? with
    | some "kprobe" => some .kprobe
    | some "struct_ops" => some .structOps
    | some "syscall" => some .syscall
    | some "tracing" => some .tracing
    | some "other" => some .other
    | _ => none

instance : Form Lifecycle where
  toJson s := str s.label
  ofJson? j :=
    match j.variantName? with
    | some "unloaded" => some .unloaded
    | some "loaded" => some .loaded
    | some "attached" => some .attached
    | some "closed" => some .closed
    | _ => none

instance : Form StateRegion where
  toJson
    | .bss => str "bss"
    | .data => str "data"
  ofJson? j :=
    match j.variantName? with
    | some "bss" => some .bss
    | some "data" => some .data
    | _ => none

instance : Form ResidencyPolicy where
  toJson
    | .required => str "required"
    | .bestEffort => str "best_effort"
    | .disabled => str "disabled"
  ofJson? j :=
    match j.variantName? with
    | some "required" => some .required
    | some "best_effort" => some .bestEffort
    | some "disabled" => some .disabled
    | _ => none

/-! ### Selections -/

instance : Form Selection where
  toJson
    | .specific cpu => record [("kind", str "specific"), ("cpu", toJson cpu)]
    | .any => record [("kind", str "any")]
  ofJson? j :=
    match j.adjacent? "kind" "cpu" with
    | some ("specific", some cpu) => (cpu.as? Int32).map Selection.specific
    | some ("any", none) => some .any
    | some ("any", some .null) => some .any
    | _ => none

/-! ### Objects -/

instance : Form MapInfo where
  toJson m := record [("name", toJson m.name), ("kind", toJson m.kind), ("fd", toJson m.fd)]
  ofJson? j :=
    match j.columns? ["name", "kind", "fd"] with
    | some [some name, some kind, some fd] => do
      let name ← name.as? String
      let kind ← kind.as? MapKind
      let fd ← fd.as? Int32
      return ⟨name, kind, fd⟩
    | _ => none

instance : Form ProgramInfo where
  toJson p := record [("name", toJson p.name), ("kind", toJson p.kind)]
  ofJson? j :=
    match j.columns? ["name", "kind"] with
    | some [some name, some kind] => do
      let name ← name.as? String
      let kind ← kind.as? ProgramKind
      return ⟨name, kind⟩
    | _ => none

instance : Form Registry where
  toJson r := record
    [("module", toJson r.module), ("bss", toJson r.bss), ("data", toJson r.data),
      ("queued", toJson r.queued), ("dispatched", toJson r.dispatched), ("exit", toJson r.exit),
      ("struct_ops", toJson r.structOps), ("select_cpu", toJson r.selectCpu),
      ("sibling_cpu", toJson r.siblingCpu), ("probes", toJson r.probes)]
  ofJson? j :=
    match j.columns? ["module", "bss", "data", "queued", "dispatched", "exit", "struct_ops",
      "select_cpu", "sibling_cpu", "probes"] with
    | some [some module, some bss, some data, some queued, some dispatched, some exit,
        some structOps, some selectCpu, some siblingCpu, some probes] => do
      let module ← module.as? String
      let bss ← bss.as? MapInfo
      let data ← data.as? MapInfo
      let queued ← queued.as? MapInfo
      let dispatched ← dispatched.as? MapInfo
      let exit ← exit.as? MapInfo
      let structOps ← structOps.as? MapInfo
      let selectCpu ← selectCpu.as? ProgramInfo
      let siblingCpu ← siblingCpu.as? ProgramInfo
      let probes ← probes.as? (List ProgramInfo)
      return { module, bss, data, queued, dispatched, exit, structOps, selectCpu, siblingCpu,
               probes }
    | _ => none

/-! ### Configuration and statistics -/

instance : Form Tuning where
  toJson t := record [("interval", toJson t.interval), ("capacity", toJson t.capacity)]
  ofJson? j :=
    match j.columns? ["interval", "capacity"] with
    | some [some interval, some capacity] => do
      let interval ← interval.as? UInt64
      let capacity ← capacity.as? UInt64
      return ⟨interval, capacity⟩
    | _ => none

instance : Form Config where
  toJson c := record
    [("object_path", toJson c.objectPath), ("module_name", toJson c.moduleName),
      ("residency", toJson c.residency), ("queued", toJson c.queued), ("exit", toJson c.exit),
      ("dispatch", toJson c.dispatch)]
  ofJson? j :=
    match j.columns? ["object_path", "module_name", "residency", "queued", "exit",
      "dispatch"] with
    | some [objectPath, some moduleName, some residency, some queued, some exit,
        some dispatch] => do
      let objectPath ← (objectPath.getD .null).as? (Option String)
      let moduleName ← moduleName.as? String
      let residency ← residency.as? ResidencyPolicy
      let queued ← queued.as? Tuning
      let exit ← exit.as? Tuning
      let dispatch ← dispatch.as? Tuning
      return { objectPath, moduleName, residency, queued, exit, dispatch }
    | _ => none

instance : Form ChannelStats where
  toJson s := record
    [("received", toJson s.received), ("delivered", toJson s.delivered),
      ("malformed", toJson s.malformed), ("discarded", toJson s.discarded),
      ("stalls", toJson s.stalls), ("queued", toJson s.queued)]
  ofJson? j :=
    match j.columns? ["received", "delivered", "malformed", "discarded", "stalls",
      "queued"] with
    | some [some received, some delivered, some malformed, some discarded, some stalls,
        some queued] => do
      let received ← received.as? UInt64
      let delivered ← delivered.as? UInt64
      let malformed ← malformed.as? UInt64
      let discarded ← discarded.as? UInt64
      let stalls ← stalls.as? UInt64
      let queued ← queued.as? UInt64
      return { received, delivered, malformed, discarded, stalls, queued }
    | _ => none

instance : Form CallStats where
  toJson s := record
    [("invocations", toJson s.invocations), ("failures", toJson s.failures)]
  ofJson? j :=
    match j.columns? ["invocations", "failures"] with
    | some [some invocations, some failures] => do
      let invocations ← invocations.as? UInt64
      let failures ← failures.as? UInt64
      return { invocations, failures }
    | _ => none

instance : Form CalloutStats where
  toJson s := record
    [("select_cpu", toJson s.selectCpu), ("sibling_cpu", toJson s.siblingCpu)]
  ofJson? j :=
    match j.columns? ["select_cpu", "sibling_cpu"] with
    | some [some selectCpu, some siblingCpu] => do
      let selectCpu ← selectCpu.as? CallStats
      let siblingCpu ← siblingCpu.as? CallStats
      return { selectCpu, siblingCpu }
    | _ => none

instance : Form SchedulerStats where
  toJson s := record
    [("state", toJson s.state), ("backend", toJson s.backend),
      ("memory_locked", toJson s.memoryLocked), ("queued", toJson s.queued),
      ("exits", toJson s.exits), ("dispatch", toJson s.dispatch),
      ("callouts", toJson s.callouts)]
  ofJson? j :=
    match j.columns? ["state", "backend", "memory_locked", "queued", "exits", "dispatch",
      "callouts"] with
    | some [some state, some backend, some memoryLocked, some queued, some exits,
        some dispatch, some callouts] => do
      let state ← state.as? Lifecycle
      let backend ← backend.as? String
      let memoryLocked ← memoryLocked.as? Bool
      let queued ← queued.as? ChannelStats
      let exits ← exits.as? ChannelStats
      let dispatch ← dispatch.as? ChannelStats
      let callouts ← callouts.as? CalloutStats
      return { state, backend, memoryLocked, queued, exits, dispatch, callouts }
    | _ => none

/-! ### Object errors -/

/-- The tag of an object error. -/
def ObjectError.tag : ObjectError → String
  | .loadFailed _ => "load_failed"
  | .attachFailed _ => "attach_failed"
  | .detachFailed _ => "detach_failed"
  | .mapError _ => "map_error"
  | .programNotFound _ => "program_not_found"
  | .mapNotFound _ => "map_not_found"
  | .runFailed _ => "run_failed"
  | .unloaded => "unloaded"
  | .notAvailable => "not_available"

/-- The fields of an object error beside its tag. -/
def ObjectError.fields : ObjectError → List (String × Json)
  | .loadFailed reason => [("reason", toJson reason)]
  | .attachFailed reason => [("reason", toJson reason)]
  | .detachFailed reason => [("reason", toJson reason)]
  | .mapError reason => [("reason", toJson reason)]
  | .programNotFound name => [("name", toJson name)]
  | .mapNotFound name => [("name", toJson name)]
  | .runFailed reason => [("reason", toJson reason)]
  | .unloaded => []
  | .notAvailable => []

/-- The only field of a variant, a text. -/
def Json.soleText? (name : String) (j : Json) : Option String :=
  match j.columns? [name] with
  | some [some value] => value.as? String
  | _ => none

/-- Whether what stands beside a tag suits a variant without fields: any fields of an
object, but no items of an array. -/
def Json.isBare : Json → Bool
  | .arr items => items.isEmpty
  | _ => true

instance : Form ObjectError where
  toJson e := record (("error_type", str e.tag) :: e.fields)
  ofJson? j :=
    match j.internal? "error_type" with
    | some ("load_failed", rest) => (rest.soleText? "reason").map .loadFailed
    | some ("attach_failed", rest) => (rest.soleText? "reason").map .attachFailed
    | some ("detach_failed", rest) => (rest.soleText? "reason").map .detachFailed
    | some ("map_error", rest) => (rest.soleText? "reason").map .mapError
    | some ("program_not_found", rest) => (rest.soleText? "name").map .programNotFound
    | some ("map_not_found", rest) => (rest.soleText? "name").map .mapNotFound
    | some ("run_failed", rest) => (rest.soleText? "reason").map .runFailed
    | some ("unloaded", rest) => if rest.isBare then some .unloaded else none
    | some ("not_available", rest) => if rest.isBare then some .notAvailable else none
    | _ => none

/-! ### Control errors -/

/-- The tag of a control error. -/
def ControlError.tag : ControlError → String
  | .load _ => "load"
  | .duplicateResource _ => "duplicate_resource"
  | .missingResources _ => "missing_resources"
  | .probeAttach .. => "probe_attach"
  | .attach _ => "attach"
  | .invalidTransition .. => "invalid_transition"
  | .subprogramUnavailable _ => "subprogram_unavailable"
  | .invocation .. => "invocation"
  | .domainConfig _ => "domain_config"
  | .stateRead .. => "state_read"
  | .channel _ => "channel"
  | .closed => "closed"
  | .memoryLock _ => "memory_lock"
  | .config _ => "config"

/-- The payload of a control error, if it has one. -/
def ControlError.details : ControlError → Option Json
  | .load reason => some (toJson reason)
  | .duplicateResource name => some (record [("name", toJson name)])
  | .missingResources names => some (record [("names", toJson names)])
  | .probeAttach name reason => some (record [("name", toJson name), ("reason", toJson reason)])
  | .attach reason => some (toJson reason)
  | .invalidTransition source target =>
    some (record [("from", toJson source), ("to", toJson target)])
  | .subprogramUnavailable name => some (record [("name", toJson name)])
  | .invocation name reason => some (record [("name", toJson name), ("reason", toJson reason)])
  | .domainConfig code => some (record [("code", toJson code)])
  | .stateRead name reason => some (record [("name", toJson name), ("reason", toJson reason)])
  | .channel reason => some (toJson reason)
  | .closed => none
  | .memoryLock reason => some (toJson reason)
  | .config reason => some (toJson reason)

/-- The only field of a payload. -/
def Json.soleField? (α : Type) [Form α] (name : String) (j : Json) : Option α :=
  match j.objectColumns? [name] with
  | some [some value] => value.as? α
  | _ => none

/-- The two fields of a payload, both texts. -/
def Json.twoTexts? (first second : String) (j : Json) : Option (String × String) :=
  match j.objectColumns? [first, second] with
  | some [some a, some b] => do
    let a ← a.as? String
    let b ← b.as? String
    return (a, b)
  | _ => none

instance : Form ControlError where
  toJson e :=
    match e.details with
    | some details => record [("error_type", str e.tag), ("details", details)]
    | none => record [("error_type", str e.tag)]
  ofJson? j :=
    match j.adjacent? "error_type" "details" with
    | some ("load", some d) => (d.as? String).map .load
    | some ("duplicate_resource", some d) => (d.soleField? String "name").map .duplicateResource
    | some ("missing_resources", some d) =>
      (d.soleField? (List String) "names").map .missingResources
    | some ("probe_attach", some d) =>
      (d.twoTexts? "name" "reason").map fun p => .probeAttach p.1 p.2
    | some ("attach", some d) => (d.as? String).map .attach
    | some ("invalid_transition", some d) =>
      (d.twoTexts? "from" "to").map fun p => .invalidTransition p.1 p.2
    | some ("subprogram_unavailable", some d) =>
      (d.soleField? String "name").map .subprogramUnavailable
    | some ("invocation", some d) =>
      (d.twoTexts? "name" "reason").map fun p => .invocation p.1 p.2
    | some ("domain_config", some d) => (d.soleField? UInt32 "code").map .domainConfig
    | some ("state_read", some d) =>
      (d.twoTexts? "name" "reason").map fun p => .stateRead p.1 p.2
    | some ("channel", some d) => (d.as? String).map .channel
    | some ("closed", none) => some .closed
    | some ("closed", some .null) => some .closed
    | some ("memory_lock", some d) => (d.as? String).map .memoryLock
    | some ("config", some d) => (d.as? String).map .config
    | _ => none

end SchedPlane
