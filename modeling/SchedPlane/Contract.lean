/-
SchedPlane/Contract.lean

The named contract with the kernel program, and the default sizes and intervals of
the channels.  Names are matched exactly; the two state regions are named after the
module of the object.
-/

namespace SchedPlane

namespace Contract

/-! ### Names of maps -/

/-- The module name assumed when none is configured. -/
def moduleName : String := "main_bpf"

/-- The suffix of the region of zero-initialised state. -/
def bssSuffix : String := ".bss"

/-- The suffix of the region of initialised state. -/
def dataSuffix : String := ".data"

/-- The ring that offers queued tasks. -/
def queued : String := "queued"

/-- The ring that takes dispatch decisions. -/
def dispatched : String := "dispatched"

/-- The ring that tells of task exits. -/
def exit : String := "exit_rb"

/-- The label of the scheduler's attach point, which is found by its kind. -/
def structOpsRole : String := "<struct_ops>"

/-! ### Names of programs -/

/-- The CPU selection subprogram. -/
def selectCpu : String := "rs_select_cpu"

/-- The sibling relation subprogram. -/
def siblingCpu : String := "enable_sibling_cpu"

/-- The probes that are attached where the object has them. -/
def probes : List String := ["kprobe_handle_mm_fault", "kretprobe_handle_mm_fault"]

/-! ### Environment -/

/-- The path of the scheduling object. -/
def envObjectPath : String := "SCHED_OBJECT_PATH"

/-- The module name of the object. -/
def envModuleName : String := "SCHED_MODULE_NAME"

/-- The memory residency policy. -/
def envMemlock : String := "SCHED_MEMLOCK"

/-- Whether log lines are written as JSON. -/
def envTraceJson : String := "SCHED_TRACE_JSON"

end Contract

namespace Limits

/-! ### Intervals, in microseconds -/

/-- The poll timeout of the queued-task ring. -/
def queuedPollMicros : Nat := 50000

/-- The poll timeout of the exit-event ring. -/
def exitPollMicros : Nat := 300000

/-- The wait of the flush thread for a decision. -/
def dispatchFlushMicros : Nat := 50000

/-- The pause of the flush thread while the kernel's buffer is full. -/
def dispatchBackoffMicros : Nat := 200

/-- The longest wait for room in a full queue before the stop flag is looked at. -/
def backpressureMicros : Nat := 10000

/-! ### Capacities, in items -/

/-- The queue of tasks waiting for placement. -/
def queuedCapacity : Nat := 4096

/-- The queue of exit events. -/
def exitCapacity : Nat := 256

/-- The queue of decisions waiting to be flushed. -/
def dispatchCapacity : Nat := 4096

end Limits

end SchedPlane
