/-
SchedPlane/CommandLine.lean

The command line: it sets up logging, reads the configuration, locks memory, loads the
scheduling object over the simulated kernel, attaches it, runs the placement loop until
it is interrupted, and closes.  `CommandLine.run` is the whole run as a function of the
environment, the arguments and the outcome of the lock request; its result holds the
exit code, what goes to standard error, and the log.

Log lines of the poll and flush threads are left out; the others come in a fixed order.
-/
import SchedPlane.Controller
import SchedPlane.Deployment
import SchedPlane.Json.Forms
import SchedPlane.Json.Writer
import SchedPlane.Kernel.Blueprint
import SchedPlane.Log

namespace SchedPlane.CommandLine

/-! ### Logging -/

/-- What a program's environment says about logging. -/
structure Logging where
  filter : LogFilter
  /-- Whether lines are written as JSON. -/
  json : Bool
  deriving DecidableEq, Repr

/-- The variable that holds the log filter. -/
def envFilter : String := "RUST_LOG"

/-- The logging that an environment asks for. -/
def Logging.ofLookup (lookup : String → Option String) : Logging where
  filter := .ofVariable (lookup envFilter)
  json := lookup Contract.envTraceJson ∈ [some "1", some "true"]

/-- The lines that pass the filter. -/
def Logging.visible (l : Logging) (lines : List LogLine) : List LogLine :=
  lines.filter l.filter.allows

/-- The line that the installation of logging writes. -/
def installed : LogLine where
  level := .info
  target := "schedctl::monitoring::tracer"
  message := "Tracing initialized"

/-- Installing logging so many times in one process: only the first time succeeds, and writes
its line. -/
def install (times : Nat) : List Bool × List LogLine :=
  ((List.range times).map (· == 0), if times = 0 then [] else [installed])

/-! ### The lines of each step -/

/-- A line of the main program. -/
def mainLine (level : LogLevel) (message : String) : LogLine :=
  { level, target := "schedctl", message }

/-- A line of the controller, with its details. -/
def controllerLine (level : LogLevel) (message : String)
    (details : List (String × String) := []) : LogLine :=
  { level, target := "schedctl::controller::manager", message, details }

/-- A line of the handle. -/
def handleLine (level : LogLevel) (message : String) : LogLine :=
  { level, target := "schedctl::controller::handle", message }

/-- A line about a worker. -/
def workerLine (message : String) : LogLine :=
  { level := .debug, target := "schedctl::core::worker", message }

/-- A line of an event channel. -/
def eventLine (message : String) : LogLine :=
  { level := .info, target := "schedctl::channels::event", message }

/-- A line of the dispatch channel. -/
def dispatchLine (message : String) : LogLine :=
  { level := .info, target := "schedctl::channels::dispatch", message }

/-- The line that sets sections apart. -/
def divider : LogLine :=
  mainLine .info "================================================"

/-- The line that tells of the interrupt. -/
def interrupted : LogLine :=
  mainLine .info "Interrupt received, shutting down..."

/-- The line that goes with the final statistics. -/
def finalStatistics : LogLine :=
  mainLine .info "Final statistics"

/-- The lines of the residency step, which has succeeded. -/
def residencyLines (r : Residency) : List LogLine :=
  let line (level : LogLevel) (message : String) : LogLine :=
    { level, target := "schedctl::core::memory", message }
  if r.locked then [line .info "Process memory locked resident (current and future)"]
  else if r.policy = .disabled then
    [line .warn "Memory residency disabled, call-outs may stall on page faults"]
  else [line .warn "Failed to lock process memory, continuing"]

/-- The lines about maps that the registry ignores. -/
def ignoredLines (module : String) (maps : List MapInfo) : List LogLine :=
  (maps.filter fun m => (MapRole.ofMap module m).isNone).map fun _ =>
    { level := .debug
      target := "schedctl::controller::registry"
      message := "Ignoring unrecognized map" }

/-- The line at the start of a load. -/
def loadingLine (artifact : Artifact) : LogLine :=
  controllerLine .info "Loading scheduling object" [("artifact", artifact.describe)]

/-- The lines of a load of an artifact that succeeds. -/
def loadedLines (artifact : Artifact) (k : Kernel) (h : Handle) : List LogLine :=
  loadingLine artifact ::
    k.maps.map (fun _ => controllerLine .info "Map") ++
    ignoredLines h.registry.module k.maps ++
    h.registry.probes.map (fun _ => controllerLine .info "Probe attached") ++
    [workerLine "Worker started", eventLine "Event channel started",
      workerLine "Worker started", eventLine "Event channel started",
      workerLine "Worker started", dispatchLine "Dispatch channel started",
      controllerLine .info "Scheduling object loaded"]

/-- The lines of a load of an artifact whose object breaks the contract. -/
def rejectedLines (module : String) (artifact : Artifact) (k : Kernel) (e : ControlError) :
    List LogLine :=
  loadingLine artifact ::
    k.maps.map (fun _ => controllerLine .info "Map") ++ ignoredLines module k.maps ++
    [controllerLine .error "Object does not satisfy the scheduler contract"
      [("error", e.message)]]

/-- The lines of closing a handle. -/
def closingLines (h : Handle) : List LogLine :=
  [handleLine .info "Closing scheduler",
    workerLine "Worker stopped", eventLine "Event channel closed",
    workerLine "Worker stopped", dispatchLine "Dispatch channel closed",
    workerLine "Worker stopped", eventLine "Event channel closed"] ++
    (if h.scheduler.isSome then [handleLine .info "Scheduler detached"] else []) ++
    [handleLine .info "Scheduler closed"]

/-! ### Runs -/

/-- A run of the program as far as it has come, and its result. -/
structure Run where
  /-- The exit code. -/
  exit : Nat
  /-- What goes to standard error. -/
  stderr : String
  log : List LogLine
  /-- The statistics of the closed handle, if the run came to that. -/
  stats : Option SchedulerStats
  deriving DecidableEq, Repr

/-- Indents the further lines of a text. -/
def indent (text : String) : String :=
  String.intercalate "\n    " (text.splitOn "\n")

/-- A run that fails with an error in a context. -/
def failed (log : List LogLine) (context : String) (e : ControlError) : Run where
  exit := 1
  stderr := "Error: " ++ context ++ "\n\nCaused by:\n    " ++ indent e.message ++ "\n"
  log := log
  stats := none

/-- A run that fails with an error alone. -/
def failedBare (log : List LogLine) (e : ControlError) : Run where
  exit := 1
  stderr := "Error: " ++ e.message ++ "\n"
  log := log
  stats := none

/-- The configuration of a run: the environment, and the object named by the first
argument. -/
def configure (lookup : String → Option String) (args : List String) :
    Except ControlError Config :=
  (Config.ofLookup lookup).map fun c =>
    match args.head? with
    | some path => c.withObjectPath path
    | none => c

/-- The part of a run from the attach to the end, which an interrupt brings about. -/
def serve (log : List LogLine) (k : Kernel) (h : Handle) : Run :=
  let log := log ++ [mainLine .info "Attaching scheduler..."]
  match h.attach k with
  | (.error e, _, h) =>
    failed (log ++ closingLines h) "failed to attach scheduler" e
  | (.ok (), k, h) =>
    let running : Deployment := Deployment.settle { kernel := k, handle := h, loop := some {} }
    let ended := running.close
    { exit := 0
      stderr := ""
      log := log ++ [handleLine .info "Scheduler attached", divider,
        mainLine .info "Scheduler active, press Ctrl-C to stop", interrupted] ++
        closingLines running.handle ++
        [finalStatistics, mainLine .info "Placement loop finished",
          handleLine .debug "Scheduler already closed"]
      stats := some ended.handle.stats }

/-- A run of the program over an object of the simulated kernel. -/
def runOver (k : Kernel) (lookup : String → Option String) (args : List String)
    (outcome : LockOutcome) : Run :=
  let log := [installed, mainLine .info "schedctl starting...", divider]
  match configure lookup args with
  | .error e => failed log "invalid configuration" e
  | .ok config =>
    let log := log ++ [mainLine .info "Establishing memory residency..."]
    match Residency.establish config.residency outcome with
    | .error e => failedBare log e
    | .ok residency =>
      let log := log ++ residencyLines residency ++
        [mainLine .warn
          "Built without libbpf support, using the simulation backend (dry run)",
          controllerLine .info "Scheduler controller initialized"
            [("module", config.moduleName)],
          mainLine .info "Loading scheduling object..."]
      match config.artifact with
      | .error e => failed log "failed to load scheduler" e
      | .ok artifact =>
        match ({ config, residency } : Controller).load k artifact with
        | (.error e, k) =>
          failed (log ++ rejectedLines config.moduleName artifact k e)
            "failed to load scheduler" e
        | (.ok h, k) => serve (log ++ loadedLines artifact k h) k h

/-- A run of the program over the object that the contract of the assumed module asks for. -/
def run (lookup : String → Option String) (args : List String) (outcome : LockOutcome) : Run :=
  runOver (Blueprint.standard.build {}) lookup args outcome

/-- The lines of a run that its environment lets through. -/
def Run.visible (r : Run) (l : Logging) : List LogLine :=
  l.visible r.log

/-- The statistics that a run writes out: only as JSON, and only if their line passes. -/
def Run.writtenStats (r : Run) (l : Logging) : Option SchedulerStats :=
  if l.json && l.filter.allows finalStatistics then r.stats else none

/-! ### Writing lines -/

/-- The fields of a line: its message and details, and the statistics where it goes with
them. -/
def lineFields (l : LogLine) (stats : Option SchedulerStats) : List (String × String) :=
  let own := ("message", l.message) :: l.details
  match stats with
  | some s => if l = finalStatistics then own ++ [("stats", (toJson s).render)] else own
  | none => own

/-- The written form of a line as JSON. -/
def renderJson (l : LogLine) (stats : Option SchedulerStats) : String :=
  (Json.record
    [("level", .str l.level.label),
      ("fields", .record ((lineFields l stats).map fun f => (f.1, .str f.2))),
      ("target", .str l.target)]).render

/-- The written form of a line as text.  Details stand as they are, so a line end in one of
them makes another line of text. -/
def renderText (l : LogLine) : String :=
  l.level.label ++ " " ++ l.target ++ ": " ++ l.message ++
    String.join (l.details.map fun d => " " ++ d.1 ++ "=" ++ d.2)

/-- The number of lines of text that log lines are written as. -/
def textLines (lines : List LogLine) : Nat :=
  lines.foldl (fun n l => n + ((renderText l).splitOn "\n").length) 0

/-- The written form of a line. -/
def renderLine (l : LogLine) (json : Bool) (stats : Option SchedulerStats) : String :=
  if json then renderJson l stats else renderText l

end SchedPlane.CommandLine
