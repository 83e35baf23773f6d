/-
SchedPlane/Session/Run.lean

Carrying out the commands of a session, one group of commands after the other:
the kernel's side, the bare object, event channels, the dispatch channel, call-outs, and
the controller with its handle.  `Session.perform` carries out one command and lets all
threads run until none can do anything more; `Session.run` carries out a list and
drops everything at its end.
-/
import SchedPlane.Session.State

namespace SchedPlane.Session

/-! ### The kernel's side -/

/-- Takes dispatch decisions until none is left, letting all threads run after each. -/
def drain : Nat → Session → List Bytes → List Bytes × Session
  | 0, s, taken => (taken.reverse, s)
  | bound + 1, s, taken =>
    match s.kernel.takeDispatched with
    | none => (taken.reverse, s)
    | some (b, kernel) => drain bound ({ s with kernel }.settle) (b :: taken)

/-- The records and items that could still come out of the dispatch ring. -/
def itemCount (s : Session) : Nat :=
  let rings := s.kernel.rings.foldl (fun n e => n + e.2.records.length) 0
  let streams := s.streams.foldl (fun n d => n + d.queue.length + 2) 0
  let handle :=
    (s.handle.map fun h => h.queued.queue.length + h.dispatch.queue.length + 4).getD 0
  rings + streams + handle + 4

/-! ### The bare object -/

/-- The answer of an operation without a value. -/
def Answer.ofObject : Except ObjectError Unit → Answer
  | .ok () => .ok
  | .error e => .objectError e

/-- Keeps a link under a name; one already there is dropped after that. -/
def keepLink (s : Session) (id : String) (r : Except ObjectError (Link × Kernel)) :
    Answer × Session :=
  match r with
  | .error e => (.objectError e, s)
  | .ok (link, k) =>
    let kernel := match s.links.get? id with
      | some old => k.release old
      | none => k
    (.ok, { s with kernel, links := s.links.set id link })

/-- The answer of a ring that fails to open by hand. -/
def Answer.ofOpenFailure : Kernel.OpenFailure → Answer
  | .refused e => .objectError e
  | .panicked => .objectError .notAvailable

/-- Opens a ring for reading by hand. -/
def openPoller (s : Session) (id : String) : Answer × Session :=
  match s.sources.get? id with
  | none => (.absent .source, s)
  | some map =>
    let s := { s with sources := s.sources.erase id }
    match s.kernel.openRing map with
    | .error e => (.ofOpenFailure e, s)
    | .ok k =>
      let kernel := match s.pollers.get? id with
        | some old => k.releaseRing old.map
        | none => k
      (.ok, { s with kernel, pollers := s.pollers.set id ⟨map, k.failingPolls map⟩ })

/-- Opens a ring for writing by hand. -/
def openWriter (s : Session) (id : String) : Answer × Session :=
  match s.sinks.get? id with
  | none => (.absent .sink, s)
  | some map =>
    let s := { s with sinks := s.sinks.erase id }
    match s.kernel.openRing map with
    | .error e => (.ofOpenFailure e, s)
    | .ok k =>
      let kernel := match s.writers.get? id with
        | some old => k.releaseRing old
        | none => k
      (.ok, { s with kernel, writers := s.writers.set id map })

/-- Reads every record of an opened ring, unless this poll is to fail. -/
def poll (s : Session) (id : String) : Answer × Session :=
  match s.pollers.get? id with
  | none => (.absent .poller, s)
  | some p =>
    if 0 < p.failing then
      (.objectError (.mapError "poll fault"),
        { s with pollers := s.pollers.set id { p with failing := p.failing - 1 } })
    else
      let kernel := match s.kernel.rings.get? p.map with
        | some r => s.kernel.setRing p.map r.cleared
        | none => s.kernel
      (.polled (s.kernel.waiting p.map), { s with kernel })

/-- Submits a record to an opened ring. -/
def submit (s : Session) (id : String) (b : Bytes) : Answer × Session :=
  match s.writers.get? id with
  | none => (.absent .writer, s)
  | some map =>
    let (answer, kernel) := s.kernel.submit map b
    let s := { s with kernel }
    match answer with
    | .published => (.flag true, s)
    | .full => (.flag false, s)
    | .failed e => (.objectError e, s)
    | .panicked => (.objectError .notAvailable, s)

/-! ### Event channels -/

/-- Starts an event stream on a bound ring. -/
def startChannel (k : Kernel) (name map : String) (t : Tuning) :
    EventKind → Except ControlError (Kernel × EventChannel)
  | .task => (EventStream.start Task k name map t).map fun p => (p.1, .tasks p.2)
  | .exit => (EventStream.start ExitEvent k name map t).map fun p => (p.1, .exits p.2)

/-- Starts an event channel and keeps it; one already there is dropped after that. -/
def eventStart (s : Session) (id name : String) (kind : EventKind) (t : Tuning) :
    Answer × Session :=
  match s.sources.get? id with
  | none => (.absent .source, s)
  | some map =>
    let s := { s with sources := s.sources.erase id }
    match startChannel s.kernel name map t kind with
    | .error e => (.controlError e, s)
    | .ok (kernel, c) =>
      let s := { s with kernel }.dropEvents id
      (.ok, { s with events := s.events.set id c })

/-- Does something with an event channel that is there. -/
def onEvents (s : Session) (id : String) (f : EventChannel → Answer × EventChannel) :
    Answer × Session :=
  match s.events.get? id with
  | none => (.absent .event, s)
  | some c =>
    let (answer, c') := f c
    (answer, { s with events := s.events.set id c' })

namespace EventChannel

/-- Takes the oldest item, if there is one. -/
def take : EventChannel → Answer × EventChannel
  | .tasks s =>
    match s.take? with
    | some (t, s') => (.task (some t), .tasks s')
    | none => (.task none, .tasks s)
  | .exits s =>
    match s.take? with
    | some (e, s') => (.exit (some e), .exits s')
    | none => (.exit none, .exits s)

/-- What a consumer finds. -/
def receive : EventChannel → Answer × EventChannel
  | .tasks s => let (r, s') := s.receive; (.taskReceipt r, .tasks s')
  | .exits s => let (r, s') := s.receive; (.exitReceipt r, .exits s')

/-- The statistics of the channel. -/
def stats : EventChannel → ChannelStats
  | .tasks s => s.stats
  | .exits s => s.stats

/-- The name of the channel and whether its thread runs. -/
def info : EventChannel → Answer
  | .tasks s => .channelInfo s.name !s.isFinished
  | .exits s => .channelInfo s.name !s.isFinished

end EventChannel

/-! ### The dispatch channel -/

/-- Starts a dispatch channel and keeps it, its sender in use from now on; one already there
is dropped after that. -/
def dispatchStart (s : Session) (id name : String) (t : Tuning) : Answer × Session :=
  match s.sinks.get? id with
  | none => (.absent .sink, s)
  | some map =>
    let s := { s with sinks := s.sinks.erase id }
    match DispatchStream.start s.kernel name map t with
    | .error e => (.controlError e, s)
    | .ok (kernel, stream) =>
      let s := { s with kernel }.dropStream
      let n := s.streams.length
      (.ok, { s with
        streams := s.streams ++ [stream]
        heldStream := some n
        dispatcher := some (.channel n) })

/-- Asks something of the dispatch channel that is held. -/
def onDispatch (s : Session) (f : DispatchStream → Answer) : Answer × Session :=
  match s.heldStream.bind (s.streams[·]?) with
  | none => (.absent .dispatch, s)
  | some stream => (f stream, s)

/-- The stream that a sender fills. -/
def streamOf (s : Session) : Dispatcher → Option DispatchStream
  | .channel n => s.streams[n]?
  | .ofHandle => s.handle.map (·.dispatch)

/-- The session with the stream that a sender fills replaced. -/
def setStream (s : Session) (stream : DispatchStream) : Dispatcher → Session
  | .channel n => { s with streams := s.streams.set n stream }
  | .ofHandle => { s with handle := s.handle.map fun h => { h with dispatch := stream } }

/-- The answer of a blocking send as it stands. -/
def Answer.ofSender : DispatchStream.Sender → Answer
  | .returned true => .ok
  | .returned false => .controlError .closed
  | _ => .blocked

/-- Sends a decision without waiting. -/
def trySend (s : Session) (d : Decision) : Answer × Session :=
  match s.dispatcher.bind fun t => (s.streamOf t).map fun stream => (t, stream) with
  | none => (.absent .dispatcher, s)
  | some (target, stream) =>
    let (answer, stream') := stream.trySend d
    let s := s.setStream stream' target
    match answer with
    | .accepted => (.ok, s)
    | .refused d => (.refused d, s)
    | .closed => (.controlError .closed, s)

/-- Starts a blocking send, unless one waits already. -/
def send (s : Session) (d : Decision) : Answer × Session :=
  match s.lastSend with
  | some (_, .atGate _) | some (_, .inside _) => (.absent .freeSender, s)
  | _ =>
    match s.dispatcher with
    | none => (.absent .dispatcher, s)
    | some target =>
      let s := { s with lastSend := some (target, .atGate d) }.settle
      ((s.lastSend.map fun p => .ofSender p.2).getD .never, s)

/-! ### Call-outs -/

/-- The answer of a call-out through an invoker of the session. -/
def Answer.ofExcept {α : Type} (answer : α → Answer) : Except ControlError α → Answer
  | .ok a => answer a
  | .error e => .controlError e

/-- The answer of a call-out through the handle. -/
def Answer.ofCall : Option CallResult → Answer
  | some (.selected sel) => .selection sel
  | some .enabled => .ok
  | some (.failed e) => .controlError e
  | none => .blocked

/-- Makes a call-out through the handle. -/
def callHandle (s : Session) (h : Handle) (r : CallRequest) : Answer × Session :=
  let (result, d) := (s.deployment h).call r
  (.ofCall result, s.setDeployment d)

/-- Makes a call-out through an invoker of the session. -/
def callOwn (s : Session) (i : Invoker) : CallRequest → Answer × Session
  | .select t =>
    let (r, kernel, i') := i.select s.closedFlag s.kernel t
    (.ofExcept .selection r, { s with kernel, caller := some (.own i') })
  | .enableSibling rel =>
    let (r, kernel, i') := i.enableSibling s.closedFlag s.kernel rel
    (.ofExcept (fun () => Answer.ok) r, { s with kernel, caller := some (.own i') })

/-- Makes a call-out through the invoker in use. -/
def callOut (s : Session) (r : CallRequest) : Answer × Session :=
  match s.caller, s.handle with
  | some (.own i), _ => s.callOwn i r
  | some .ofHandle, some h => s.callHandle h r
  | _, _ => (.absent .invoker, s)

/-! ### Controller and handle -/

/-- Loads through a new controller; the residency step comes first. -/
def load (s : Session) (artifact : Option Artifact)
    (residency : Option (ResidencyPolicy × LockOutcome)) : Answer × Session :=
  let token : Except ControlError Residency := match residency with
    | none => .ok .disabled
    | some (policy, outcome) => Residency.establish policy outcome
  match token with
  | .error e => (.controlError e, s)
  | .ok residency =>
    let controller : Controller := { config := s.config, residency }
    let (result, kernel) := match artifact with
      | some a => controller.load s.kernel a
      | none => controller.loadConfigured s.kernel
    match result with
    | .error e => (.controlError e, { s with kernel })
    | .ok h =>
      (.loaded h.registry h.closed, { s with kernel, handle := some h, handleHeld := true })

/-- Does something with the handle that is held. -/
def onHandle (s : Session) (f : Handle → Answer × Session) : Answer × Session :=
  match s.handle with
  | some h => if s.handleHeld then f h else (.absent .handle, s)
  | none => (.absent .handle, s)

/-- Fetches an end of the handle, which a closed one refuses. -/
def fetch (s : Session) (keep : Session → Session) : Answer × Session :=
  s.onHandle fun h =>
    match h.ensureOpen with
    | .ok () => (.ok, keep s)
    | .error e => (.controlError e, s)

/-- Attaches the handle. -/
def attach (s : Session) : Answer × Session :=
  s.onHandle fun h =>
    let (r, kernel, h') := h.attach s.kernel
    (.ofExcept (fun () => Answer.ok) r, { s with kernel, handle := some h' })

/-- Takes what a kept receiver of the handle finds. -/
def receiveFrom (s : Session) (kept : Bool) (what : Absent)
    (f : Handle → Answer × Handle) : Answer × Session :=
  match kept, s.handle with
  | true, some h =>
    let (answer, h') := f h
    (answer, { s with handle := some h' })
  | _, _ => (.absent what, s)

/-! ### Commands -/

/-- Carries out what the kernel does by itself. -/
def onKernelSide (s : Session) : KernelCommand → Answer × Session
  | .produce map b =>
    let (accepted, kernel) := s.kernel.produce map b
    (.flag accepted, { s with kernel })
  | .enqueueTask t =>
    let (accepted, kernel) := s.kernel.enqueueTask t
    (.flag accepted, { s with kernel })
  | .emitExit b =>
    let (accepted, kernel) := s.kernel.emitExit b
    (.flag accepted, { s with kernel })
  | .pending map => (.count (s.kernel.waiting map).length, s)
  | .runCount name => (.count (s.kernel.runCount name), s)
  | .flags => (.kernelFlags s.kernel.attached s.kernel.unloaded, s)
  | .journal => (.journal s.kernel.journal, s)
  | .takeDispatched =>
    match s.kernel.takeDispatched with
    | some (b, kernel) => (.record (some b), { s with kernel })
    | none => (.record none, s)
  | .drainDispatched =>
    let (taken, s) := drain s.itemCount s []
    (.records taken, s)
  | .setSubprogram name body => (.ok, { s with kernel := s.kernel.setSubprogram name body.run })
  | .setMapValue map value => (.ok, { s with kernel := s.kernel.setValue map value })
  | .setAttachFailure name failing =>
    (.ok, { s with kernel := s.kernel.setAttachFailure name failing })

/-- Loads the bare object and keeps it. -/
def loadObject (s : Session) (artifact : Artifact) : Answer × Session :=
  match s.kernel.load artifact with
  | .ok kernel => (.backend Kernel.backend, { s with kernel, objectHeld := true })
  | .error e => (.objectError e, s)

/-- Carries out an operation on the bare object, which is there. -/
def onHeldObject (s : Session) : ObjectCommand → Answer × Session
  | .load artifact => s.loadObject artifact
  | .programs => (.programs s.kernel.programs, s)
  | .maps => (.maps s.kernel.maps, s)
  | .run name context =>
    let (r, kernel) := s.kernel.run name context
    (match r with
      | .ok word => .count word.toNat
      | .error e => .objectError e,
      { s with kernel })
  | .read map =>
    (match s.kernel.readValue map with
      | .ok value => .value value
      | .error e => .objectError e,
      s)
  | .close =>
    let (r, kernel) := s.kernel.close
    (.ofObject r, { s with kernel })
  | .attachProgram name id => s.keepLink id (s.kernel.attachProgram name)
  | .attachScheduler name id => s.keepLink id (s.kernel.attachScheduler name)
  | .bindRing map id =>
    match s.kernel.bindRing map .ringBuf with
    | .ok () => (.ok, { s with sources := s.sources.set id map })
    | .error e => (.objectError e, s)
  | .bindUserRing map id =>
    match s.kernel.bindRing map .userRingBuf with
    | .ok () => (.ok, { s with sinks := s.sinks.set id map })
    | .error e => (.objectError e, s)
  | .detach id =>
    match s.links.get? id with
    | none => (.absent .link, s)
    | some l =>
      let (r, kernel) := s.kernel.detach l
      (.ofObject r, { s with kernel, links := s.links.erase id })
  | .dropLink id =>
    match s.links.get? id with
    | none => (.flag false, s)
    | some l => (.flag true, { s with kernel := s.kernel.release l, links := s.links.erase id })
  | .openRing id => s.openPoller id
  | .poll id => s.poll id
  | .dropPoller id =>
    match s.pollers.get? id with
    | none => (.flag false, s)
    | some p =>
      (.flag true, { s with kernel := s.kernel.releaseRing p.map, pollers := s.pollers.erase id })
  | .openUserRing id => s.openWriter id
  | .submit id b => s.submit id b
  | .dropWriter id =>
    match s.writers.get? id with
    | none => (.flag false, s)
    | some map =>
      (.flag true, { s with kernel := s.kernel.releaseRing map, writers := s.writers.erase id })

/-- Whether an operation needs the bare object; the others act on what was made from it. -/
def ObjectCommand.needsObject : ObjectCommand → Bool
  | .programs | .maps | .run .. | .read _ | .close => true
  | .attachProgram .. | .attachScheduler .. | .bindRing .. | .bindUserRing .. => true
  | _ => false

/-- Carries out an operation on the bare object. -/
def onObject (s : Session) (c : ObjectCommand) : Answer × Session :=
  if c.needsObject && !s.objectHeld then (.absent .object, s) else s.onHeldObject c

/-- Carries out an operation on an event channel. -/
def onEvent (s : Session) : EventCommand → Answer × Session
  | .start id name kind t => s.eventStart id name kind t
  | .take id => s.onEvents id (·.take)
  | .receive id => s.onEvents id (·.receive)
  | .stats id => s.onEvents id fun c => (.eventStats c.stats, c)
  | .info id => s.onEvents id fun c => (c.info, c)
  | .close id =>
    match s.events.get? id with
    | none => (.absent .event, s)
    | some c =>
      let (kernel, c') := c.close s.kernel
      (.ok, { s with kernel, events := s.events.set id c' })
  | .drop id =>
    match s.events.get? id with
    | none => (.absent .event, s)
    | some _ => (.ok, s.dropEvents id)

/-- Carries out an operation on the dispatch channel or the sender in use. -/
def onDispatchSide (s : Session) : DispatchCommand → Answer × Session
  | .start id name t => s.dispatchStart id name t
  | .stats => s.onDispatch fun d => .dispatchStats d.stats
  | .info => s.onDispatch fun d => .channelInfo d.name !d.isFinished
  | .close =>
    match s.heldStream with
    | none => (.absent .dispatch, s)
    | some n => (.ok, s.runStream n Line.close)
  | .drop =>
    match s.heldStream with
    | none => (.absent .dispatch, s)
    | some _ => (.ok, s.dropStream)
  | .trySend d => s.trySend d
  | .send d => s.send d
  | .joinSender => ((s.lastSend.map fun p => .ofSender p.2).getD .never, s)
  | .backlog =>
    match s.dispatcher.bind s.streamOf with
    | none => (.absent .dispatcher, s)
    | some stream => (.count stream.queue.length, s)

/-- Carries out an operation on the invoker in use. -/
def onCallout (s : Session) : CalloutCommand → Answer × Session
  | .new selectCpu siblingCpu =>
    if s.objectHeld then
      (.ok, { s with caller := some (.own (.new selectCpu siblingCpu)) })
    else (.absent .object, s)
  | .setClosed value => (.ok, { s with closedFlag := value })
  | .select t => s.callOut (.select t)
  | .enableSibling r => s.callOut (.enableSibling r)
  | .stats =>
    match s.caller, s.handle with
    | some (.own i), _ => (.callouts i.stats, s)
    | some .ofHandle, some h => (.callouts h.invoker.stats, s)
    | _, _ => (.absent .invoker, s)
  | .isClosed =>
    match s.caller, s.handle with
    | some (.own _), _ => (.flag s.closedFlag, s)
    | some .ofHandle, some h => (.flag h.closed, s)
    | _, _ => (.absent .invoker, s)

/-- Carries out an operation on a controller or its handle. -/
def onController (s : Session) : HandleCommand → Answer × Session
  | .load artifact residency => s.load artifact residency
  | .attach => s.attach
  | .close => s.onHandle fun _ => (.ok, s.runDeployment (·.close))
  | .isClosed => s.onHandle fun h => (.flag h.closed, s)
  | .drop => (.flag s.handleHeld, s.dropHandle)
  | .stats => s.onHandle fun h => (.handleStats h.stats, s)
  | .select t => s.onHandle fun h => s.callHandle h (.select t)
  | .enableSibling r => s.onHandle fun h => s.callHandle h (.enableSibling r)
  | .snapshot region =>
    s.onHandle fun h =>
      match h.snapshot s.kernel region with
      | .ok value => (.value value, s)
      | .error e => (.controlError e, s)
  | .fetchQueued => s.fetch fun s => { s with queuedFetched := true }
  | .fetchExits => s.fetch fun s => { s with exitsFetched := true }
  | .fetchDispatcher => s.fetch fun s => { s with dispatcher := some .ofHandle }
  | .fetchInvoker => s.onHandle fun _ => (.ok, { s with caller := some .ofHandle })
  | .receiveQueued =>
    s.receiveFrom s.queuedFetched .queued fun h =>
      let (r, queued) := h.queued.receive
      (.taskReceipt r, { h with queued })
  | .receiveExit =>
    s.receiveFrom s.exitsFetched .exits fun h =>
      let (r, exits) := h.exits.receive
      (.exitReceipt r, { h with exits })
  | .placementStart => s.fetch fun s => { s with loop := some {} }
  | .placementJoin =>
    match s.loop with
    | none => (.never, s)
    | some p => (if p.isFinished then .count p.placed else .running, s)

/-- Carries out a command; threads have not run yet. -/
def execute (s : Session) : Command → Answer × Session
  | .kernel c => s.onKernelSide c
  | .object c => s.onObject c
  | .event c => s.onEvent c
  | .dispatch c => s.onDispatchSide c
  | .callout c => s.onCallout c
  | .handle c => s.onController c

/-- Carries out a command and lets all threads run until none can do anything more. -/
def perform (s : Session) (c : Command) : Outcome × Session :=
  let (answer, s') := s.execute c
  let s'' := s'.settle
  ({ answer
     journal := s''.kernel.journal.drop s.kernel.journal.length
     state := s''.handleState }, s'')

/-- Carries out commands in order. -/
def performAll (s : Session) : List Command → List Outcome × Session
  | [] => ([], s)
  | c :: rest =>
    let (outcome, s') := s.perform c
    let (outcomes, s'') := performAll s' rest
    (outcome :: outcomes, s'')

/-- Carries out commands in order and drops everything at the end. -/
def run (s : Session) (commands : List Command) : List Outcome × Ending :=
  let (outcomes, s') := s.performAll commands
  let s'' := s'.dropAll
  (outcomes,
    { journal := s''.kernel.journal.drop s'.kernel.journal.length
      attached := s''.kernel.attached
      unloaded := s''.kernel.unloaded })

end SchedPlane.Session
