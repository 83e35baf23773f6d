/-
SchedPlane/Proofs/PlacementFlow.lean

How tasks flow through a handle that a placement loop serves.

A task passes the queued ring, the queue of the queued stream, the loop, which makes a call-out
for it, the queue of the dispatch stream and the dispatched ring.  `Pipe` says how all of these
hang together: the two streams have their own `Flow`, the loop has asked for exactly the tasks it
received, and what it sends are the decisions of the answers.  `PlaceMove` lists all that a
step of the loop can do and `Handle.TeardownMove` all that a step of the teardown can do, and
`Pipe` is kept by the steps of the loop, of the other threads, of the kernel and of the teardown.

The teardown stops the two streams at different moments.  What makes that harmless is that the
gate of the dispatch stream closes first, `Handle.Orderly`: a task that leaves the queued stream
out of order, because the poll thread gave up the one before it, finds the gate closed.
-/
import SchedPlane.Proofs.EventFlow
import SchedPlane.Proofs.DispatchFlow
import SchedPlane.Deployment

namespace SchedPlane

open DispatchStream

/-! ### Call-outs -/

/-- The selection that the result of a call-out stands for: a failure leaves the choice open. -/
def CallResult.choice : CallResult → Selection
  | .selected s => s
  | _ => .any

/-- The decision that a task and the result of the call-out for it lead to. -/
def decisionFor (answer : Task × CallResult) : Decision :=
  Decision.place answer.1 answer.2.choice

theorem CallResult.choice_of_selection? {r : CallResult} {s : Selection}
    (h : PlacementLoop.selection? r = some s) : r.choice = s := by
  cases r with
  | selected | enabled => simpa [PlacementLoop.selection?, choice] using h
  | failed e => cases e <;> simp_all [PlacementLoop.selection?, choice]

/-- A call-out that gives no selection says that the handle is closed. -/
theorem CallResult.closed_of_selection? {r : CallResult}
    (h : PlacementLoop.selection? r = none) : r = .failed .closed := by
  cases r with
  | selected | enabled => cases h
  | failed e => cases e <;> simp_all [PlacementLoop.selection?]

/-- A call-out touches no ring. -/
theorem Call.keepsRings_stepOn (k : Kernel) (i : Invoker) (c : Call) (p : Callee) :
    Kernel.KeepsRings k (stepOn k i c p).1 := by
  unfold stepOn
  split
  case h_5 => exact Kernel.keepsRings_runLoaded k _ _
  case h_2 => split <;> exact .refl k
  case h_4 => split <;> exact .refl k
  all_goals exact .refl k

/-- A step of a call-out does nothing to the rings. -/
theorem Call.keepsRings_step (closed : Bool) (k : Kernel) (i : Invoker) (c : Call) :
    Kernel.KeepsRings k (step closed k i c).1 := by
  unfold step
  split
  · exact .refl k
  · split
    · exact .refl k
    · exact keepsRings_stepOn k i c _
  · split
    · exact keepsRings_stepOn k i c _
    · exact .refl k

/-- Detaching links touches no ring. -/
theorem Handle.keepsRings_detachAll (k : Kernel) (links : List Link) :
    Kernel.KeepsRings k (detachAll k links) := by
  induction links generalizing k with
  | nil => exact .refl k
  | cons l rest ih => exact (Kernel.keepsRings_detach k l).trans (ih _)

/-- Attaching concerns neither a stream nor a ring. -/
theorem Handle.attach_frame (k : Kernel) (h : Handle) :
    Kernel.KeepsRings k (h.attach k).2.1 ∧ (h.attach k).2.2.queued = h.queued ∧
      (h.attach k).2.2.exits = h.exits ∧ (h.attach k).2.2.dispatch = h.dispatch ∧
      (h.attach k).2.2.closed = h.closed ∧ (h.attach k).2.2.teardown = h.teardown := by
  unfold attach
  split
  · exact ⟨.refl k, rfl, rfl, rfl, rfl, rfl⟩
  · split
    · exact ⟨.refl k, rfl, rfl, rfl, rfl, rfl⟩
    · rcases attached : k.attachScheduler h.registry.structOps.name with e | ⟨link, k'⟩
      · simp only [attached, and_true]
        exact .refl k
      · have keeps := Kernel.keepsRings_attachScheduler attached
        simp only [attached]
        split <;> exact ⟨keeps, rfl, rfl, rfl, rfl, rfl⟩

/-! ### Moves of the teardown -/

namespace Handle

variable {k k' : Kernel} {h h' : Handle}

/-- What a step of the teardown can do, stage by stage. -/
inductive TeardownMove (k : Kernel) (h : Handle) : Kernel → Handle → Prop
  /-- The teardown has not begun, or it is done. -/
  | rest (here : h.teardown = .notBegun ∨ h.teardown = .done) : TeardownMove k h k h
  /-- The thread of the exit stream is asked to stop, and waited for. -/
  | askExits (here : h.teardown = .exits) (waits : (h.exits.stop && h.exits.isFinished) = false) :
      TeardownMove k h k { h with exits := h.exits.requestStop }
  | passExits (here : h.teardown = .exits)
      (ended : h.exits.stop = true ∧ h.exits.isFinished = true) :
      TeardownMove k h k { h with teardown := .dispatch }
  /-- The dispatch stream gets a step nearer to its close. -/
  | closeDispatch (here : h.teardown = .dispatch) (waits : h.dispatch.isClosed = false) :
      TeardownMove k h k { h with dispatch := h.dispatch.closeStep }
  | passDispatch (here : h.teardown = .dispatch) (closed : h.dispatch.isClosed = true) :
      TeardownMove k h k { h with teardown := .queued }
  /-- The thread of the queued stream is asked to stop, and waited for. -/
  | askQueued (here : h.teardown = .queued)
      (waits : (h.queued.stop && h.queued.isFinished) = false) :
      TeardownMove k h k { h with queued := h.queued.requestStop }
  | passQueued (here : h.teardown = .queued)
      (ended : h.queued.stop = true ∧ h.queued.isFinished = true) :
      TeardownMove k h k { h with teardown := .scheduler }
  /-- The link to the scheduler is given up, if there is one. -/
  | dropScheduler (here : h.teardown = .scheduler) :
      TeardownMove k h (detachAll k h.scheduler.toList)
        { h with scheduler := none, teardown := .probes }
  /-- The probe that was attached last is detached. -/
  | dropProbe (here : h.teardown = .probes) {l : Link} (last : h.probes.getLast? = some l) :
      TeardownMove k h (k.detach l).2 { h with probes := h.probes.dropLast }
  | passProbes (here : h.teardown = .probes) (none : h.probes.getLast? = none) :
      TeardownMove k h k { h with teardown := .object }
  | unload (here : h.teardown = .object) :
      TeardownMove k h k.close.2 { h with state := .closed, teardown := .done }

/-- Every step of the teardown is a move. -/
theorem teardownStep_move (k : Kernel) (h : Handle) :
    h.TeardownMove k (h.teardownStep k).1 (h.teardownStep k).2 := by
  unfold teardownStep
  split
  · next here => exact .rest (.inl here)
  · next here =>
    split
    · next ended =>
      rw [Bool.and_eq_true] at ended
      exact .passExits here ended
    · next waits => exact .askExits here (by simpa using waits)
  · next here =>
    split
    · next closed => exact .passDispatch here closed
    · next waits => exact .closeDispatch here (by simpa using waits)
  · next here =>
    split
    · next ended =>
      rw [Bool.and_eq_true] at ended
      exact .passQueued here ended
    · next waits => exact .askQueued here (by simpa using waits)
  · next here => exact .dropScheduler here
  · next here =>
    split
    · next l last => exact .dropProbe here last
    · next none => exact .passProbes here none
  · next here => exact .unload here
  · next here => exact .rest (.inr here)

namespace TeardownMove

/-- The teardown moves the streams, the links, the state and its own stage. -/
theorem frame (move : h.TeardownMove k k' h') :
    h' =
      { h with
        state := h'.state
        queued := h'.queued
        exits := h'.exits
        dispatch := h'.dispatch
        probes := h'.probes
        scheduler := h'.scheduler
        teardown := h'.teardown } := by
  cases move <;> rfl

/-- The teardown takes no ring away. -/
theorem keepsRings (move : h.TeardownMove k k' h') : Kernel.KeepsRings k k' := by
  cases move with
  | dropScheduler => exact keepsRings_detachAll k _
  | dropProbe => exact Kernel.keepsRings_detach k _
  | unload => exact Kernel.keepsRings_close k
  | rest | askExits | passExits | closeDispatch | passDispatch | askQueued | passQueued
  | passProbes => exact .refl k

/-- It closes the dispatch stream. -/
theorem dispatch_cases (move : h.TeardownMove k k' h') :
    h'.dispatch = h.dispatch ∨ h'.dispatch = h.dispatch.closeStep := by
  cases move with
  | closeDispatch => exact .inr rfl
  | rest | askExits | passExits | passDispatch | askQueued | passQueued | dropScheduler
  | dropProbe | passProbes | unload => exact .inl rfl

/-- It passes no gate. -/
theorem inside_eq (move : h.TeardownMove k k' h') : h'.dispatch.inside = h.dispatch.inside := by
  rcases move.dispatch_cases with same | closing
  · rw [same]
  · rw [closing, closeStep_frame]

end TeardownMove

end Handle

/-! ### Moves of the loop -/

namespace PlacePhase

/-- Whether the loop has no task at hand and will look for one. -/
def isFree : PlacePhase → Bool
  | .idle | .readingExits | .receiving => true
  | _ => false

/-- The task that a call-out is being made for. -/
def asking : PlacePhase → List Task
  | .selecting t _ => [t]
  | _ => []

/-- The decision that waits to enter the dispatch queue. -/
def unsent : PlacePhase → List Decision
  | .sending (.atGate d) | .sending (.inside d) => [d]
  | _ => []

/-- Whether the loop is behind the gate of the dispatch stream, as a number. -/
def behind : PlacePhase → Nat
  | .sending s => s.behind
  | _ => 0

/-- A loop without a task at hand has nothing under way. -/
structure Empty (phase : PlacePhase) : Prop where
  asking : phase.asking = []
  unsent : phase.unsent = []
  behind : phase.behind = 0
  unsettled : ∀ told, phase ≠ .sending (.returned told)

theorem empty_of_isFree {phase : PlacePhase} (h : phase.isFree = true ∨ phase = .finished) :
    Empty phase := by
  rcases h with free | rfl
  · cases phase with
    | idle | readingExits | receiving => exact ⟨rfl, rfl, rfl, fun told e => by cases e⟩
    | selecting | sending | finished => cases free
  · exact ⟨rfl, rfl, rfl, fun told e => by cases e⟩

end PlacePhase

namespace PlacementLoop

variable {k k' : Kernel} {h h' : Handle} {p p' : PlacementLoop}

/-- The call-outs that return at the next step of the loop, with their results. -/
def answers (k : Kernel) (h : Handle) (p : PlacementLoop) : List (Task × CallResult) :=
  match p.phase with
  | .selecting t phase =>
    match (Call.step h.closed k h.invoker { request := .select t, phase }).2.2.result? with
    | some r => [(t, r)]
    | none => []
  | _ => []

/-- What a step of the loop can do; `answers` are the call-outs that return. -/
inductive PlaceMove (k : Kernel) (h : Handle) (p : PlacementLoop) :
    List (Task × CallResult) → Kernel → Handle → PlacementLoop → Prop
  /-- The loop looks for a task, or finds out that there will be none. -/
  | look {phase : PlacePhase} (here : p.phase.isFree = true)
      (there : phase.isFree = true ∨ phase = .finished) : PlaceMove k h p [] k h { p with phase }
  | readExit {e : ExitEvent} {exits : EventStream ExitEvent} (here : p.phase = .readingExits)
      (front : h.exits.take? = some (e, exits)) : PlaceMove k h p [] k { h with exits } p
  /-- A task is received. -/
  | take {t : Task} {rest : List Task} (here : p.phase = .receiving)
      (front : h.queued.queue = t :: rest) :
      PlaceMove k h p [] k { h with queued := { h.queued with queue := rest } }
        { p with phase := .selecting t .entering }
  /-- The call-out for the task goes on. -/
  | ask {t : Task} {phase phase' : CallPhase} {k' : Kernel} {invoker : Invoker}
      (here : p.phase = .selecting t phase) (keeps : Kernel.KeepsRings k k') :
      PlaceMove k h p [] k' { h with invoker } { p with phase := .selecting t phase' }
  /-- The call-out returns, and a decision is built. -/
  | place {t : Task} {phase : CallPhase} {r : CallResult} {k' : Kernel} {invoker : Invoker}
      (here : p.phase = .selecting t phase) (keeps : Kernel.KeepsRings k k') :
      PlaceMove k h p [(t, r)] k' { h with invoker }
        { p with phase := .sending (.atGate (decisionFor (t, r))) }
  /-- The call-out finds the handle closed. -/
  | giveUp {t : Task} {phase : CallPhase} {k' : Kernel} {invoker : Invoker}
      (here : p.phase = .selecting t phase) (keeps : Kernel.KeepsRings k k') :
      PlaceMove k h p [(t, .failed .closed)] k' { h with invoker } { p with phase := .finished }
  | send {s s' : Sender} {dispatch : DispatchStream} (here : p.phase = .sending s)
      (move : SendMove h.dispatch s dispatch s') :
      PlaceMove k h p [] k { h with dispatch } (p.afterSend s')
  | rest (ended : p.phase = .finished) : PlaceMove k h p [] k h p

/-- The end of a call-out. -/
theorem placeAfter_move {t : Task} {phase : CallPhase} {invoker : Invoker}
    (here : p.phase = .selecting t phase) (keeps : Kernel.KeepsRings k k') (r : CallResult) :
    PlaceMove k h p [(t, r)] k' { h with invoker } (p.placeAfter t r) := by
  unfold placeAfter
  split
  · next s chosen =>
    have e : Decision.place t s = decisionFor (t, r) := by
      rw [decisionFor, CallResult.choice_of_selection? chosen]
    rw [e]
    exact .place here keeps
  · next unchosen =>
    rw [CallResult.closed_of_selection? unchosen]
    exact .giveUp here keeps

/-- Every step of the loop is a move. -/
theorem step_move (k : Kernel) (h : Handle) (p : PlacementLoop) :
    PlaceMove k h p (p.answers k h) (p.step k h).1 (p.step k h).2.1 (p.step k h).2.2 := by
  rcases here : p.phase with - | - | - | ⟨t, phase⟩ | s | -
  · -- idle
    simp only [step, answers, here]
    refine .look (by rw [here]; rfl) ?_
    split
    · exact Or.inr rfl
    · exact Or.inl rfl
  · -- reading exit events
    simp only [step, answers, here]
    split
    · next front => exact .readExit here front
    · exact .look (by rw [here]; rfl) (Or.inl rfl)
  · -- receiving
    simp only [step, answers, here]
    rcases front : h.queued.queue with - | ⟨t, rest⟩
    · simp only [EventStream.receive, EventStream.take?, front]
      rcases h.queued.isFinished with - | -
      · exact .look (by rw [here]; rfl) (Or.inl rfl)
      · exact .look (by rw [here]; rfl) (Or.inr rfl)
    · simp only [EventStream.receive, EventStream.take?, front]
      exact .take here front
  · -- selecting
    have keeps := Call.keepsRings_step h.closed k h.invoker { request := .select t, phase }
    simp only [step, answers, here]
    generalize Call.step h.closed k h.invoker { request := .select t, phase } = out at keeps ⊢
    obtain ⟨k', invoker, c⟩ := out
    simp only [afterCall, Call.result?]
    rcases ended : c.phase with - | - | - | - | - | - | - | - | r
    case returned => exact placeAfter_move here keeps r
    all_goals exact .ask here keeps
  · -- sending
    simp only [step, answers, here]
    exact .send here (sendStep_move h.dispatch s)
  · -- finished
    simp only [step, answers, here]
    exact .rest here

end PlacementLoop

/-! ### The order of closing -/

/-- Whether the teardown has got beyond closing the dispatch stream. -/
def Teardown.pastDispatch : Teardown → Bool
  | .notBegun | .exits | .dispatch => false
  | _ => true

/-- The gate of the dispatch stream closes before the queued stream is stopped, and neither
happens before the handle is closed. -/
structure Handle.Orderly (h : Handle) : Prop where
  opened : h.closed = false →
    h.teardown = .notBegun ∧ h.queued.stop = false ∧ h.dispatch.gate = .unlocked
  past : h.teardown.pastDispatch = true → h.dispatch.gate = .closed
  stopped : h.queued.stop = true → h.dispatch.gate = .closed

namespace Handle.Orderly

variable {h : Handle}

theorem setDispatch (o : h.Orderly) {dispatch : DispatchStream}
    (gate : dispatch.gate = h.dispatch.gate) : Orderly { h with dispatch } where
  opened e := by rw [gate]; exact o.opened e
  past e := by rw [gate]; exact o.past e
  stopped e := by rw [gate]; exact o.stopped e

theorem setQueued (o : h.Orderly) {queued : EventStream Task} (stop : queued.stop = h.queued.stop) :
    Orderly { h with queued } where
  opened e := by rw [stop]; exact o.opened e
  past := o.past
  stopped e := o.stopped (stop.symm.trans e)

/-- Once the teardown has begun, the handle is closed. -/
theorem closed_of_begun (o : h.Orderly) (begun : h.teardown ≠ .notBegun) : h.closed ≠ false :=
  fun e => begun (o.opened e).1

end Handle.Orderly

/-! ### The whole way of a task -/

/-- How the places of the tasks hang together on a handle that a placement loop serves.
`offered` are the records the queued ring has accepted, `asked` the tasks the loop has made
call-outs for, with their results, and `consumed` the decisions the kernel has taken. -/
structure Pipe (offered : List Bytes) (asked : List (Task × CallResult)) (consumed : List Bytes)
    (k : Kernel) (h : Handle) (p : PlacementLoop) : Prop where
  queuedMap : h.queued.map = Contract.queued
  exitsMap : h.exits.map = Contract.exit
  dispatchMap : h.dispatch.map = Contract.dispatched
  noErrors : k.faults.submitErrors = []
  noPanics : k.faults.submitPanics = []
  /-- The loop alone passes the gate. -/
  fence : h.dispatch.Fence p.phase.behind
  orderly : h.Orderly
  tasks : h.queued.Flow offered (asked.map Prod.fst ++ p.phase.asking)
    (k.waiting Contract.queued)
  decisions : h.dispatch.Flow (consumed ++ k.waiting Contract.dispatched)
    ((asked.take p.placed).map decisionFor)
  placed : p.placed ≤ asked.length
  /-- At most one decision was built and is not accepted yet. -/
  unsent : p.phase ≠ .finished → (asked.drop p.placed).map decisionFor = p.phase.unsent
  unsettled : ∀ told, p.phase ≠ .sending (.returned told)
  /-- The tasks placed are the first that were offered. -/
  ordered : (asked.take p.placed).map Prod.fst <+: items Task offered

namespace Pipe

variable {offered : List Bytes} {asked : List (Task × CallResult)} {consumed : List Bytes}
  {k k' : Kernel} {h h' : Handle} {p : PlacementLoop}

/-! #### Steps of the other threads -/

/-- What concerns neither the two streams nor their rings changes nothing. -/
theorem frame (pipe : Pipe offered asked consumed k h p)
    (queuedRing : k'.waiting Contract.queued = k.waiting Contract.queued)
    (dispatchedRing : k'.waiting Contract.dispatched = k.waiting Contract.dispatched)
    (faults : k'.faults = k.faults) (queued : h'.queued = h.queued)
    (exits : h'.exits.map = h.exits.map) (dispatch : h'.dispatch = h.dispatch)
    (orderly : h'.Orderly) :
    Pipe offered asked consumed k' h' p where
  queuedMap := by rw [queued]; exact pipe.queuedMap
  exitsMap := by rw [exits]; exact pipe.exitsMap
  dispatchMap := by rw [dispatch]; exact pipe.dispatchMap
  noErrors := by rw [faults]; exact pipe.noErrors
  noPanics := by rw [faults]; exact pipe.noPanics
  fence := by rw [dispatch]; exact pipe.fence
  orderly := orderly
  tasks := by rw [queued, queuedRing]; exact pipe.tasks
  decisions := by rw [dispatch, dispatchedRing]; exact pipe.decisions
  placed := pipe.placed
  unsent := pipe.unsent
  unsettled := pipe.unsettled
  ordered := pipe.ordered

/-- What touches neither the two streams nor any ring changes nothing. -/
theorem frame_of_keepsRings (pipe : Pipe offered asked consumed k h p)
    (keeps : Kernel.KeepsRings k k') (queued : h'.queued = h.queued)
    (exits : h'.exits.map = h.exits.map) (dispatch : h'.dispatch = h.dispatch)
    (orderly : h'.Orderly) :
    Pipe offered asked consumed k' h' p :=
  pipe.frame (keeps.waiting _) (keeps.waiting _) keeps.faults queued exits dispatch orderly

/-- A call-out moves no task. -/
theorem callout (pipe : Pipe offered asked consumed k h p) (keeps : Kernel.KeepsRings k k')
    (invoker : Invoker) : Pipe offered asked consumed k' { h with invoker } p :=
  have o := pipe.orderly
  pipe.frame_of_keepsRings keeps rfl rfl rfl ⟨o.opened, o.past, o.stopped⟩

/-- The kernel offers a record on the queued ring. -/
theorem offer (pipe : Pipe offered asked consumed k h p) (b : Bytes) :
    Pipe (if (k.produce Contract.queued b).1 then offered ++ [b] else offered) asked consumed
      (k.produce Contract.queued b).2 h p := by
  rcases k.produce_cases Contract.queued b with e | ⟨r, records, e⟩
  · rw [e]
    exact pipe
  · rw [e]
    -- the two rings are apart
    have other : (k.setRing Contract.queued r).waiting Contract.dispatched =
        k.waiting Contract.dispatched := k.waiting_setRing_of_ne (by decide) r
    refine { pipe with tasks := ?_, decisions := ?_, ordered := ?_ }
    · rw [Kernel.waiting_setRing, records]
      exact pipe.tasks.offer b
    · rw [other]
      exact pipe.decisions
    · rw [if_pos rfl, items_append]
      exact pipe.ordered.trans (List.prefix_append _ _)

/-- The kernel takes a decision from the dispatched ring. -/
theorem consume (pipe : Pipe offered asked consumed k h p) {b : Bytes}
    (taken : k.takeDispatched = some (b, k')) :
    Pipe offered asked (consumed ++ [b]) k' h p := by
  obtain ⟨front, faults, others⟩ := Kernel.waiting_takeDispatched taken
  have same : consumed ++ [b] ++ k'.waiting Contract.dispatched =
      consumed ++ k.waiting Contract.dispatched := by
    rw [front, List.append_assoc, List.singleton_append]
  refine { pipe with noErrors := ?_, noPanics := ?_, tasks := ?_, decisions := ?_ }
  · rw [faults]
    exact pipe.noErrors
  · rw [faults]
    exact pipe.noPanics
  · rw [others Contract.queued (by decide)]
    exact pipe.tasks
  · rw [same]
    exact pipe.decisions

/-- The poll thread of the exit stream works on a ring of its own. -/
theorem pollExits (pipe : Pipe offered asked consumed k h p) :
    Pipe offered asked consumed (h.exits.advance k).1
      { h with exits := (h.exits.advance k).2 } p := by
  have apart : ∀ other, Contract.exit ≠ other →
      (h.exits.advance k).1.waiting other = k.waiting other := by
    intro other ne
    refine EventStream.waiting_advance_of_ne ?_
    rw [pipe.exitsMap]
    exact ne
  have faults := EventStream.faults_advance k h.exits
  have o := pipe.orderly
  exact pipe.frame (apart _ (by decide)) (apart _ (by decide)) faults rfl
    (EventStream.advance_move k h.exits).map_eq rfl ⟨o.opened, o.past, o.stopped⟩

/-- The poll thread moves records from their ring to the queue of tasks. -/
theorem pollQueued (pipe : Pipe offered asked consumed k h p) :
    Pipe offered asked consumed (h.queued.advance k).1
      { h with queued := (h.queued.advance k).2 } p := by
  have move := EventStream.advance_move k h.queued
  have faults := EventStream.faults_advance k h.queued
  rw [pipe.queuedMap] at move
  have apart : (h.queued.advance k).1.waiting Contract.dispatched =
      k.waiting Contract.dispatched := by
    refine EventStream.waiting_advance_of_ne ?_
    rw [pipe.queuedMap]
    decide
  refine { pipe with
    queuedMap := move.map_eq.trans pipe.queuedMap
    noErrors := by rw [faults]; exact pipe.noErrors
    noPanics := by rw [faults]; exact pipe.noPanics
    orderly := pipe.orderly.setQueued move.stop_eq
    tasks := pipe.tasks.poll move
    decisions := ?_ }
  rw [apart]
  exact pipe.decisions

/-- The flush thread moves decisions from their queue to the ring, or discards them once it was
asked to stop. -/
theorem flush (pipe : Pipe offered asked consumed k h p) :
    Pipe offered asked consumed (h.dispatch.advance k).1
      { h with dispatch := (h.dispatch.advance k).2 } p := by
  have move := h.dispatch.advance_move k
  have faults := h.dispatch.faults_advance k
  have calm := submitOn_answer pipe.noPanics pipe.noErrors h.dispatch
  have publishes := h.dispatch.waiting_advance k
  rw [pipe.dispatchMap] at publishes
  have apart : (h.dispatch.advance k).1.waiting Contract.queued = k.waiting Contract.queued := by
    refine waiting_advance_of_ne ?_
    rw [pipe.dispatchMap]
    decide
  -- the fence: the thread drains at a stop flag only
  have draining : h.dispatch.phase = .draining → h.dispatch.stop = true := fun here =>
    pipe.fence.leaving (Or.inl here)
  refine { pipe with
    dispatchMap := move.map_eq.trans pipe.dispatchMap
    noErrors := by rw [faults]; exact pipe.noErrors
    noPanics := by rw [faults]; exact pipe.noPanics
    fence := pipe.fence.flush move ?_
    orderly := pipe.orderly.setDispatch move.gate_eq
    tasks := ?_
    decisions := ?_ }
  · rcases calm with e | e <;> rw [e] <;> simp
  · rw [apart]
    exact pipe.tasks
  · rw [publishes, ← List.append_assoc]
    exact pipe.decisions.flush move calm draining

theorem attach (pipe : Pipe offered asked consumed k h p) :
    Pipe offered asked consumed (h.attach k).2.1 (h.attach k).2.2 p := by
  have o := pipe.orderly
  obtain ⟨keeps, queued, exits, dispatch, closed, teardown⟩ := h.attach_frame k
  refine pipe.frame_of_keepsRings keeps queued (by rw [exits]) dispatch ⟨?_, ?_, ?_⟩
  · rw [closed, teardown, queued, dispatch]
    exact o.opened
  · rw [teardown, dispatch]
    exact o.past
  · rw [queued, dispatch]
    exact o.stopped

/-! #### The teardown -/

theorem beginClose (pipe : Pipe offered asked consumed k h p) :
    Pipe offered asked consumed k h.beginClose p := by
  have o := pipe.orderly
  unfold Handle.beginClose
  split
  · exact pipe
  · refine pipe.frame_of_keepsRings (.refl k) rfl rfl rfl ⟨?_, ?_, o.stopped⟩
    · intro opened
      cases opened
    · intro past
      cases past

/-- The dispatch stream is asked to close. -/
theorem closeDispatch (pipe : Pipe offered asked consumed k h p)
    (begun : h.teardown ≠ .notBegun) :
    Pipe offered asked consumed k { h with dispatch := h.dispatch.closeStep } p := by
  have o := pipe.orderly
  have gate : h.dispatch.gate = .closed → h.dispatch.closeStep.gate = .closed := by
    intro closed
    rw [closeStep_of_closed closed]
    exact closed
  exact { pipe with
    dispatchMap := (map_closeStep h.dispatch).trans pipe.dispatchMap
    fence := pipe.fence.close
    orderly :=
      { opened := fun e => absurd e (o.closed_of_begun begun)
        past := fun e => gate (o.past e)
        stopped := fun e => gate (o.stopped e) }
    decisions := pipe.decisions.close }

/-- The poll thread of the queued stream is asked to stop, behind the closed gate. -/
theorem stopQueued (pipe : Pipe offered asked consumed k h p)
    (begun : h.teardown ≠ .notBegun) (closed : h.dispatch.gate = .closed) :
    Pipe offered asked consumed k { h with queued := h.queued.requestStop } p :=
  { pipe with
    orderly :=
      { opened := fun e => absurd e (pipe.orderly.closed_of_begun begun)
        past := fun _ => closed
        stopped := fun _ => closed }
    tasks := pipe.tasks.requestStop }

/-- The teardown goes on, with the two streams as they are. -/
theorem tearDown (pipe : Pipe offered asked consumed k h p) (begun : h.teardown ≠ .notBegun)
    (keeps : Kernel.KeepsRings k k') (queued : h'.queued = h.queued)
    (exits : h'.exits.map = h.exits.map) (dispatch : h'.dispatch = h.dispatch)
    (closed : h'.closed = h.closed)
    (past : h'.teardown.pastDispatch = true → h.dispatch.gate = .closed) :
    Pipe offered asked consumed k' h' p := by
  refine pipe.frame_of_keepsRings keeps queued exits dispatch ⟨?_, ?_, ?_⟩
  · rw [closed]
    exact fun e => absurd e (pipe.orderly.closed_of_begun begun)
  · rw [dispatch]
    exact past
  · rw [queued, dispatch]
    exact pipe.orderly.stopped

/-- The teardown may cut the pipe, but keeps what is in it in order. -/
theorem teardown (pipe : Pipe offered asked consumed k h p) (move : h.TeardownMove k k' h') :
    Pipe offered asked consumed k' h' p := by
  have past := pipe.orderly.past
  have keeps := move.keepsRings
  cases move with
  | rest => exact pipe
  | askExits here => exact pipe.tearDown (by simp [here]) keeps rfl rfl rfl rfl past
  | passExits here =>
    exact pipe.tearDown (by simp [here]) keeps rfl rfl rfl rfl fun e => by cases e
  | closeDispatch here => exact pipe.closeDispatch (by simp [here])
  | passDispatch here closed =>
    simp only [isClosed, Bool.and_eq_true, decide_eq_true_eq] at closed
    exact pipe.tearDown (by simp [here]) keeps rfl rfl rfl rfl fun _ => closed.1.1
  | askQueued here => exact pipe.stopQueued (by simp [here]) (past (by rw [here]; rfl))
  | passQueued here | dropScheduler here | dropProbe here | passProbes here | unload here =>
    -- these stages were entered through a closed gate, so what the loop still holds cannot get
    -- into the queue
    have closed : h.dispatch.gate = .closed := past (by rw [here]; rfl)
    exact pipe.tearDown (by simp [here]) keeps rfl rfl rfl rfl fun _ => closed

/-! #### The loop -/

/-- The loop gets to a phase with the same tasks and decisions under way. -/
theorem goTo (pipe : Pipe offered asked consumed k h p) {phase : PlacePhase}
    (asking : phase.asking = p.phase.asking) (behind : phase.behind = p.phase.behind)
    (unsent : phase ≠ .finished → p.phase ≠ .finished ∧ phase.unsent = p.phase.unsent)
    (unsettled : ∀ told, phase ≠ .sending (.returned told)) :
    Pipe offered asked consumed k h { p with phase } :=
  { pipe with
    fence := by rw [behind]; exact pipe.fence
    tasks := by rw [asking]; exact pipe.tasks
    unsent := fun running => by
      obtain ⟨was, same⟩ := unsent running
      rw [same]
      exact pipe.unsent was
    unsettled := unsettled }

/-- While a call-out is under way, every earlier task was placed. -/
theorem placed_eq (pipe : Pipe offered asked consumed k h p) {t : Task} {phase : CallPhase}
    (here : p.phase = .selecting t phase) : p.placed = asked.length := by
  have waits : (asked.drop p.placed).map decisionFor = [] := by
    rw [pipe.unsent (by simp [here]), here]
    rfl
  rw [List.map_eq_nil_iff, List.drop_eq_nil_iff] at waits
  exact Nat.le_antisymm pipe.placed waits

/-- The call-out for the task at hand returns. -/
theorem answer (pipe : Pipe offered asked consumed k h p) {t : Task} {phase : CallPhase}
    (here : p.phase = .selecting t phase) (r : CallResult) {phase' : PlacePhase}
    (asking : phase'.asking = []) (behind : phase'.behind = 0)
    (unsent : phase' ≠ .finished → phase'.unsent = [decisionFor (t, r)])
    (unsettled : ∀ told, phase' ≠ .sending (.returned told)) :
    Pipe offered (asked ++ [(t, r)]) consumed k h { p with phase := phase' } := by
  -- the new answer is the first that is not placed
  have placed := pipe.placed_eq here
  have earlier : (asked ++ [(t, r)]).take p.placed = asked.take p.placed := by
    rw [placed, List.take_left, List.take_length]
  have fence := pipe.fence
  have tasks := pipe.tasks
  rw [here] at fence tasks
  refine { pipe with fence := ?_, tasks := ?_, decisions := ?_, placed := ?_, unsent := ?_
                     unsettled := unsettled, ordered := ?_ }
  · rw [behind]
    exact fence
  · rw [asking, List.append_nil, List.map_append]
    exact tasks
  · rw [earlier]
    exact pipe.decisions
  · rw [placed, List.length_append]
    exact Nat.le_add_right _ _
  · intro running
    rw [unsent running, placed, List.drop_left]
    rfl
  · rw [earlier]
    exact pipe.ordered

/-- The loop's send goes on, or it ends the loop. -/
theorem sendOn (pipe : Pipe offered asked consumed k h p) {s s' : Sender}
    {dispatch : DispatchStream} (here : p.phase = .sending s)
    (move : SendMove h.dispatch s dispatch s') (out : joined s s' = []) {phase : PlacePhase}
    (asking : phase.asking = []) (behind : phase.behind = s'.behind)
    (unsent : phase ≠ .finished → phase.unsent = p.phase.unsent)
    (unsettled : ∀ told, phase ≠ .sending (.returned told)) :
    Pipe offered asked consumed k { h with dispatch } { p with phase } := by
  have fence := pipe.fence
  have tasks := pipe.tasks
  have decisions := pipe.decisions.send move
  have waits := pipe.unsent (by simp [here])
  rw [here] at fence tasks
  rw [out, List.append_nil] at decisions
  -- the decision stays with the loop, so only the gate and the fence have moved
  refine { pipe with
    dispatchMap := move.map_eq.trans pipe.dispatchMap
    fence := ?_
    orderly := pipe.orderly.setDispatch move.gate_eq
    tasks := ?_
    decisions := decisions
    unsent := fun running => ?_
    unsettled := unsettled }
  · rw [behind]
    have counted : h.dispatch.Fence (s.behind + 0) := fence
    exact counted.send move
  · rw [asking]
    exact tasks
  · rw [waits, unsent running]

/-- The decision enters the dispatch queue.  The gate is open then, so the queued stream is not
stopped, and the tasks received are the first that were offered. -/
theorem accept (pipe : Pipe offered asked consumed k h p) {d : Decision}
    (here : p.phase = .sending (.inside d)) {dispatch : DispatchStream}
    (move : SendMove h.dispatch (.inside d) dispatch (.returned true)) :
    Pipe offered asked consumed k { h with dispatch }
      { phase := .idle, placed := p.placed + 1 } := by
  have fence := pipe.fence
  have tasks := pipe.tasks
  have waits := pipe.unsent (by simp [here])
  rw [here] at fence tasks waits
  -- the loop itself is behind the gate
  have unlocked : h.dispatch.gate ≠ .closed := by
    intro closed
    have none := fence.closed closed
    rw [fence.inside] at none
    cases none
  have running : h.queued.stop = false := by
    rcases stop : h.queued.stop with - | -
    · rfl
    · exact absurd (pipe.orderly.stopped stop) unlocked
  -- what was not placed is this decision's task, so now all tasks asked for are placed
  have one : (asked.drop p.placed).length = 1 := by
    have count := congrArg List.length waits
    rwa [List.length_map] at count
  have length : asked.length = p.placed + 1 := by
    rw [List.length_drop] at one
    have placed := pipe.placed
    omega
  have all : asked.take (p.placed + 1) = asked := by
    rw [← length, List.take_length]
  have split : asked.map decisionFor = (asked.take p.placed).map decisionFor ++ [d] := by
    calc
      asked.map decisionFor = (asked.take p.placed ++ asked.drop p.placed).map decisionFor := by
        rw [List.take_append_drop]
      _ = (asked.take p.placed).map decisionFor ++ [d] := by
        rw [List.map_append, waits]
        rfl
  have whole := tasks.whole running
  refine { pipe with
    dispatchMap := move.map_eq.trans pipe.dispatchMap
    fence := ?_
    orderly := pipe.orderly.setDispatch move.gate_eq
    tasks := tasks
    decisions := ?_
    placed := Nat.le_of_eq length.symm
    unsent := fun _ => ?_
    unsettled := fun told e => by cases e
    ordered := ?_ }
  · have counted : h.dispatch.Fence ((Sender.inside d).behind + 0) := fence
    exact counted.send move
  · rw [all, split]
    exact pipe.decisions.send move
  · rw [← length, List.drop_length]
    rfl
  · rw [all, ← whole, List.append_assoc]
    exact List.prefix_append _ _

/-- A step of the loop's send. -/
theorem send (pipe : Pipe offered asked consumed k h p) {s s' : Sender}
    {dispatch : DispatchStream} (here : p.phase = .sending s)
    (move : SendMove h.dispatch s dispatch s') :
    Pipe offered asked consumed k { h with dispatch } (p.afterSend s') := by
  have step := move
  cases move with
  | enter | kept | timeOut =>
    have same := congrArg PlacePhase.unsent here
    exact pipe.sendOn here step rfl rfl rfl (fun _ => same.symm) fun told e => by cases e
  | turnedAway | lost =>
    exact pipe.sendOn here step rfl rfl rfl (fun e => absurd rfl e) fun told e => by cases e
  | join => exact pipe.accept here step
  | done => exact absurd here (pipe.unsettled _)

/-- The loop moves a task from the queue through its call-out to the queue of decisions. -/
theorem place {answers : List (Task × CallResult)} {p' : PlacementLoop}
    (pipe : Pipe offered asked consumed k h p)
    (move : PlacementLoop.PlaceMove k h p answers k' h' p') :
    Pipe offered (asked ++ answers) consumed k' h' p' := by
  cases move with
  | look here there =>
    have before := PlacePhase.empty_of_isFree (.inl here)
    have after := PlacePhase.empty_of_isFree there
    rw [List.append_nil]
    refine pipe.goTo (after.asking.trans before.asking.symm)
      (after.behind.trans before.behind.symm) (fun _ => ⟨fun ended => ?_, ?_⟩) after.unsettled
    · rw [ended] at here
      cases here
    · exact after.unsent.trans before.unsent.symm
  | readExit here front =>
    rw [List.append_nil]
    have o := pipe.orderly
    exact pipe.frame_of_keepsRings (.refl k) rfl (EventStream.map_take? front) rfl
      ⟨o.opened, o.past, o.stopped⟩
  | take here front =>
    -- the task goes from the queue into the hands of the loop
    have waits := pipe.unsent (by simp [here])
    have tasks := pipe.tasks.take front
    have fence := pipe.fence
    have nothing : (PlacePhase.receiving).asking = [] := rfl
    rw [here] at fence waits
    rw [here, nothing, List.append_nil] at tasks
    rw [List.append_nil]
    exact { pipe with
      fence := fence
      orderly := pipe.orderly.setQueued rfl
      tasks := tasks
      unsent := fun _ => waits
      unsettled := fun told e => by cases e }
  | ask here keeps =>
    rw [List.append_nil]
    refine (pipe.callout keeps _).goTo ?_ ?_ (fun _ => ?_) fun told e => by cases e
    · rw [here]
      rfl
    · rw [here]
      rfl
    · rw [here]
      exact ⟨by simp, rfl⟩
  | @place t phase r _ _ here keeps =>
    exact (pipe.callout keeps _).answer here r rfl rfl (fun _ => rfl) fun told e => by cases e
  | giveUp here keeps =>
    exact (pipe.callout keeps _).answer here _ rfl rfl (fun e => absurd rfl e) fun told e => by
      cases e
  | send here move =>
    rw [List.append_nil]
    exact pipe.send here move
  | rest ended =>
    rw [List.append_nil]
    exact pipe

end Pipe

end SchedPlane
