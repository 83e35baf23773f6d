/-
SchedPlane/Proofs/HandleFinal.lean

Closed is final.

When the teardown of a handle is done, four things are in force at once: the closed flag is set,
the gate of the dispatch stream is shut with nobody behind it, the three worker threads have ended,
and the object is unloaded (`Handle.Ended`).  From then on nobody who has kept an invoker, a sender
or a receiver gets anything done but taking out the items that are still queued: `After` says what
any further run can have changed, and `HandleRun.closed_step` that the handle remains so.

Call-outs are the one exception.  A call-out that had found the handle open before it was closed may
still be under way, and is then counted.  No new one gets so far, and where none is under way
(`Quiet`) the counters stay as they are.

Main result: `closed_is_final`.
-/
import SchedPlane.Proofs.HandleRuns
import SchedPlane.Proofs.KernelRuns

namespace SchedPlane

open Kernel (Lived)
open DispatchStream

/-! ### The end of a handle -/

/-- Whether a call-out of the loop has found the handle open and has not returned. -/
def PlacePhase.admitted : PlacePhase → Bool
  | .selecting _ phase => phase.admitted
  | _ => false

/-- A handle whose close has ended. -/
structure Handle.Ended (h : Handle) : Prop where
  closed : h.closed = true
  done : h.teardown = .done
  exits : h.exits.isFinished = true
  queued : h.queued.isFinished = true
  dispatch : h.dispatch.isFinished = true
  shut : h.dispatch.gate = .closed

namespace Deployment

variable {d d' d'' : Deployment}

/-- Whether the call-out of a number has found the handle open and has not returned. -/
def inCall (d : Deployment) (n : Nat) : Bool :=
  match d.calls[n]? with
  | some c => c.phase.admitted
  | none => false

/-- Whether the call-out of the loop has found the handle open and has not returned. -/
def loopInCall (d : Deployment) : Bool :=
  match d.loop with
  | some p => p.phase.admitted
  | none => false

/-- No call-out that has found the handle open is under way. -/
def Quiet (d : Deployment) : Prop :=
  (∀ n, d.inCall n = false) ∧ d.loopInCall = false

/-- A deployment whose handle is closed, and nobody is behind the gate. -/
structure Closed (d : Deployment) : Prop where
  ended : d.handle.Ended
  manned : d.Manned
  outside : d.behind = 0

/-- What can be different after a handle was closed: receivers take from the queues, and call-outs
that had found the handle open are counted. -/
structure After (d d' : Deployment) : Prop where
  handle : d'.handle =
    { d.handle with
      queued := { d.handle.queued with queue := d'.handle.queued.queue }
      exits := { d.handle.exits with queue := d'.handle.exits.queue }
      invoker := d'.handle.invoker }
  lived : Lived d.kernel [] d'.kernel
  calls : ∀ n, d'.inCall n = true → d.inCall n = true
  loop : d'.loopInCall = true → d.loopInCall = true
  counts : d.Quiet →
    d'.kernel.runCounts = d.kernel.runCounts ∧ d'.handle.invoker = d.handle.invoker

namespace After

theorem refl (d : Deployment) : After d d :=
  ⟨rfl, .refl _, fun _ inside => inside, fun inside => inside, fun _ => ⟨rfl, rfl⟩⟩

/-- No call-out gets in later, so what was quiet stays quiet. -/
theorem quiet (after : After d d') (quiet : d.Quiet) : d'.Quiet := by
  refine ⟨?_, ?_⟩
  · intro n
    rcases inside : d'.inCall n with - | -
    · rfl
    · have before := after.calls n inside
      rw [quiet.1 n] at before
      cases before
  · rcases inside : d'.loopInCall with - | -
    · rfl
    · have before := after.loop inside
      rw [quiet.2] at before
      cases before

theorem trans (first : After d d') (next : After d' d'') : After d d'' where
  handle := by
    rw [next.handle, first.handle]
  lived := first.lived.trans next.lived
  calls n inside := first.calls n (next.calls n inside)
  loop inside := first.loop (next.loop inside)
  counts quiet := by
    obtain ⟨runs, invoker⟩ := first.counts quiet
    obtain ⟨runs', invoker'⟩ := next.counts (first.quiet quiet)
    exact ⟨runs'.trans runs, invoker'.trans invoker⟩

theorem ended (after : After d d') (ended : d.handle.Ended) : d'.handle.Ended := by
  obtain ⟨closed, done, exits, queued, dispatch, shut⟩ := ended
  rw [after.handle]
  exact ⟨closed, done, exits, queued, dispatch, shut⟩

/-- Something happens to the kernel only. -/
theorem onKernel {k : Kernel} (lived : Lived d.kernel [] k)
    (runs : k.runCounts = d.kernel.runCounts) : After d { d with kernel := k } :=
  ⟨rfl, lived, fun _ inside => inside, fun inside => inside, fun _ => ⟨runs, rfl⟩⟩

/-- A task is taken from its queue. -/
theorem onQueued (d : Deployment) (queue : List Task) :
    After d { d with handle := { d.handle with queued := { d.handle.queued with queue } } } :=
  ⟨rfl, .refl _, fun _ inside => inside, fun inside => inside, fun _ => ⟨rfl, rfl⟩⟩

/-- An exit event is taken from its queue. -/
theorem onExits (d : Deployment) (queue : List ExitEvent) :
    After d { d with handle := { d.handle with exits := { d.handle.exits with queue } } } :=
  ⟨rfl, .refl _, fun _ inside => inside, fun inside => inside, fun _ => ⟨rfl, rfl⟩⟩

end After

end Deployment

/-! ### Steps of the threads -/

/-- On a closed handle no call-out gets in, and one that is outside changes nothing. -/
theorem CallMove.outside {k k' : Kernel} {i i' : Invoker} {q : CallRequest}
    {phase phase' : CallPhase} (move : CallMove true k i q phase k' i' phase')
    (out : phase.admitted = false) : k' = k ∧ i' = i ∧ phase'.admitted = false := by
  cases move with
  | turnedAway | rest => exact ⟨rfl, rfl, rfl⟩
  | unbound opened | enter opened => cases opened
  | astray inside =>
    rw [out] at inside
    cases inside
  | wait | lock | count | start | refuse | launch | answer | stumble | fail | reject => cases out

theorem EventStream.receive_eq {α : Type} (s : EventStream α) :
    s.receive.2 = { s with queue := s.queue.drop 1 } := by
  unfold receive take?
  rcases s with ⟨name, map, capacity, - | ⟨x, rest⟩, phase, counters, stop, failing⟩ <;> rfl

namespace Deployment

variable {d : Deployment}

/-- A step of a call-out. -/
theorem Closed.call (closed : d.Closed) (n : Nat) : After d (d.step (.call n)) := by
  have lived := (d.step_call n).1
  simp only [step] at lived ⊢
  rcases at_ : d.calls[n]? with - | ⟨q, phase⟩
  · exact .refl d
  · obtain ⟨k', i', phase', stepped, move⟩ :=
      Call.step_move d.handle.closed d.kernel d.handle.invoker q phase
    simp only [at_, stepped] at lived ⊢
    rw [closed.ended.closed] at move
    have bound := (List.getElem?_eq_some_iff.mp at_).1
    have here : d.inCall n = phase.admitted := by simp only [inCall, at_]
    refine ⟨rfl, lived, ?_, fun inside => inside, ?_⟩
    · -- only the call that moves can be elsewhere, and it does not get in
      intro m inside
      by_cases same : m = n
      · subst same
        simp only [inCall, List.getElem?_set_self bound] at inside
        rw [here]
        rcases out : phase.admitted with - | -
        · rw [(move.outside out).2.2] at inside
          cases inside
        · rfl
      · simpa only [inCall, List.getElem?_set_ne (Ne.symm same)] using inside
    · intro quiet
      obtain ⟨rfl, rfl, -⟩ := move.outside (here.symm.trans (quiet.1 n))
      exact ⟨rfl, rfl⟩

/-- A step of a blocking send. -/
theorem Closed.send (closed : d.Closed) (n : Nat) : After d (d.step (.dispatch (.send n))) := by
  have stream : (d.line.sendStep n).stream = d.handle.dispatch := by
    rcases d.line.sendStep_cases n with ⟨same, -⟩ | ⟨before, p, after, split, moved, -⟩
    · rw [same]
      rfl
    · -- nobody is behind the gate, and so neither is the send that moves
      have none : d.line.behind = 0 := (Nat.add_eq_zero_iff.mp closed.outside).1
      rw [Line.behind_split split] at none
      rw [moved]
      exact (sendStep_frame_of_closed closed.ended.shut (by omega)).1
  refine ⟨?_, .refl _, fun _ inside => inside, fun inside => inside, fun _ => ⟨rfl, rfl⟩⟩
  show ({ d.handle with dispatch := (d.line.sendStep n).stream } : Handle) = _
  rw [stream]
  rfl

/-- The loop is in its call-out only as long as that has not returned. -/
theorem admitted_afterCall (p : PlacementLoop) (t : Task) (phase : CallPhase) :
    (p.afterCall t { request := .select t, phase }).phase.admitted = phase.admitted := by
  cases phase with
  | returned r =>
    simp only [PlacementLoop.afterCall, PlacementLoop.placeAfter]
    split <;> rfl
  | entering | locking | counting | starting | launching | running | failing | rejected => rfl

theorem admitted_afterSend (p : PlacementLoop) (s : Sender) :
    (p.afterSend s).phase.admitted = false := by
  rcases s with - | - | (- | -) <;> rfl

/-- The loop goes on outside of call-outs, and takes something from a queue at most. -/
theorem After.onLoop {tasks : List Task} {exits : List ExitEvent} {p : PlacementLoop}
    (out : p.phase.admitted = false) :
    After d
      { d with
        handle :=
          { d.handle with
            queued := { d.handle.queued with queue := tasks }
            exits := { d.handle.exits with queue := exits } }
        loop := some p } := by
  refine ⟨rfl, .refl _, fun _ inside => inside, ?_, fun _ => ⟨rfl, rfl⟩⟩
  intro inside
  have inside' : p.phase.admitted = true := inside
  rw [out] at inside'
  cases inside'

/-- A step of the placement loop. -/
theorem Closed.place (closed : d.Closed) : After d (d.step .place) := by
  have lived := d.step_place.1
  have shut := closed.ended.closed
  simp only [step] at lived ⊢
  rcases loop : d.loop with - | ⟨phase, placed⟩
  · exact .refl d
  simp only [loop] at lived ⊢
  cases phase with
  | idle =>
    simp only [PlacementLoop.step, shut]
    exact .onLoop rfl
  | readingExits =>
    rcases front : d.handle.exits.queue with - | ⟨e, rest⟩ <;>
      simp only [PlacementLoop.step, EventStream.take?, front] <;> exact .onLoop rfl
  | receiving =>
    rcases front : d.handle.queued.queue with - | ⟨t, rest⟩ <;>
      simp only [PlacementLoop.step, EventStream.receive, EventStream.take?, front]
    · -- nothing will come any more
      rw [closed.ended.queued]
      exact .onLoop rfl
    · exact .onLoop rfl
  | selecting t phase =>
    -- a call that was turned away before stays outside; one that had found the handle open goes on
    obtain ⟨k', i', phase', stepped, move⟩ :=
      Call.step_move d.handle.closed d.kernel d.handle.invoker (.select t) phase
    simp only [PlacementLoop.step, stepped] at lived ⊢
    rw [shut] at move
    have here : d.loopInCall = phase.admitted := by
      rw [loopInCall, loop]
      rfl
    refine ⟨rfl, lived, fun _ inside => inside, ?_, ?_⟩
    · intro inside
      have inside' : (PlacementLoop.afterCall ⟨_, placed⟩ t _).phase.admitted = true := inside
      rw [admitted_afterCall] at inside'
      rw [here]
      rcases out : phase.admitted with - | -
      · rw [(move.outside out).2.2] at inside'
        cases inside'
      · rfl
    · intro quiet
      obtain ⟨rfl, rfl, -⟩ := move.outside (here.symm.trans quiet.2)
      exact ⟨rfl, rfl⟩
  | sending s =>
    -- nobody is behind the gate, so the send of the loop is before it and is turned away
    have outside : s.behind = 0 := by
      have none := (Nat.add_eq_zero_iff.mp closed.outside).2
      simpa [loop, PlacePhase.behind] using none
    have stream := (sendStep_frame_of_closed closed.ended.shut outside).1
    simp only [PlacementLoop.step]
    rw [stream]
    exact .onLoop (admitted_afterSend _ _)
  | finished => exact .onLoop rfl

/-- **No thread does more to a closed handle** than `After` says. -/
theorem Closed.after_step (closed : d.Closed) (a : Actor) : After d (d.step a) := by
  cases a with
  | teardown =>
    have same : d.handle.teardownStep d.kernel = (d.kernel, d.handle) := by
      simp only [Handle.teardownStep, closed.ended.done]
    simp only [step, same]
    exact .refl d
  | pollExits =>
    have ended := EventStream.phase_of_isFinished closed.ended.exits
    have same := EventStream.advance_of_finished (k := d.kernel) ended
    have lived := d.handle.exits.lived_advance d.kernel
    rw [same, closed.ended.exits] at lived
    simp only [step, same]
    exact .onKernel lived (d.handle.exits.keepsRuns_advance d.kernel).runCounts
  | pollQueued =>
    have ended := EventStream.phase_of_isFinished closed.ended.queued
    have same := EventStream.advance_of_finished (k := d.kernel) ended
    have lived := d.handle.queued.lived_advance d.kernel
    rw [same, closed.ended.queued] at lived
    simp only [step, same]
    exact .onKernel lived (d.handle.queued.keepsRuns_advance d.kernel).runCounts
  | dispatch a =>
    cases a with
    | flush =>
      have same : (d.handle.dispatch.advance d.kernel).2 = d.handle.dispatch :=
        flushStep_of_isFinished closed.ended.dispatch _
      have lived := d.handle.dispatch.lived_advance d.kernel
      rw [same, closed.ended.dispatch] at lived
      simp only [step, Line.advance, setLine, line, same]
      exact .onKernel lived (d.handle.dispatch.keepsRuns_advance d.kernel).runCounts
    | send n => exact closed.send n
  | call n => exact closed.call n
  | place => exact closed.place

end Deployment

namespace HandleRun

variable {r : HandleRun}

/-! ### Runs of a closed handle -/

/-- **Nor does any other action.** -/
theorem after_step (closed : r.deployment.Closed) (a : Action) :
    r.deployment.After (r.step a).deployment := by
  have shut : r.handle.closed = true := closed.ended.closed
  cases a with
  | produce map b =>
    exact .onKernel (Kernel.lived_produce _ map b) (Kernel.keepsRuns_produce _ map b).runCounts
  | consume =>
    rcases taken : r.kernel.takeDispatched with - | ⟨b, k⟩
    · simp only [step, taken]
      exact .refl _
    · simp only [step, taken]
      exact .onKernel (Kernel.lived_takeDispatched taken)
        (Kernel.keepsRuns_takeDispatched taken).runCounts
  | setSubprogram name body => exact .onKernel (Kernel.lived_setSubprogram _ name body) rfl
  | setValue map value => exact .onKernel (Kernel.lived_setValue _ map value) rfl
  | setAttachFailure name failing =>
    exact .onKernel (Kernel.lived_setAttachFailure _ name failing) rfl
  | attach =>
    have asks : r.handle.asks = false := by simp only [Handle.asks, shut]; rfl
    simp only [step, Handle.attach_of_not_asks asks]
    exact .refl _
  | close =>
    simp only [step, Handle.beginClose, shut]
    exact .refl _
  | receiveTask =>
    simp only [step, EventStream.receive_eq]
    exact .onQueued _ _
  | receiveExit =>
    simp only [step, EventStream.receive_eq]
    exact .onExits _ _
  | beginCall request =>
    refine ⟨rfl, .refl _, ?_, fun inside => inside, fun _ => ⟨rfl, rfl⟩⟩
    intro n inside
    -- the call that begins has not looked at the flag yet
    rcases Nat.lt_trichotomy n r.deployment.calls.length with old | new | none
    · simpa only [step, Deployment.inCall, List.getElem?_append_left old] using inside
    · subst new
      simp [step, Deployment.inCall, CallPhase.admitted] at inside
    · have absent : (r.deployment.calls ++ [({ request } : Call)])[n]? = Option.none := by
        rw [List.getElem?_eq_none_iff, List.length_append, List.length_singleton]
        omega
      simp only [step, Deployment.inCall, absent] at inside
      cases inside
  | beginSend | snapshot | stats =>
    exact ⟨rfl, .refl _, fun _ inside => inside, fun inside => inside, fun _ => ⟨rfl, rfl⟩⟩
  | trySend d =>
    have same := trySend_of_closed closed.ended.shut d
    simp only [step, handle, same]
    exact .refl _
  | serve =>
    refine ⟨rfl, .refl _, fun _ inside => inside, ?_, fun _ => ⟨rfl, rfl⟩⟩
    intro inside
    rcases loop : r.deployment.loop with - | p
    · simp [step, Deployment.loopInCall, loop, PlacePhase.admitted] at inside
    · simpa only [step, Deployment.loopInCall, loop, Option.getD_some] using inside
  | thread a =>
    rw [deployment_thread]
    exact closed.after_step a

/-- Nothing opens a closed handle or gets behind its gate. -/
theorem closed_step (closed : r.deployment.Closed) (a : Action) :
    (r.step a).deployment.Closed where
  ended := (after_step closed a).ended closed.ended
  manned := manned_step closed.manned a
  outside := by
    have inside := (manned_step closed.manned a).inside
    rw [(after_step closed a).handle] at inside
    exact inside.symm.trans (closed.manned.inside.trans closed.outside)

theorem closed_run (closed : r.deployment.Closed) (later : List Action) :
    (r.run later).deployment.Closed := by
  induction later generalizing r with
  | nil => exact closed
  | cons a rest ih => exact ih (closed_step closed a)

/-- After any later actions only the queues and the calls that are under way have moved. -/
theorem after_run (closed : r.deployment.Closed) (later : List Action) :
    r.deployment.After (r.run later).deployment := by
  induction later generalizing r with
  | nil => exact .refl _
  | cons a rest ih => exact (after_step closed a).trans (ih (closed_step closed a))

/-! ### Taking what is left -/

/-- Whether an action takes the oldest task, if there is one. -/
def readsTask (r : HandleRun) : Action → Bool
  | .receiveTask => true
  | .thread .place =>
    match r.deployment.loop with
    | some { phase := .receiving, .. } => true
    | _ => false
  | _ => false

/-- Whether an action takes the oldest exit event, if there is one. -/
def readsExit (r : HandleRun) : Action → Bool
  | .receiveExit => true
  | .thread .place =>
    match r.deployment.loop with
    | some { phase := .readingExits, .. } => true
    | _ => false
  | _ => false

/-- What is taken from a queue in the course of some actions, in this order. -/
def handed {α : Type} (queue : HandleRun → List α) (reads : HandleRun → Action → Bool) :
    HandleRun → List Action → List α
  | _, [] => []
  | r, a :: rest =>
    (if reads r a then (queue r).take 1 else []) ++ handed queue reads (r.step a) rest

/-- Where every action on a closed handle takes the oldest item or none, all items are handed out
in order. -/
theorem handed_append {α : Type} {queue : HandleRun → List α}
    {reads : HandleRun → Action → Bool}
    (step_eq : ∀ r : HandleRun, r.deployment.Closed → ∀ a,
      queue (r.step a) = if reads r a then (queue r).drop 1 else queue r)
    (closed : r.deployment.Closed) (later : List Action) :
    handed queue reads r later ++ queue (r.run later) = queue r := by
  -- on the actions to come, from the state that they find
  induction later generalizing r with
  | nil => rfl
  | cons a rest ih =>
    have rest_eq := ih (closed_step closed a)
    rw [step_eq r closed a] at rest_eq
    show _ ++ _ ++ queue ((r.step a).run rest) = queue r
    rw [List.append_assoc, rest_eq]
    cases reads r a with
    | true => exact List.take_append_drop 1 (queue r)
    | false => rfl

/-- On a closed handle nothing is put into the queues any more. -/
theorem queues_step (r : HandleRun) (closed : r.deployment.Closed) (a : Action) :
    (r.step a).handle.queued.queue =
        (if r.readsTask a then r.handle.queued.queue.drop 1 else r.handle.queued.queue) ∧
      (r.step a).handle.exits.queue =
        (if r.readsExit a then r.handle.exits.queue.drop 1 else r.handle.exits.queue) := by
  cases a with
  | produce | consume | setSubprogram | setValue | setAttachFailure | beginCall | beginSend
  | trySend | snapshot | stats | serve => exact ⟨rfl, rfl⟩
  | attach =>
    obtain ⟨-, queued, exits, -⟩ := r.handle.attach_frame r.kernel
    exact ⟨congrArg EventStream.queue queued, congrArg EventStream.queue exits⟩
  | close =>
    simp only [step, Handle.beginClose]
    split <;> exact ⟨rfl, rfl⟩
  | receiveTask => exact ⟨congrArg EventStream.queue r.handle.queued.receive_eq, rfl⟩
  | receiveExit => exact ⟨rfl, congrArg EventStream.queue r.handle.exits.receive_eq⟩
  | thread a =>
    rw [handle, deployment_thread]
    cases a with
    | teardown =>
      -- the teardown is over and does nothing
      simp only [Deployment.step, Handle.teardownStep, closed.ended.done]
      exact ⟨rfl, rfl⟩
    | pollExits =>
      have ended := EventStream.phase_of_isFinished closed.ended.exits
      exact ⟨rfl, congrArg EventStream.queue (EventStream.advance_of_finished ended)⟩
    | pollQueued =>
      have ended := EventStream.phase_of_isFinished closed.ended.queued
      exact ⟨congrArg EventStream.queue (EventStream.advance_of_finished ended), rfl⟩
    | dispatch a => cases a <;> exact ⟨rfl, rfl⟩
    | call n =>
      simp only [Deployment.step]
      split <;> exact ⟨rfl, rfl⟩
    | place =>
      rcases loop : r.deployment.loop with - | ⟨phase, placed⟩
      · simp only [Deployment.step, readsTask, readsExit, loop]
        exact ⟨rfl, rfl⟩
      · simp only [Deployment.step, readsTask, readsExit, loop]
        cases phase with
        | idle | selecting | sending | finished => exact ⟨rfl, rfl⟩
        | readingExits =>
          rcases front : r.deployment.handle.exits.queue with - | ⟨e, rest⟩ <;>
            simp [PlacementLoop.step, EventStream.take?, front, handle]
        | receiving =>
          rcases front : r.deployment.handle.queued.queue with - | ⟨t, rest⟩ <;>
            simp [PlacementLoop.step, EventStream.receive, EventStream.take?, front, handle,
              closed.ended.queued]

/-! ### Final -/

/-- Everybody is turned away from a handle, and nothing about it changes, between the end of its
close at `r` and `r'`, after `later`. -/
structure Final (r : HandleRun) (later : List Action) (r' : HandleRun) : Prop where
  attach : r'.handle.attach r'.kernel = (.error .closed, r'.kernel, r'.handle)
  /-- The two event streams and the dispatcher are not given out. -/
  access : r'.handle.ensureOpen = .error .closed
  snapshot : ∀ region, r'.handle.snapshot r'.kernel region = .error .closed
  /-- Whoever has an invoker: a call-out fails before it does anything. -/
  select : ∀ t, r'.handle.invoker.select r'.handle.closed r'.kernel t =
    (.error .closed, r'.kernel, r'.handle.invoker)
  enableSibling : ∀ q, r'.handle.invoker.enableSibling r'.handle.closed r'.kernel q =
    (.error .closed, r'.kernel, r'.handle.invoker)
  call : ∀ request, Call.step r'.handle.closed r'.kernel r'.handle.invoker { request } =
    (r'.kernel, r'.handle.invoker, { request, phase := .returned (.failed .closed) })
  /-- Call-outs that had not found the handle open before do not find it open now. -/
  admits : (∀ n, r'.deployment.inCall n = true → r.deployment.inCall n = true) ∧
    (r'.deployment.loopInCall = true → r.deployment.loopInCall = true)
  /-- Whoever has a sender: sending fails, and so does each send that is under way. -/
  trySend : ∀ d, r'.handle.dispatch.trySend d = (.closed, r'.handle.dispatch)
  send : ∀ d, r'.handle.dispatch.sendStep (.atGate d) = (r'.handle.dispatch, .returned false)
  sending : ∀ p ∈ r'.deployment.senders, (∃ d, p = .atGate d) ∨ ∃ told, p = .returned told
  /-- Closing or dropping the handle again does nothing. -/
  close : r'.step .close = r' ∧ r'.step (.thread .teardown) = r'
  journal : r'.kernel.journal = r.kernel.journal
  unloaded : r'.kernel.unloaded = true
  attached : r'.kernel.attached = false
  /-- The call-outs are not counted any more, once those that had found the handle open have
  returned. -/
  callouts : r.deployment.Quiet → r'.kernel.runCounts = r.kernel.runCounts ∧
    r'.handle.invoker = r.handle.invoker
  /-- No counter of a stream changes; of the statistics, the lengths of the two queues may. -/
  counters : r'.handle.queued.counters = r.handle.queued.counters ∧
    r'.handle.exits.counters = r.handle.exits.counters ∧
    r'.handle.dispatch.counters = r.handle.dispatch.counters
  stats : r'.handle.stats =
    { r.handle.stats with
      queued := r.handle.queued.counters.snapshot r'.handle.queued.queue.length
      exits := r.handle.exits.counters.snapshot r'.handle.exits.queue.length
      callouts := r'.handle.invoker.stats }
  /-- The tasks and exit events that are left are handed out in order, and no more come. -/
  tasks : handed (·.handle.queued.queue) readsTask r later ++ r'.handle.queued.queue =
    r.handle.queued.queue
  exits : handed (·.handle.exits.queue) readsExit r later ++ r'.handle.exits.queue =
    r.handle.exits.queue

/-- A send on a closed handle is outside the gate or has returned. -/
theorem sending_cases (closed : r.deployment.Closed) {p : Sender}
    (mem : p ∈ r.deployment.senders) : (∃ d, p = .atGate d) ∨ ∃ told, p = .returned told := by
  obtain ⟨before, after, split⟩ := List.append_of_mem mem
  have none : r.deployment.line.behind = 0 := (Nat.add_eq_zero_iff.mp closed.outside).1
  rw [Line.behind_split split] at none
  cases p with
  | atGate d => exact .inl ⟨d, rfl⟩
  | inside d =>
    have here : Sender.behind (.inside d) = 1 := rfl
    omega
  | returned told => exact .inr ⟨told, rfl⟩

/-- The end of a close, from what every run keeps. -/
theorem Sound.closed {opening : List JournalEntry} {registry : Registry}
    (sound : Sound opening registry r) (done : r.handle.teardown = .done) :
    r.deployment.Closed := by
  have shut := sound.gated.shut (by simp [done, Teardown.rank])
  exact
    { ended :=
        { closed := by
            show r.handle.closed = true
            rw [sound.flags.closed, done]
            rfl
          done
          exits := sound.staged.exitsDone (by simp [done, Teardown.rank])
          queued := sound.staged.queuedDone (by simp [done, Teardown.rank])
          dispatch := sound.staged.dispatchDone (by simp [done, Teardown.rank])
          shut }
      manned := sound.manned
      outside := sound.manned.inside.symm.trans (sound.gated.empty shut) }

/-- What the handle says to everybody is a matter of its closed flag and of its gate. -/
theorem final_of_closed {later : List Action} {r' : HandleRun} (closed : r'.deployment.Closed)
    (after : r.deployment.After r'.deployment) (unloaded : r.kernel.unloaded = true)
    (attached : r.kernel.attached = false)
    (tasks : handed (·.handle.queued.queue) readsTask r later ++ r'.handle.queued.queue =
      r.handle.queued.queue)
    (exits : handed (·.handle.exits.queue) readsExit r later ++ r'.handle.exits.queue =
      r.handle.exits.queue) : Final r later r' := by
  -- two flags: one for attaching, reading and call-outs, and one for the senders
  have shut : r'.handle.closed = true := closed.ended.closed
  have gate : r'.handle.dispatch.gate = .closed := closed.ended.shut
  exact
    { attach := by
        have asks : r'.handle.asks = false := by simp only [Handle.asks, shut]; rfl
        rw [Handle.attach_of_not_asks asks, shut]
        rfl
      access := if_pos shut
      snapshot := by
        intro region
        simp only [Handle.snapshot, Handle.ensureOpen, shut]
        rfl
      select := by
        intro t
        simp only [Invoker.select, Invoker.check, shut, if_true]
      enableSibling := by
        intro q
        simp only [Invoker.enableSibling, Invoker.check, shut, if_true]
      call := by
        intro request
        simp only [Call.step, Invoker.check, shut, if_true, Call.goto]
      admits := ⟨after.calls, after.loop⟩
      trySend := trySend_of_closed gate
      send := by
        intro d
        simp only [sendStep, gate]
      sending := fun _ => sending_cases closed
      close := by
        constructor
        · simp only [step, Handle.beginClose, shut]
          rfl
        · simp only [step, Deployment.step, Handle.teardownStep, closed.ended.done]
      journal := after.lived.journal.trans (List.append_nil _)
      unloaded := after.lived.unloaded.trans unloaded
      attached := after.lived.attached.trans attached
      callouts := after.counts
      counters := by
        refine ⟨?_, ?_, ?_⟩
        · exact congrArg (·.queued.counters) after.handle
        · exact congrArg (·.exits.counters) after.handle
        · exact congrArg (·.dispatch.counters) after.handle
      stats := congrArg Handle.stats after.handle
      tasks
      exits }

/-- **Closed is final.**  Let the close of a handle have ended, after whatever else was done with
it.  Then everybody is turned away, closing it again does nothing, and neither the journal, nor a
flag of the kernel, nor a counter of a stream, nor a run of a subprogram is ever added to; receivers
get what was queued, in order.  Only a call-out that had found the handle open before may still be
counted. -/
theorem closed_is_final {c : Controller} {k k' : Kernel} (intact : k.Intact) {artifact : Artifact}
    {h : Handle} (loaded : c.load k artifact = (.ok h, k')) (actions : List Action)
    (done : ((starting h k').run actions).handle.teardown = .done) (later : List Action) :
    Final ((starting h k').run actions) later (((starting h k').run actions).run later) := by
  obtain ⟨registry, -, complete, hosts⟩ := Controller.loaded_of_load intact loaded
  have sound := (sound_starting complete hosts).run actions
  generalize (starting h k').run actions = r at sound done ⊢
  have closed := sound.closed done
  have unloaded : r.kernel.unloaded = true := by
    rw [sound.flags.unloaded, done]
    rfl
  have attached : r.kernel.attached = false := by
    rw [sound.flags.attached, sound.flags.scheduler, done]
    simp [Teardown.rank]
  refine final_of_closed (closed_run closed later) (after_run closed later) unloaded attached ?_ ?_
  · exact handed_append (fun r closed a => (queues_step r closed a).1) closed later
  · exact handed_append (fun r closed a => (queues_step r closed a).2) closed later

/-- An object with nothing special. -/
def standardLoad : Load where
  controller := .plain
  object := Blueprint.standard.build
  succeeds := by decide +kernel

/-- Two tasks and an exit event are queued and a call-out has returned when the handle is closed. -/
def closedWhenQueued : List Action :=
  [Action.produce Contract.queued (Task.encode ⟨1, 0, 0⟩),
    .produce Contract.queued (Task.encode ⟨2, 0, 0⟩), .produce Contract.exit [7],
    .beginCall (.select ⟨3, 1, 0⟩), .beginSend ⟨[1]⟩] ++
  List.replicate 8 (Action.thread (.call 0)) ++ List.replicate 6 (Action.thread .pollQueued) ++
  List.replicate 4 (Action.thread .pollExits) ++ Action.close :: threadsRun

/-- Everything is tried again. -/
def afterwards : List Action :=
  [.attach, .trySend ⟨[2]⟩, .thread (.dispatch (.send 0)), .beginCall (.select ⟨4, 1, 0⟩),
    .thread (.call 1), .receiveExit, .serve, .thread .place, .close, .thread .teardown,
    .produce Contract.queued [8], .thread .pollQueued, .receiveTask, .setAttachFailure "x" true]

/-- With items queued, a call-out returned and a send at the gate, everything is tried again on the
closed handle: the receivers get what is left, and all others are turned away. -/
theorem closed_is_final_afterwards :
    let r := (starting standardLoad.handle standardLoad.kernel).run closedWhenQueued
    let r' := r.run afterwards
    Final r afterwards r' ∧ r.handle.teardown = .done ∧
      r.handle.queued.queue = [⟨1, 0, 0⟩, ⟨2, 0, 0⟩] ∧ r'.handle.queued.queue = [⟨2, 0, 0⟩] ∧
      r.handle.exits.queue = [⟨[7]⟩] ∧ r'.handle.exits.queue = [] ∧
      r'.deployment.senders = [.returned false] ∧
      r'.deployment.calls.map Call.result? =
        [some (.selected (.ofRaw 1)), some (.failed .closed)] := by
  have done : ((starting standardLoad.handle standardLoad.kernel).run
      closedWhenQueued).handle.teardown = .done := by decide +kernel
  exact ⟨closed_is_final (Kernel.intact_build _ _) standardLoad.loaded closedWhenQueued done
    afterwards, done, by decide +kernel, by decide +kernel, by decide +kernel, by decide +kernel,
    by decide +kernel, by decide +kernel⟩

end HandleRun

end SchedPlane
