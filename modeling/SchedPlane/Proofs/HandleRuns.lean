/-
SchedPlane/Proofs/HandleRuns.lean

Runs of a handle, from its load to the end of its close.

A run starts with a handle that was just loaded and lets everybody act in any order: the kernel
puts records on its rings, takes decisions and changes its subprograms, values and failing
attaches; the handle is attached and closed; others receive, send, make call-outs and read; and
the threads of the deployment step.  Dropping a handle closes it, so the action `close` stands
for both.  The run remembers what attaches were answered, how many of them asked the kernel, and
where in the journal the flush thread died, if it did.

Two main results.  `lifecycle`: the state of the handle, its links and the flags of the kernel
agree at every moment at which no close is under way; the kernel is asked to attach once at
most, and a failed attach is final.  `lifetime_journal`: when the close has ended, the journal is
`lifetime`, whatever has happened in between, and the close can always end.
-/
import SchedPlane.Proofs.FairClosing
import SchedPlane.Proofs.HandleJournal

namespace SchedPlane

open Kernel (Lived)

/-- A run of a handle, with its history. -/
structure HandleRun where
  deployment : Deployment
  /-- The answers to the attaches, oldest first. -/
  attaches : List (Except ControlError Unit) := []
  /-- The number of attaches that asked the kernel. -/
  asked : Nat := 0
  /-- The length of the journal when the flush thread died, once it has. -/
  died : Option Nat := none

namespace HandleRun

/-! ### Steps -/

/-- What can happen to a handle. -/
inductive Action where
  /-- The kernel puts a record on the ring of a map. -/
  | produce (map : String) (b : Bytes)
  /-- The kernel takes a decision, if there is one. -/
  | consume
  | setSubprogram (name : String) (body : Subprogram)
  | setValue (map : String) (value : Bytes)
  | setAttachFailure (name : String) (failing : Bool)
  | attach
  /-- The handle is closed or dropped: its teardown begins, unless it has begun before. -/
  | close
  | receiveTask
  | receiveExit
  | beginCall (request : CallRequest)
  /-- Somebody begins to send a decision and is ready to wait. -/
  | beginSend (d : Decision)
  /-- Somebody sends a decision without waiting. -/
  | trySend (d : Decision)
  | snapshot (region : StateRegion)
  | stats
  /-- A placement loop begins to serve the handle, unless one does. -/
  | serve
  /-- A thread takes its next step. -/
  | thread (a : Actor)

/-- The run that begins with a handle. -/
def starting (h : Handle) (k : Kernel) : HandleRun where
  deployment := { kernel := k, handle := h }

/-- The kernel of the run. -/
def kernel (r : HandleRun) : Kernel :=
  r.deployment.kernel

/-- The handle of the run. -/
def handle (r : HandleRun) : Handle :=
  r.deployment.handle

/-- The run with another kernel. -/
def onKernel (r : HandleRun) (kernel : Kernel) : HandleRun :=
  { r with deployment := { r.deployment with kernel } }

/-- The run with another handle. -/
def onHandle (r : HandleRun) (handle : Handle) : HandleRun :=
  { r with deployment := { r.deployment with handle } }

/-- The run after an action.  Reads have no effect. -/
def step (r : HandleRun) : Action → HandleRun
  | .produce map b => r.onKernel (r.kernel.produce map b).2
  | .consume => r.onKernel ((r.kernel.takeDispatched.map Prod.snd).getD r.kernel)
  | .setSubprogram name body => r.onKernel (r.kernel.setSubprogram name body)
  | .setValue map value => r.onKernel (r.kernel.setValue map value)
  | .setAttachFailure name failing => r.onKernel (r.kernel.setAttachFailure name failing)
  | .attach =>
    let (answer, kernel, handle) := r.handle.attach r.kernel
    { r with
      deployment := { r.deployment with kernel, handle }
      attaches := r.attaches ++ [answer]
      asked := if r.handle.asks then r.asked + 1 else r.asked }
  | .close => r.onHandle r.handle.beginClose
  | .receiveTask => r.onHandle { r.handle with queued := r.handle.queued.receive.2 }
  | .receiveExit => r.onHandle { r.handle with exits := r.handle.exits.receive.2 }
  | .beginCall request =>
    { r with deployment := { r.deployment with calls := r.deployment.calls ++ [{ request }] } }
  | .beginSend d =>
    { r with deployment := { r.deployment with senders := r.deployment.senders ++ [.atGate d] } }
  | .trySend d => r.onHandle { r.handle with dispatch := (r.handle.dispatch.trySend d).2 }
  | .snapshot _ | .stats => r
  | .serve =>
    { r with deployment := { r.deployment with loop := some (r.deployment.loop.getD {}) } }
  | .thread (.dispatch .flush) =>
    let deployment := r.deployment.step (.dispatch .flush)
    { r with deployment, died := Handle.noteDeath r.died r.kernel deployment.handle }
  | .thread a => { r with deployment := r.deployment.step a }

/-- The run after a list of actions. -/
def run (r : HandleRun) (actions : List Action) : HandleRun :=
  actions.foldl step r

/-- The actions that move the life of a handle: attaching, closing and the steps of the threads
that a close ends. -/
def Action.moves : Action → Bool
  | .attach | .close | .thread .teardown | .thread .pollExits | .thread .pollQueued
  | .thread (.dispatch .flush) => true
  | _ => false

/-- The actions that move the life of a handle, one by one. -/
inductive Action.Mover : Action → Prop
  | attach : Mover .attach
  | close : Mover .close
  | teardown : Mover (.thread .teardown)
  | pollExits : Mover (.thread .pollExits)
  | pollQueued : Mover (.thread .pollQueued)
  | flush : Mover (.thread (.dispatch .flush))

/-- There are no others. -/
theorem Action.mover {a : Action} (moves : a.moves = true) : a.Mover := by
  cases a with
  | attach => exact .attach
  | close => exact .close
  | thread a =>
    cases a with
    | teardown => exact .teardown
    | pollExits => exact .pollExits
    | pollQueued => exact .pollQueued
    | dispatch a =>
      cases a with
      | flush => exact .flush
      | send => cases moves
    | call | place => cases moves
  | _ => cases moves

variable {r : HandleRun} {opening : List JournalEntry} {registry : Registry}

/-! ### What every step keeps -/

/-- The life of the handle is in order, and the journal tells it. -/
structure Sound (opening : List JournalEntry) (registry : Registry) (r : HandleRun) : Prop where
  registry : r.handle.registry = registry
  staged : r.handle.Staged
  flags : Handle.Flags r.attaches r.asked r.kernel r.handle
  written : Handle.Written opening (Handle.won r.attaches) r.died r.kernel r.handle
  manned : r.deployment.Manned
  gated : r.handle.Gated
  fenced : r.handle.dispatch.Fenced

/-- What does not move the life of the handle. -/
structure Calm (r r' : HandleRun) : Prop where
  lived : Lived r.kernel [] r'.kernel
  still : r.handle.Still r'.handle
  attaches : r'.attaches = r.attaches
  asked : r'.asked = r.asked
  died : r'.died = r.died

/-- What moves neither the life of the handle nor the gate keeps all of it. -/
theorem Sound.calm {r' : HandleRun} (s : Sound opening registry r) (calm : Calm r r')
    (manned : r'.deployment.Manned) (gated : r'.handle.Gated)
    (fenced : r'.handle.dispatch.Fenced) : Sound opening registry r' where
  registry := calm.still.registry.trans s.registry
  staged := s.staged.still calm.still
  flags := by
    rw [calm.attaches, calm.asked]
    exact s.flags.still calm.lived calm.still
  written := by
    rw [calm.attaches, calm.died]
    exact s.written.still calm.lived calm.still
  manned := manned
  gated := gated
  fenced := fenced

theorem calm_onKernel {k : Kernel} (lived : Lived r.kernel [] k) : Calm r (r.onKernel k) :=
  ⟨lived, .refl _, rfl, rfl, rfl⟩

theorem calm_onHandle {h : Handle} (still : r.handle.Still h) : Calm r (r.onHandle h) :=
  ⟨.refl _, still, rfl, rfl, rfl⟩

/-- **Everything but attaching, closing and the threads that a close ends leaves the life of the
handle alone.** -/
theorem calm_step (r : HandleRun) {a : Action} (rests : a.moves = false) : Calm r (r.step a) := by
  cases a with
  | produce map b => exact calm_onKernel (Kernel.lived_produce _ map b)
  | consume =>
    refine calm_onKernel ?_
    rcases taken : r.kernel.takeDispatched with - | ⟨b, k⟩
    · exact .refl _
    · exact Kernel.lived_takeDispatched taken
  | setSubprogram name body => exact calm_onKernel (Kernel.lived_setSubprogram _ name body)
  | setValue map value => exact calm_onKernel (Kernel.lived_setValue _ map value)
  | setAttachFailure name failing =>
    exact calm_onKernel (Kernel.lived_setAttachFailure _ name failing)
  | receiveTask => exact calm_onHandle (Handle.still_queued r.handle.queued.still_receive)
  | receiveExit => exact calm_onHandle (Handle.still_exits r.handle.exits.still_receive)
  | trySend d => exact calm_onHandle (Handle.still_dispatch (r.handle.dispatch.still_trySend d))
  | beginCall | beginSend | snapshot | stats | serve => exact ⟨.refl _, .refl _, rfl, rfl, rfl⟩
  | thread a =>
    cases a with
    | dispatch a =>
      cases a with
      | flush => cases rests
      | send n =>
        obtain ⟨same, still⟩ := r.deployment.step_send n
        exact ⟨.refl _, still, rfl, rfl, rfl⟩
    | call n =>
      obtain ⟨lived, still⟩ := r.deployment.step_call n
      exact ⟨lived, still, rfl, rfl, rfl⟩
    | place =>
      obtain ⟨lived, still⟩ := r.deployment.step_place
      exact ⟨lived, still, rfl, rfl, rfl⟩
    | teardown | pollExits | pollQueued => cases rests
  | attach | close => cases rests

/-- The threads act on the deployment; the run takes note of a death only. -/
theorem deployment_thread (r : HandleRun) (a : Actor) :
    (r.step (.thread a)).deployment = r.deployment.step a := by
  rcases a with - | - | - | (- | n) | n | - <;> rfl

/-- No action takes a ring away or miscounts the sends behind the gate. -/
theorem manned_step (m : r.deployment.Manned) (a : Action) : (r.step a).deployment.Manned := by
  cases a with
  | attach =>
    obtain ⟨keeps, -, -, dispatch, -, -⟩ := r.handle.attach_frame r.kernel
    refine m.frame (fun map ring => ?_) (congrArg DispatchStream.inside dispatch) rfl rfl
    show ((r.handle.attach r.kernel).2.1.rings.get? map).isSome
    rw [keeps.rings]
    exact ring
  | close =>
    have inside : r.handle.beginClose.dispatch.inside = r.handle.dispatch.inside := by
      rw [Handle.beginClose_frame]
    exact m.frame (fun _ ring => ring) inside rfl rfl
  | beginSend d =>
    refine ⟨m.exits, m.queued, m.inside.trans ?_⟩
    exact congrArg (· + _) (r.deployment.line.behind_append d).symm
  | serve =>
    refine ⟨m.exits, m.queued, m.inside.trans ?_⟩
    rcases loop : r.deployment.loop with - | p <;>
      simp [step, Deployment.behind, Deployment.line, loop, PlacePhase.behind]
  | trySend d =>
    have inside : (r.handle.dispatch.trySend d).2.inside = r.handle.dispatch.inside := by
      rw [DispatchStream.trySend_frame]
    exact m.frame (fun _ ring => ring) inside rfl rfl
  | thread a =>
    rw [deployment_thread]
    exact m.step a
  | produce | consume | setSubprogram | setValue | setAttachFailure | receiveTask | receiveExit
  | beginCall | snapshot | stats =>
    exact m.frame (r.calm_step rfl).lived.rings rfl rfl rfl

/-- Nobody gets behind a shut gate, whatever is done to the handle. -/
theorem gated_step (g : r.handle.Gated) (a : Action) : (r.step a).handle.Gated := by
  cases a with
  | attach =>
    obtain ⟨-, -, -, dispatch, -, teardown⟩ := r.handle.attach_frame r.kernel
    exact g.frame (congrArg DispatchStream.gate dispatch) (congrArg DispatchStream.inside dispatch)
      teardown
  | close => exact g.beginClose
  | trySend d =>
    have gate : (r.handle.dispatch.trySend d).2.gate = r.handle.dispatch.gate := by
      rw [DispatchStream.trySend_frame]
    have inside : (r.handle.dispatch.trySend d).2.inside = r.handle.dispatch.inside := by
      rw [DispatchStream.trySend_frame]
    exact g.frame gate inside rfl
  | thread a =>
    rw [handle, deployment_thread]
    exact Deployment.gated_step g a
  | produce | consume | setSubprogram | setValue | setAttachFailure | receiveTask | receiveExit
  | beginCall | beginSend | snapshot | stats | serve => exact g.frame rfl rfl rfl

/-- The stop flag is set behind a shut gate only, whatever is done to the handle. -/
theorem fenced_step (f : r.handle.dispatch.Fenced) (a : Action) :
    (r.step a).handle.dispatch.Fenced := by
  cases a with
  | attach =>
    obtain ⟨-, -, -, dispatch, -, -⟩ := r.handle.attach_frame r.kernel
    exact dispatch ▸ f
  | close =>
    have same : r.handle.beginClose.dispatch = r.handle.dispatch := by
      rw [Handle.beginClose_frame]
    exact same ▸ f
  | trySend d =>
    show (r.handle.dispatch.trySend d).2.Fenced
    rcases r.handle.dispatch.trySend_cases d with ⟨taken, -, running, -⟩ | ⟨-, same⟩
    · rw [taken]
      refine ⟨f.stopped, fun ended => ?_⟩
      have here : r.handle.dispatch.phase = .finished := ended
      simp [DispatchStream.isFinished, here] at running
    · rw [same]
      exact f
  | thread a =>
    rw [handle, deployment_thread]
    exact Deployment.fenced_step f a
  | produce | consume | setSubprogram | setValue | setAttachFailure | receiveTask | receiveExit
  | beginCall | beginSend | snapshot | stats | serve => exact f

/-- **Each action keeps the life of the handle in order.** -/
theorem Sound.step (s : Sound opening registry r) (a : Action) :
    Sound opening registry (r.step a) := by
  have manned := manned_step s.manned a
  have gated := gated_step s.gated a
  have fenced := fenced_step s.fenced a
  cases moves : a.moves
  · exact s.calm (r.calm_step moves) manned gated fenced
  · -- the flags and the journal of a step are read off what they and the stages were before it
    obtain ⟨same, staged, flags, written, -, -, -⟩ := s
    cases Action.mover moves with
    | attach =>
      exact ⟨(r.handle.registry_attach r.kernel).trans same, staged.attach r.kernel, flags.attach,
        written.attach staged flags, manned, gated, fenced⟩
    | close =>
      have opened : r.handle.closed = false → r.handle.teardown = .notBegun := fun opened => by
        simpa [opened] using flags.closed
      exact ⟨r.handle.registry_beginClose.trans same, staged.beginClose opened, flags.beginClose,
        written.beginClose flags, manned, gated, fenced⟩
    | teardown =>
      have move := r.handle.teardownStep_move r.kernel
      exact ⟨(r.handle.registry_teardownStep r.kernel).trans same, staged.teardown move,
        flags.teardown move, written.teardown flags move, manned, gated, fenced⟩
    | pollExits =>
      exact ⟨same, staged.pollExits r.kernel,
        flags.frame (r.handle.exits.lived_advance r.kernel) rfl rfl rfl rfl rfl rfl rfl,
        written.pollExits staged flags, manned, gated, fenced⟩
    | pollQueued =>
      exact ⟨same, staged.pollQueued r.kernel,
        flags.frame (r.handle.queued.lived_advance r.kernel) rfl rfl rfl rfl rfl rfl rfl,
        written.pollQueued staged flags, manned, gated, fenced⟩
    | flush =>
      exact ⟨same, staged.flush r.kernel,
        flags.frame (r.handle.dispatch.lived_advance r.kernel) rfl rfl rfl rfl rfl rfl rfl,
        written.flush staged flags, manned, gated, fenced⟩

theorem Sound.run (s : Sound opening registry r) (actions : List Action) :
    Sound opening registry (r.run actions) :=
  List.foldlRecOn (motive := Sound opening registry) actions HandleRun.step s
    fun _ sound a _ => sound.step a

/-- The run of a handle that was just loaded. -/
theorem sound_starting {c : Controller} {k₀ k : Kernel} {artifact : Artifact} {h : Handle}
    (loaded : h.Loaded c registry) (hosts : k₀.Hosts artifact registry k) :
    Sound (k₀.journal ++ .loaded artifact.describe :: registry.plan.map Acquisition.acquired)
      registry (starting h k) where
  registry := loaded.registry
  staged := .fresh loaded.toFresh
  flags := .fresh loaded hosts
  written := .fresh loaded hosts
  manned :=
    { exits := hosts.rings _ (by simp)
      queued := hosts.rings _ (by simp)
      inside := by
        show h.dispatch.inside = 0
        rw [loaded.dispatch] }
  gated := .fresh loaded.toFresh
  fenced := by
    show h.dispatch.Fenced
    rw [loaded.dispatch]
    constructor <;> intro set <;> cases set

/-! ### The end of a close -/

theorem deployment_threads (actors : List Actor) :
    ∀ r : HandleRun, (r.run (actors.map .thread)).deployment =
      actors.foldl Deployment.step r.deployment := by
  induction actors with
  | nil => exact fun r => rfl
  | cons a rest ih =>
    intro r
    rw [List.map_cons, run, List.foldl_cons, List.foldl_cons, ← deployment_thread]
    exact ih (r.step (.thread a))

/-- What every run keeps is enough for a close to begin. -/
theorem Sound.closing (s : Sound opening registry r) :
    Deployment.Closing r.deployment.senders.length (r.step .close).deployment where
  staged := (s.step .close).staged
  manned := (s.step .close).manned
  gated := (s.step .close).gated
  fenced := (s.step .close).fenced
  begun := by
    have closed : (r.step .close).handle.closed = true := by
      show r.handle.beginClose.closed = true
      rw [Handle.beginClose_frame]
    have begun := (s.step .close).flags.closed
    rw [closed] at begun
    show 1 ≤ (r.step .close).handle.teardown.rank
    cases here : (r.step .close).handle.teardown <;> simp [here, Teardown.rank] at begun ⊢
  crowd := rfl

/-- Whatever is going on, the threads can bring a close to its end. -/
theorem Sound.closes (s : Sound opening registry r) :
    ∃ actors : List Actor,
      ((r.step .close).run (actors.map .thread)).handle.teardown = .done := by
  obtain ⟨actors, done⟩ := s.closing.exists_end
  refine ⟨actors, ?_⟩
  rw [handle, deployment_threads]
  exact done

/-! ### The lifecycle -/

/-- The state, the links and the flags of a handle and its kernel are one story. -/
structure Coherent (r : HandleRun) : Prop where
  state : r.handle.state = .loaded ∨ r.handle.state = .attached ∨ r.handle.state = .closed
  /-- The state changes only as the lifecycle allows. -/
  steps : ∀ a, (r.step a).handle.state = r.handle.state ∨
    r.handle.state.canBecome (r.step a).handle.state = true
  /-- Unless a close is under way, an attached handle is one with a link to the scheduler, and the
  kernel says so. -/
  attached : r.handle.teardownAtRest = true →
    (r.handle.state = .attached ↔ r.handle.scheduler.isSome) ∧
      (r.handle.state = .attached ↔ r.kernel.attached = true)
  /-- Unless a close is under way, a closed handle is one whose flag is set and whose object is
  unloaded. -/
  closed : r.handle.teardownAtRest = true →
    (r.handle.state = .closed ↔ r.handle.closed = true) ∧
      (r.handle.state = .closed ↔ r.kernel.unloaded = true)
  /-- The kernel has no scheduler under a handle in another state, not even during a close. -/
  owned : r.kernel.attached = true → r.handle.state = .attached
  asked : r.asked ≤ 1
  accepted : r.attaches.countP (·.isOk) ≤ 1
  /-- An attach that fails leaves the kernel, the state and the links as they are. -/
  refused : ∀ e k h, r.handle.attach r.kernel = (.error e, k, h) →
    k = r.kernel ∧ h.state = r.handle.state ∧ h.scheduler = r.handle.scheduler ∧
      h.probes = r.handle.probes
  /-- After the first attach every further one is refused from the state at hand, whatever the
  kernel would say. -/
  spent : r.attaches ≠ [] → r.handle.closed = false → ∀ k,
    r.handle.attach k = (.error (r.handle.state.refusal .attached), k, r.handle)
  /-- An attach that does not ask the kernel changes nothing, whatever the kernel is like. -/
  unasked : r.handle.asks = false → ∀ k, r.handle.attach k =
    (.error (if r.handle.closed then .closed else r.handle.state.refusal .attached), k, r.handle)
  /-- What the kernel has attached, the handle takes. -/
  granted : r.handle.asks = true → ∀ k l k',
    k.attachScheduler r.handle.registry.structOps.name = .ok (l, k') →
      r.handle.attach k = (.ok (), k', r.handle.withScheduler)
  /-- Whatever is going on, a close can be brought to its end. -/
  closes : ∃ actors : List Actor,
    ((r.step .close).run (actors.map .thread)).handle.teardown = .done

/-- The state moves only by an attach that succeeds and at the end of a close. -/
theorem Sound.state_step (s : Sound opening registry r) (a : Action) :
    (r.step a).handle.state = r.handle.state ∨
      r.handle.state.canBecome (r.step a).handle.state = true := by
  cases moves : a.moves
  · exact .inl (r.calm_step moves).still.state
  · cases Action.mover moves with
    | attach =>
      show (r.handle.attach r.kernel).2.2.state = r.handle.state ∨
        r.handle.state.canBecome (r.handle.attach r.kernel).2.2.state = true
      cases asks : r.handle.asks
      · exact .inl (by rw [Handle.attach_of_not_asks asks])
      · rcases Handle.attach_of_asks asks r.kernel with ⟨e, -, answer⟩ | ⟨l, k', -, -, answer⟩
        · exact .inl (by rw [answer])
        · rw [answer]
          simp only [Handle.asks, Bool.and_eq_true] at asks
          exact .inr asks.2
    | close =>
      refine .inl ?_
      show r.handle.beginClose.state = r.handle.state
      rw [Handle.beginClose_frame]
    | teardown =>
      rcases (r.handle.teardownStep_move r.kernel).state_cases with same | ⟨here, closed⟩
      · exact .inl same
      · refine .inr ?_
        show r.handle.state.canBecome (r.handle.teardownStep r.kernel).2.state = true
        -- the last stage closes the handle, whether it was attached or not
        have state := s.flags.state
        rw [closed]
        cases won : Handle.won r.attaches <;> simp [here, won] at state <;> rw [state] <;> rfl
    | pollExits | pollQueued | flush => exact .inl rfl

/-- All of the lifecycle is read off what every run keeps. -/
theorem Sound.coherent (s : Sound opening registry r) : Coherent r where
  state := s.flags.state_cases
  steps := s.state_step
  attached := s.flags.attached_iff
  closed := s.flags.closed_iff
  owned := s.flags.state_of_attached
  asked := s.flags.once
  accepted := Nat.le_trans s.flags.counted s.flags.once
  refused _ _ _ failed := Handle.attach_failed failed
  spent some opened k := by
    rw [Handle.attach_of_not_asks (s.flags.not_asks some), opened]
    rfl
  unasked := Handle.attach_of_not_asks
  granted asks _ _ _ grants := Handle.attach_granted asks grants
  closes := s.closes

/-- **The lifecycle of a handle.**  The state goes from loaded to attached and from there, or at
once, to closed.  While no close is under way it agrees with the link to the scheduler, the flag of
the handle and both flags of the kernel; during a close the kernel has no scheduler that the handle
does not know of.  The kernel is asked at most once to attach, and at most one attach succeeds.  One
that fails leaves no trace, and after it every other is refused, whatever the kernel would say. -/
theorem lifecycle {c : Controller} {k k' : Kernel} (intact : k.Intact) {artifact : Artifact}
    {h : Handle} (loaded : c.load k artifact = (.ok h, k')) (actions : List Action) :
    Coherent ((starting h k').run actions) := by
  obtain ⟨registry, -, complete, hosts⟩ := Controller.loaded_of_load intact loaded
  exact ((sound_starting complete hosts).run actions).coherent

/-- Steps of all threads, enough for a close to end. -/
def threadsRun : List Action :=
  (List.replicate 20 [.thread .teardown, .thread .pollExits, .thread .pollQueued,
    .thread (.dispatch .flush)]).flatten

/-- An object whose scheduler cannot be attached at first. -/
def reluctant : Load where
  controller := .plain
  object := (Blueprint.standard.withFailingAttach "sched_ops").build
  succeeds := by decide +kernel

/-- An attach fails; the kernel would accept the next one, which is not made; the handle is
closed. -/
def attachedTwice : List Action :=
  [.attach, .setAttachFailure "sched_ops" false, .attach, .close] ++ threadsRun

/-- The kernel changes its mind before the first attach, which is granted. -/
def attachedOnce : List Action :=
  [.setAttachFailure "sched_ops" false, .attach]

/-- Of the attach that fails nothing is left, and there is no second one; the attach that is granted
shows in the state, in the links and in the kernel. -/
theorem lifecycle_attachedTwice :
    let r := (starting reluctant.handle reluctant.kernel).run attachedTwice
    let s := (starting reluctant.handle reluctant.kernel).run attachedOnce
    (r.attaches.length = 2 ∧ Handle.wins r.attaches = 0 ∧ r.asked = 1 ∧
      r.handle.teardown = .done ∧ Coherent r) ∧
    s.attaches = [.ok ()] ∧ s.asked = 1 ∧ s.handle.teardownAtRest = true ∧
      s.handle.state = .attached ∧ s.handle.scheduler.isSome = true ∧ s.kernel.attached = true ∧
      Coherent s := by
  have coherent := lifecycle (Kernel.intact_build _ _) reluctant.loaded
  refine ⟨⟨by decide +kernel, by decide +kernel, by decide +kernel, by decide +kernel,
    coherent attachedTwice⟩, by decide +kernel, by decide +kernel, by decide +kernel, ?_, ?_,
    by decide +kernel, coherent attachedOnce⟩
  · exact (coherent attachedOnce).owned (by decide +kernel)
  · obtain ⟨linked, -⟩ := (coherent attachedOnce).attached (by decide +kernel)
    exact linked.mp (by decide +kernel)

/-! ### The journal of a whole life -/

open JournalEntry in
/-- The journal of a handle from the end of its load to its unloading, with or without a scheduler,
and with or without the release of the dispatch ring in its place. -/
def lifetime (registry : Registry) (won flushed : Bool) : List JournalEntry :=
  registry.probes.map (attached ·.name) ++
  [opened Contract.queued, opened Contract.exit, opened Contract.dispatched] ++
  (if won then [schedulerAttached registry.structOps.name] else []) ++
  [released Contract.exit] ++
  (if flushed then [released Contract.dispatched] else []) ++
  [released Contract.queued] ++
  (if won then [detached registry.structOps.name] else []) ++
  registry.probes.reverse.map (detached ·.name) ++
  [unloaded]

/-- What the journal says of a run of the handle `h` that was loaded on `k`. -/
structure Journaled (k : Kernel) (artifact : Artifact) (h : Handle) (r : HandleRun) : Prop where
  /-- The probes are those of the object, in the order of enumeration. -/
  enumerated : h.registry.probes = k.programs.filter ProgramInfo.isProbe
  /-- When the close has ended, the journal is complete. -/
  complete : r.handle.teardown = .done →
    r.kernel.journal =
      Handle.withDeath r.died
        (k.journal ++ .loaded artifact.describe ::
          lifetime h.registry (Handle.won r.attaches) r.died.isNone)
  /-- The flush thread dies of nothing but a submission that panics. -/
  dies : (r.step (.thread (.dispatch .flush))).handle.dispatch.phase = .dead ↔
    r.handle.dispatch.phase = .dead ∨
      ∃ d, r.handle.dispatch.phase = .publishing d ∧ d.bytes ∈ r.kernel.faults.submitPanics
  /-- When it dies, its ring is released at that moment. -/
  death : r.handle.dispatch.phase ≠ .dead →
    (r.step (.thread (.dispatch .flush))).handle.dispatch.phase = .dead →
      (r.step (.thread (.dispatch .flush))).died = some r.kernel.journal.length ∧
        (r.step (.thread (.dispatch .flush))).kernel.journal =
          r.kernel.journal ++ [.released Contract.dispatched]
  died : r.died.isSome = true ↔ r.handle.dispatch.phase = .dead
  lasting : r.died.isSome = true → ∀ a, (r.step a).died = r.died
  /-- What does not move the life of the handle adds no entry. -/
  quiet : ∀ a : Action, a.moves = false → (r.step a).kernel.journal = r.kernel.journal
  /-- Nor does an attach that fails. -/
  refused : ∀ e, (r.handle.attach r.kernel).1 = .error e →
    (r.step .attach).kernel.journal = r.kernel.journal
  /-- Whatever is going on, a close can be brought to its end. -/
  closes : ∃ actors : List Actor,
    ((r.step .close).run (actors.map .thread)).handle.teardown = .done

/-- The ledger of a handle whose close has ended. -/
theorem Sound.ledger_done (s : Sound opening registry r)
    (names : registry.queued.name = Contract.queued ∧ registry.exit.name = Contract.exit ∧
      registry.dispatched.name = Contract.dispatched) (done : r.handle.teardown = .done) :
    registry.plan.map Acquisition.acquired ++ r.handle.ledger (Handle.won r.attaches) =
      lifetime registry (Handle.won r.attaches) r.died.isNone := by
  have exits : r.handle.exits.isFinished = true :=
    s.staged.exitsDone (by simp [done, Teardown.rank])
  have queued : r.handle.queued.isFinished = true :=
    s.staged.queuedDone (by simp [done, Teardown.rank])
  have probes : r.handle.probes = [] := s.flags.noProbes (by simp [done, Teardown.rank])
  have flushed : r.handle.dispatch.phase = .finished ↔ r.died.isNone = true := by
    have dead := s.written.dead
    rcases DispatchStream.phase_of_isFinished
      (s.staged.dispatchDone (by simp [done, Teardown.rank])) with here | here <;>
      rw [here] at dead ⊢ <;> cases died : r.died <;> simp [died] at dead ⊢
  obtain ⟨queuedName, exitName, dispatchedName⟩ := names
  simp [lifetime, Registry.plan, Handle.ledger, Registry.links, Acquisition.acquired, s.registry,
    exits, queued, probes, flushed, done, queuedName, exitName, dispatchedName, Teardown.rank,
    Function.comp_def]

theorem died_step (dead : r.died.isSome = true) (a : Action) : (r.step a).died = r.died := by
  cases moves : a.moves
  · exact (r.calm_step moves).died
  · cases Action.mover moves with
    | attach | close | teardown | pollExits | pollQueued => rfl
    | flush => exact if_neg fun first => by simp [first.1] at dead

/-- **The journal of a whole life.**  When the close has ended, the journal has grown by one load
and by `lifetime`: probes and rings in the order of their acquisition, the scheduler if an attach
has succeeded, then the rings again, the scheduler, the probes in reverse order and the object.  If
a submission that panics has killed the flush thread, its ring stands where that was and not at the
end.  Traffic of any kind and attaches that fail add no entry, and every close can be brought to
its end. -/
theorem lifetime_journal {c : Controller} {k k' : Kernel} (intact : k.Intact)
    {artifact : Artifact} {h : Handle} (loaded : c.load k artifact = (.ok h, k'))
    (actions : List Action) : Journaled k artifact h ((starting h k').run actions) := by
  obtain ⟨registry, bound, complete, hosts⟩ := Controller.loaded_of_load intact loaded
  have s := (sound_starting complete hosts).run actions
  generalize (starting h k').run actions = r at s ⊢
  obtain rfl : registry = h.registry := complete.registry.symm
  refine ⟨Registry.probes_eq bound, fun done => ?_, r.handle.dispatch.dead_advance r.kernel,
    fun alive dies => ?_, s.written.dead, died_step, fun a rests => ?_, fun e failed => ?_,
    s.closes⟩
  · rw [s.written.journal, List.append_assoc, List.cons_append,
      s.ledger_done (Registry.ring_names bound) done]
  · rcases r.handle.dispatch.flush_cases r.kernel with ⟨-, here, -⟩ | ⟨-, -, journal⟩ |
      ⟨-, same, -⟩
    · exact absurd (here.symm.trans dies) (by simp)
    · -- the thread was alive, so the moment is noted now
      have before : r.died = none := by
        simpa [alive, Option.isSome_iff_ne_none] using s.written.dead
      refine ⟨?_, by rw [← s.staged.dispatchMap]; exact journal⟩
      exact if_pos ⟨before, dies⟩
    · exact absurd (same.mp dies) alive
  · rw [(r.calm_step rests).lived.journal, List.append_nil]
  · show (r.handle.attach r.kernel).2.1.journal = r.kernel.journal
    have same := (Handle.attach_failed (Prod.ext failed rfl)).1
    rw [same]

/-- An object for which one decision is fatal and whose releases report errors. -/
def fragile : Load where
  controller := .plain
  object := Blueprint.standard.build
    { submitPanics := [[13]]
      detachErrors := [("sched_ops", .detachFailed "busy"), ("kprobe_handle_mm_fault", .unloaded)]
      closeError := some .notAvailable }
  succeeds := by decide +kernel

/-- The scheduler is attached, the fatal decision ends the flush thread, and the handle is
closed. -/
def fatalDecision : List Action :=
  [Action.attach, .trySend ⟨[13]⟩] ++ List.replicate 3 (Action.thread (.dispatch .flush)) ++
    [Action.close] ++ threadsRun

/-- All releases fail or come early, and the journal is complete all the same, with the release of
the dispatch ring where the flush thread died. -/
theorem lifetime_journal_fatalDecision :
    let r := (starting fragile.handle fragile.kernel).run fatalDecision
    Journaled fragile.object fragile.artifact fragile.handle r ∧ r.handle.teardown = .done ∧
      r.kernel.journal =
        [.loaded "policy.o", .attached "kprobe_handle_mm_fault",
          .attached "kretprobe_handle_mm_fault", .opened "queued", .opened "exit_rb",
          .opened "dispatched", .schedulerAttached "sched_ops", .released "dispatched",
          .released "exit_rb", .released "queued", .detached "sched_ops",
          .detached "kretprobe_handle_mm_fault", .detached "kprobe_handle_mm_fault",
          .unloaded] :=
  ⟨lifetime_journal (Kernel.intact_build _ _) fragile.loaded fatalDecision, by decide +kernel,
    by decide +kernel⟩

end HandleRun

end SchedPlane
