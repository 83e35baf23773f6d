/-
SchedPlane/Proofs/HandleLife.lean

What moves the life of a handle, and in which order its streams end.

Most of what can happen to a handle does not move its life: the steps of call-outs, of senders
and of receivers, and what the kernel does by itself.  They leave everything alone that closing
the handle looks at (`Handle.Still`), and the journal does not grow.  What remains is an attach,
the beginning of a close, the steps of the teardown, and those of the three worker threads.

`Handle.Staged` is kept by all of it: a stream ends only after it was asked to stop, unless its
thread dies; it is asked at its stage of the teardown; and the teardown gets beyond a stream
only when it has ended.
-/
import SchedPlane.Proofs.LoadOutcome
import SchedPlane.Proofs.PlacementFlow

namespace SchedPlane

open Kernel (Lived)

/-! ### Attaching a scheduler -/

namespace Kernel

/-- A scheduler is attached by a link of its name, and the kernel has it from then on. -/
theorem attachScheduler_eq_ok {k k' : Kernel} {name : String} {l : Link}
    (h : k.attachScheduler name = .ok (l, k')) :
    l = ⟨name, true⟩ ∧ k' = { k with attached := true }.record (.schedulerAttached name) := by
  obtain ⟨-, -, h⟩ := bind_eq_ok.mp h
  obtain ⟨m, -, h⟩ := bind_eq_ok.mp h
  split at h
  · cases h
  · split at h
    · cases h
    · split at h
      · cases h
      · cases h
        exact ⟨rfl, rfl⟩

end Kernel

namespace Handle

variable {k k' : Kernel} {h h' : Handle}

/-- Whether the handle asks the kernel when it is told to attach. -/
def asks (h : Handle) : Bool :=
  !h.closed && !h.attachTried && h.state.canBecome .attached

/-- The handle after its scheduler was attached. -/
def withScheduler (h : Handle) : Handle :=
  { h with attachTried := true, scheduler := some ⟨h.registry.structOps.name, true⟩,
           state := .attached }

/-- What an attach that asks the kernel comes to: the kernel's answer decides. -/
theorem attach_of_asks (asks : h.asks = true) (k : Kernel) :
    (∃ e, k.attachScheduler h.registry.structOps.name = .error e ∧
        h.attach k = (.error (.attach s!"{h.registry.structOps.name}: {e.message}"), k,
          { h with attachTried := true })) ∨
      ∃ l k', k.attachScheduler h.registry.structOps.name = .ok (l, k') ∧
        k' = { k with attached := true }.record (.schedulerAttached h.registry.structOps.name) ∧
        h.attach k = (.ok (), k', h.withScheduler) := by
  simp only [Handle.asks, Bool.and_eq_true, Bool.not_eq_true'] at asks
  obtain ⟨⟨opened, untried⟩, free⟩ := asks
  unfold attach
  rcases attached : k.attachScheduler h.registry.structOps.name with e | ⟨l, k'⟩
  · exact .inl ⟨e, rfl, by simp [opened, untried, free, attached]⟩
  · obtain ⟨rfl, rfl⟩ := Kernel.attachScheduler_eq_ok attached
    refine .inr ⟨_, _, rfl, rfl, ?_⟩
    simp [opened, untried, free, attached, Lifecycle.become, withScheduler]

/-- An attach that asks nobody changes nothing. -/
theorem attach_of_not_asks (asks : h.asks = false) (k : Kernel) :
    h.attach k =
      (.error (if h.closed then .closed else h.state.refusal .attached), k, h) := by
  unfold attach
  cases opened : h.closed
  · have refused : h.attachTried = true ∨ h.state.canBecome .attached = false := by
      cases tried : h.attachTried
      · simpa [Handle.asks, opened, tried] using asks
      · exact .inl rfl
    rcases refused with refused | refused <;> simp [refused]
  · rfl

/-- An attach that fails leaves the kernel, the state and the links as they are. -/
theorem attach_failed {k k' : Kernel} {e : ControlError} {h' : Handle}
    (failed : h.attach k = (.error e, k', h')) :
    k' = k ∧ h'.state = h.state ∧ h'.scheduler = h.scheduler ∧ h'.probes = h.probes := by
  cases asks : h.asks
  · rw [attach_of_not_asks asks] at failed
    cases failed
    exact ⟨rfl, rfl, rfl, rfl⟩
  · rcases attach_of_asks asks k with ⟨e, -, answer⟩ | ⟨l, k', -, -, answer⟩
    · rw [answer] at failed
      cases failed
      exact ⟨rfl, rfl, rfl, rfl⟩
    · rw [answer] at failed
      cases failed

/-- What the kernel has attached, the handle takes. -/
theorem attach_granted {k k' : Kernel} {l : Link} (asks : h.asks = true)
    (grants : k.attachScheduler h.registry.structOps.name = .ok (l, k')) :
    h.attach k = (.ok (), k', h.withScheduler) := by
  rcases attach_of_asks asks k with ⟨e, refuses, -⟩ | ⟨l', k'', grants', -, answer⟩
  · rw [grants] at refuses
    cases refuses
  · rw [grants] at grants'
    cases grants'
    exact answer

/-! #### The registry and the state -/

theorem registry_attach (k : Kernel) (h : Handle) : (h.attach k).2.2.registry = h.registry := by
  cases asks : h.asks
  · rw [attach_of_not_asks asks]
  · rcases attach_of_asks asks k with ⟨e, -, answer⟩ | ⟨l, k', -, -, answer⟩
    · rw [answer]
    · rw [answer]
      rfl

/-- To begin a close sets the closed flag, and moves nothing but the stage of the teardown. -/
theorem beginClose_frame (h : Handle) :
    h.beginClose = { h with closed := true, teardown := h.beginClose.teardown } := by
  unfold beginClose
  split
  · next closed => rw [← closed]
  · rfl

theorem registry_beginClose (h : Handle) : h.beginClose.registry = h.registry := by
  rw [beginClose_frame]

theorem registry_teardownStep (k : Kernel) (h : Handle) :
    (h.teardownStep k).2.registry = h.registry := by
  rw [(h.teardownStep_move k).frame]

/-- When nothing is torn down, the teardown has not begun or is done. -/
theorem teardown_of_atRest (rests : h.teardownAtRest = true) :
    h.teardown = .notBegun ∨ h.teardown = .done := by
  unfold teardownAtRest at rests
  split at rests
  · next here => exact .inl here
  · next here => exact .inr here
  · cases rests

/-- The state changes at the last step of the teardown only. -/
theorem TeardownMove.state_cases (move : h.TeardownMove k k' h') :
    h'.state = h.state ∨ h.teardown = .object ∧ h'.state = .closed := by
  cases move with
  | unload here => exact .inr ⟨here, rfl⟩
  | rest | askExits | passExits | closeDispatch | passDispatch | askQueued | passQueued
  | dropScheduler | dropProbe | passProbes => exact .inl rfl

end Handle

/-! ### What leaves the life of a handle alone -/

/-- Two states of a stream of events that agree in all that its end depends on. -/
structure EventStream.Still {α : Type} (s s' : EventStream α) : Prop where
  map : s'.map = s.map
  stop : s'.stop = s.stop
  ended : s'.isFinished = s.isFinished

/-- Two states of a stream of decisions that agree in all that its end depends on. -/
structure DispatchStream.Still (s s' : DispatchStream) : Prop where
  map : s'.map = s.map
  stop : s'.stop = s.stop
  phase : s'.phase = s.phase

namespace Handle

/-- Two states of a handle between which its life has not moved. -/
structure Still (h h' : Handle) : Prop where
  state : h'.state = h.state
  attachTried : h'.attachTried = h.attachTried
  closed : h'.closed = h.closed
  registry : h'.registry = h.registry
  probes : h'.probes = h.probes
  scheduler : h'.scheduler = h.scheduler
  teardown : h'.teardown = h.teardown
  queued : h.queued.Still h'.queued
  exits : h.exits.Still h'.exits
  dispatch : h.dispatch.Still h'.dispatch

end Handle

theorem EventStream.still_refl {α : Type} (s : EventStream α) : s.Still s :=
  ⟨rfl, rfl, rfl⟩

theorem EventStream.still_take? {α : Type} {s s' : EventStream α} {item : α}
    (h : s.take? = some (item, s')) : s.Still s' := by
  unfold take? at h
  split at h
  · cases h
  · cases h
    exact ⟨rfl, rfl, rfl⟩

theorem EventStream.still_receive {α : Type} (s : EventStream α) : s.Still s.receive.2 := by
  unfold receive
  split
  · next taken => exact still_take? taken
  · exact s.still_refl

namespace DispatchStream

theorem still_refl (s : DispatchStream) : s.Still s :=
  ⟨rfl, rfl, rfl⟩

theorem still_trySend (s : DispatchStream) (d : Decision) : s.Still (s.trySend d).2 := by
  unfold trySend
  split
  · exact s.still_refl
  · split
    · exact s.still_refl
    · exact ⟨rfl, rfl, rfl⟩

/-- A send moves the gate count and the queue, and not the thread. -/
theorem still_sendStep (s : DispatchStream) (p : Sender) : s.Still (s.sendStep p).1 := by
  have move := sendStep_move s p
  refine ⟨move.map_eq, ?_, ?_⟩ <;> rw [move.frame]

end DispatchStream

namespace Handle

variable {h : Handle}

theorem Still.refl (h : Handle) : h.Still h :=
  ⟨rfl, rfl, rfl, rfl, rfl, rfl, rfl, h.queued.still_refl, h.exits.still_refl,
    h.dispatch.still_refl⟩

theorem still_invoker (h : Handle) (invoker : Invoker) : h.Still { h with invoker } :=
  { Still.refl h with }

theorem still_queued {queued : EventStream Task} (still : h.queued.Still queued) :
    h.Still { h with queued } :=
  { Still.refl h with queued := still }

theorem still_exits {exits : EventStream ExitEvent} (still : h.exits.Still exits) :
    h.Still { h with exits } :=
  { Still.refl h with exits := still }

theorem still_dispatch {dispatch : DispatchStream} (still : h.dispatch.Still dispatch) :
    h.Still { h with dispatch } :=
  { Still.refl h with dispatch := still }

end Handle

namespace DispatchStream

theorem phase_ne_of_runs {s : DispatchStream} (runs : s.isFinished = false) :
    s.phase ≠ .finished ∧ s.phase ≠ .dead := by
  constructor <;> intro here <;> simp [isFinished, here] at runs

/-- The flush thread writes to the journal only when it ends. -/
theorem lived_advance (k : Kernel) (s : DispatchStream) :
    Lived k (if (s.advance k).2.isFinished && !s.isFinished then [.released s.map] else [])
      (s.advance k).1 := by
  have submitted : Lived k [] (s.submitOn k).2 := by
    unfold submitOn
    split
    · exact Kernel.lived_submit k _ _
    · exact .refl k
  rw [advance_eq]
  simp only
  split
  · exact submitted.trans (Kernel.lived_releaseRing _ s.map)
  · exact submitted

/-- The flush thread finishes in this step, or it dies, or it is as far as before. -/
theorem flush_cases (k : Kernel) (s : DispatchStream) :
    s.isFinished = false ∧ (s.advance k).2.phase = .finished ∧
        (s.advance k).1.journal = k.journal ++ [.released s.map] ∨
      s.isFinished = false ∧ (s.advance k).2.phase = .dead ∧
        (s.advance k).1.journal = k.journal ++ [.released s.map] ∨
      ((s.advance k).2.phase = .finished ↔ s.phase = .finished) ∧
        ((s.advance k).2.phase = .dead ↔ s.phase = .dead) ∧
        (s.advance k).1.journal = k.journal ++ [] := by
  have lived := s.lived_advance k
  cases before : s.isFinished
  · have running := phase_ne_of_runs before
    cases after : (s.advance k).2.isFinished
    · have running' := phase_ne_of_runs after
      refine .inr (.inr ⟨by simp [running, running'], by simp [running, running'], ?_⟩)
      simpa [before, after] using lived.journal
    · have journal : (s.advance k).1.journal = k.journal ++ [.released s.map] := by
        simpa [before, after] using lived.journal
      rcases phase_of_isFinished after with here | here
      · exact .inl ⟨rfl, here, journal⟩
      · exact .inr (.inl ⟨rfl, here, journal⟩)
  · have same : (s.advance k).2 = s := by
      rw [advance_eq]
      exact flushStep_of_isFinished before _
    refine .inr (.inr ⟨by rw [same], by rw [same], ?_⟩)
    simpa [before] using lived.journal

/-- The flush thread dies of nothing but a submission that panics. -/
theorem dead_advance (k : Kernel) (s : DispatchStream) :
    (s.advance k).2.phase = .dead ↔
      s.phase = .dead ∨ ∃ d, s.phase = .publishing d ∧ d.bytes ∈ k.faults.submitPanics := by
  have panics {d : Decision} (here : s.phase = .publishing d) :
      (s.submitOn k).1 = .panicked ↔ d.bytes ∈ k.faults.submitPanics := by
    unfold submitOn
    rw [here]
    exact Kernel.submit_eq_panicked k s.map d.bytes
  have move := s.advance_move k
  generalize (s.advance k).2 = s', (s.submitOn k).1 = answer at move panics
  cases move with
  | submit here =>
    rw [here]
    cases answer <;> simp [answered, ← panics here]
  | look here | leave here | miss here | take here | retry here | giveUp here | drain here =>
    simp [here]
  | rest ended => rcases phase_of_isFinished ended with here | here <;> simp [here]

end DispatchStream

/-- A call-out writes nothing to the journal. -/
theorem Call.lived_stepOn (k : Kernel) (i : Invoker) (c : Call) (p : Callee) :
    Lived k [] (stepOn k i c p).1 := by
  unfold stepOn
  split
  case h_5 => exact Kernel.lived_runLoaded k _ _
  case h_2 => split <;> exact .refl k
  case h_4 => split <;> exact .refl k
  all_goals exact .refl k

/-- No step of a call-out writes into the journal. -/
theorem Call.lived_step (closed : Bool) (k : Kernel) (i : Invoker) (c : Call) :
    Lived k [] (step closed k i c).1 := by
  unfold step
  split
  · exact .refl k
  · split
    · exact .refl k
    · exact lived_stepOn k i c _
  · split
    · exact lived_stepOn k i c _
    · exact .refl k

namespace PlacementLoop

/-- A step of the loop writes nothing to the journal. -/
theorem lived_step (k : Kernel) (h : Handle) (p : PlacementLoop) : Lived k [] (p.step k h).1 := by
  rcases here : p.phase with - | - | - | ⟨t, phase⟩ | s | - <;> simp only [step, here]
  · exact .refl k
  · split <;> exact .refl k
  · split <;> exact .refl k
  · exact Call.lived_step h.closed k h.invoker { request := .select t, phase }
  · exact .refl k
  · exact .refl k

/-- A step of the loop moves no life. -/
theorem still_step (k : Kernel) (h : Handle) (p : PlacementLoop) : h.Still (p.step k h).2.1 := by
  rcases here : p.phase with - | - | - | ⟨t, phase⟩ | s | - <;> simp only [step, here]
  · exact .refl h
  · split
    · next front => exact Handle.still_exits (EventStream.still_take? front)
    · exact .refl h
  · have still := h.queued.still_receive
    split
    · next received =>
      rw [received] at still
      exact Handle.still_queued still
    · exact .refl h
    · exact .refl h
  · exact h.still_invoker _
  · exact Handle.still_dispatch (h.dispatch.still_sendStep s)
  · exact .refl h

end PlacementLoop

/-! ### The order of the streams -/

/-- The place of a stage in the order of the teardown. -/
def Teardown.rank : Teardown → Nat
  | .notBegun => 0
  | .exits => 1
  | .dispatch => 2
  | .queued => 3
  | .scheduler => 4
  | .probes => 5
  | .object => 6
  | .done => 7

namespace Handle

/-- How far each stream is, as the teardown proceeds: it ends only after it was asked to stop, it
is asked at its stage of the teardown, and that stage is left only when it has ended. -/
structure Staged (h : Handle) : Prop where
  exitsMap : h.exits.map = Contract.exit
  dispatchMap : h.dispatch.map = Contract.dispatched
  queuedMap : h.queued.map = Contract.queued
  exitsEnd : h.exits.isFinished = true → h.exits.stop = true
  exitsStop : h.exits.stop = true → 1 ≤ h.teardown.rank
  exitsDone : 2 ≤ h.teardown.rank → h.exits.isFinished = true
  dispatchEnd : h.dispatch.phase = .draining ∨ h.dispatch.phase = .finished →
    h.dispatch.stop = true
  dispatchStop : h.dispatch.stop = true → 2 ≤ h.teardown.rank
  dispatchDone : 3 ≤ h.teardown.rank → h.dispatch.isFinished = true
  queuedEnd : h.queued.isFinished = true → h.queued.stop = true
  queuedStop : h.queued.stop = true → 3 ≤ h.teardown.rank
  queuedDone : 4 ≤ h.teardown.rank → h.queued.isFinished = true

namespace Staged

open Teardown (rank)

variable {k k' : Kernel} {h h' : Handle}

theorem isFinished_eq {s s' : DispatchStream} (phase : s'.phase = s.phase) :
    s'.isFinished = s.isFinished := by
  simp only [DispatchStream.isFinished, phase]

/-- In a handle that was just loaded every thread runs and none was asked to stop. -/
theorem fresh {c : Controller} (fresh : Fresh c h) : h.Staged := by
  obtain ⟨-, teardown, ⟨_, queued⟩, ⟨_, exits⟩, dispatch⟩ := fresh
  constructor <;>
    simp [teardown, queued, exits, dispatch, Teardown.rank, EventStream.isFinished]

/-- What leaves the threads and the stage alone leaves the streams in order. -/
theorem still (s : h.Staged) (still : h.Still h') : h'.Staged where
  exitsMap := still.exits.map.trans s.exitsMap
  dispatchMap := still.dispatch.map.trans s.dispatchMap
  queuedMap := still.queued.map.trans s.queuedMap
  exitsEnd := by rw [still.exits.ended, still.exits.stop]; exact s.exitsEnd
  exitsStop := by rw [still.exits.stop, still.teardown]; exact s.exitsStop
  exitsDone := by rw [still.exits.ended, still.teardown]; exact s.exitsDone
  dispatchEnd := by rw [still.dispatch.phase, still.dispatch.stop]; exact s.dispatchEnd
  dispatchStop := by rw [still.dispatch.stop, still.teardown]; exact s.dispatchStop
  dispatchDone := by rw [isFinished_eq still.dispatch.phase, still.teardown]; exact s.dispatchDone
  queuedEnd := by rw [still.queued.ended, still.queued.stop]; exact s.queuedEnd
  queuedStop := by rw [still.queued.stop, still.teardown]; exact s.queuedStop
  queuedDone := by rw [still.queued.ended, still.teardown]; exact s.queuedDone

/-- The teardown goes on, with the streams as they are. -/
theorem goTo (s : h.Staged) (queued : h'.queued = h.queued) (exits : h'.exits = h.exits)
    (dispatch : h'.dispatch = h.dispatch) (later : h.teardown.rank ≤ h'.teardown.rank)
    (exitsDone : 2 ≤ h'.teardown.rank → h.exits.isFinished = true)
    (dispatchDone : 3 ≤ h'.teardown.rank → h.dispatch.isFinished = true)
    (queuedDone : 4 ≤ h'.teardown.rank → h.queued.isFinished = true) : h'.Staged where
  exitsMap := by rw [exits]; exact s.exitsMap
  dispatchMap := by rw [dispatch]; exact s.dispatchMap
  queuedMap := by rw [queued]; exact s.queuedMap
  exitsEnd := by rw [exits]; exact s.exitsEnd
  exitsStop := by rw [exits]; exact fun stop => Nat.le_trans (s.exitsStop stop) later
  exitsDone := by rw [exits]; exact exitsDone
  dispatchEnd := by rw [dispatch]; exact s.dispatchEnd
  dispatchStop := by rw [dispatch]; exact fun stop => Nat.le_trans (s.dispatchStop stop) later
  dispatchDone := by rw [dispatch]; exact dispatchDone
  queuedEnd := by rw [queued]; exact s.queuedEnd
  queuedStop := by rw [queued]; exact fun stop => Nat.le_trans (s.queuedStop stop) later
  queuedDone := by rw [queued]; exact queuedDone

/-- The teardown goes on behind the last stream. -/
theorem past (s : h.Staged) {stage : Teardown} (here : h.teardown = stage) (far : 4 ≤ stage.rank)
    (queued : h'.queued = h.queued) (exits : h'.exits = h.exits)
    (dispatch : h'.dispatch = h.dispatch) (later : stage.rank ≤ h'.teardown.rank) :
    h'.Staged := by
  subst here
  exact s.goTo queued exits dispatch later (fun _ => s.exitsDone (by omega))
    (fun _ => s.dispatchDone (by omega)) (fun _ => s.queuedDone far)

/-- Before its stage of the teardown no stream has ended, unless the flush thread died. -/
theorem exits_runs (s : h.Staged) (early : h.teardown.rank < 1) : h.exits.isFinished = false := by
  cases ended : h.exits.isFinished
  · rfl
  · exact absurd (s.exitsStop (s.exitsEnd ended)) (by omega)

theorem dispatch_runs (s : h.Staged) (early : h.teardown.rank < 2) :
    h.dispatch.phase ≠ .finished := fun ended =>
  absurd (s.dispatchStop (s.dispatchEnd (.inr ended))) (by omega)

/-- The thread of the queued stream runs until its stage of the teardown. -/
theorem queued_runs (s : h.Staged) (early : h.teardown.rank < 3) :
    h.queued.isFinished = false := by
  cases ended : h.queued.isFinished
  · rfl
  · exact absurd (s.queuedStop (s.queuedEnd ended)) (by omega)

/-- A poll thread ends only at its stop flag, and it stays ended. -/
theorem poll_ends {α : Type} [EventRecord α] (k : Kernel) {s : EventStream α}
    (ends : s.isFinished = true → s.stop = true) :
    (s.advance k).2.map = s.map ∧ (s.advance k).2.stop = s.stop ∧
      ((s.advance k).2.isFinished = true → (s.advance k).2.stop = true) ∧
      (s.isFinished = true → (s.advance k).2.isFinished = true) := by
  have move := EventStream.advance_move k s
  refine ⟨move.map_eq, move.stop_eq, fun ended => ?_, fun ended => ?_⟩
  · rw [move.stop_eq]
    refine move.stop_of_finished (fun before => ends ?_) (EventStream.phase_of_isFinished ended)
    simp [EventStream.isFinished, before]
  · rw [EventStream.advance_of_finished (EventStream.phase_of_isFinished ended)]
    exact ended

theorem pollExits (s : h.Staged) (k : Kernel) :
    Staged { h with exits := (h.exits.advance k).2 } := by
  obtain ⟨map, stop, ends, stays⟩ := poll_ends k s.exitsEnd
  exact { s with
    exitsMap := map.trans s.exitsMap
    exitsEnd := ends
    exitsStop := fun e => s.exitsStop (stop.symm.trans e)
    exitsDone := fun past => stays (s.exitsDone past) }

theorem pollQueued (s : h.Staged) (k : Kernel) :
    Staged { h with queued := (h.queued.advance k).2 } := by
  obtain ⟨map, stop, ends, stays⟩ := poll_ends k s.queuedEnd
  exact { s with
    queuedMap := map.trans s.queuedMap
    queuedEnd := ends
    queuedStop := fun e => s.queuedStop (stop.symm.trans e)
    queuedDone := fun past => stays (s.queuedDone past) }

theorem flush (s : h.Staged) (k : Kernel) :
    Staged { h with dispatch := (h.dispatch.advance k).2 } := by
  have move := h.dispatch.advance_move k
  exact { s with
    dispatchMap := move.map_eq.trans s.dispatchMap
    dispatchEnd := fun leaves => by
      rw [move.stop_eq]
      exact move.stop_of_leaving s.dispatchEnd leaves
    dispatchStop := fun e => s.dispatchStop (move.stop_eq.symm.trans e)
    dispatchDone := fun past => move.isFinished (s.dispatchDone past) }

theorem attach (s : h.Staged) (k : Kernel) : (h.attach k).2.2.Staged := by
  obtain ⟨-, queued, exits, dispatch, -, teardown⟩ := h.attach_frame k
  refine s.goTo queued exits dispatch (Nat.le_of_eq (by rw [teardown])) ?_ ?_ ?_ <;> rw [teardown]
  · exact s.exitsDone
  · exact s.dispatchDone
  · exact s.queuedDone

/-- Whoever closes an open handle finds all threads running. -/
theorem beginClose (s : h.Staged) (opened : h.closed = false → h.teardown = .notBegun) :
    h.beginClose.Staged := by
  unfold Handle.beginClose
  split
  · exact s
  · next closed =>
    have here : h.teardown = .notBegun := opened (by simpa using closed)
    refine s.goTo rfl rfl rfl ?_ ?_ ?_ ?_ <;> simp [here, Teardown.rank]

/-- The teardown leaves a stage only when the thread that it waits for has ended. -/
theorem teardown (s : h.Staged) (move : h.TeardownMove k k' h') : h'.Staged := by
  cases move with
  | rest => exact s
  | askExits here =>
    exact { s with
      exitsEnd := fun _ => rfl
      exitsStop := fun _ => by simp [here, rank]
      exitsDone := fun past => by simp [here, rank] at past }
  | passExits here ended =>
    exact s.goTo rfl rfl rfl (by simp [here, rank]) (fun _ => ended.2) (by simp [rank])
      (by simp [rank])
  | closeDispatch here =>
    exact { s with
      dispatchMap := h.dispatch.map_closeStep.trans s.dispatchMap
      dispatchEnd := fun leaves => DispatchStream.stop_closeStep
        (s.dispatchEnd (h.dispatch.phase_closeStep ▸ leaves))
      dispatchStop := fun _ => by simp [here, rank]
      dispatchDone := fun past => by simp [here, rank] at past }
  | passDispatch here closed =>
    have exits := s.exitsDone (by simp [here, rank])
    simp only [DispatchStream.isClosed, Bool.and_eq_true] at closed
    exact s.goTo rfl rfl rfl (by simp [here, rank]) (fun _ => exits) (fun _ => closed.2)
      (by simp [rank])
  | askQueued here =>
    exact { s with
      queuedEnd := fun _ => rfl
      queuedStop := fun _ => by simp [here, rank]
      queuedDone := fun past => by simp [here, rank] at past }
  | passQueued here ended =>
    have exits := s.exitsDone (by simp [here, rank])
    have dispatch := s.dispatchDone (by simp [here, rank])
    exact s.goTo rfl rfl rfl (by simp [here, rank]) (fun _ => exits) (fun _ => dispatch)
      (fun _ => ended.2)
  | dropScheduler here | passProbes here | unload here =>
    exact s.past here (by simp [rank]) rfl rfl rfl (by simp [rank])
  | dropProbe here => exact s.past here (by simp [rank]) rfl rfl rfl (by simp [here, rank])

end Staged

end Handle

end SchedPlane
