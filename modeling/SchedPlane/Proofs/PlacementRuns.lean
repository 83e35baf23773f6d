/-
SchedPlane/Proofs/PlacementRuns.lean

Runs of a deployment that a placement loop serves.

A run starts with a handle that was just loaded and lets everybody act in any order: the kernel
offers records, takes decisions and changes its subprograms, the threads of the deployment
step, other threads make call-outs, and somebody attaches or closes the handle.  The loop is the
only receiver of tasks and the only sender.  The run remembers which records the queued ring has
accepted, what the loop's call-outs were answered, and which decisions the kernel has taken.

Main result, `end_to_end_placement`: the decisions that the kernel has taken, followed by those
that wait in its ring, are those of the first tasks that were offered, each built from the answer
to the call-out made for its task.  Until the handle is closed, the rest is still on its way.
-/
import SchedPlane.Proofs.Loading
import SchedPlane.Proofs.PlacementFlow
import SchedPlane.Kernel.Blueprint

namespace SchedPlane

/-- A run of a deployment that a placement loop serves, with its history. -/
structure PlacementRun where
  deployment : Deployment
  /-- The records the queued ring has accepted, oldest first. -/
  offered : List Bytes
  /-- The tasks of the loop's call-outs and their results, oldest first. -/
  asked : List (Task × CallResult) := []
  /-- The decisions the kernel has taken, oldest first. -/
  consumed : List Bytes := []

namespace PlacementRun

/-! ### Steps -/

/-- What can happen to a deployment. -/
inductive Action where
  /-- The kernel offers a record for placement. -/
  | offer (b : Bytes)
  /-- The kernel tells of a task exit. -/
  | emitExit (payload : Bytes)
  /-- The kernel takes a decision, if there is one. -/
  | consume
  | setSubprogram (name : String) (body : Subprogram)
  /-- Another thread begins a call-out. -/
  | beginCall (request : CallRequest)
  | attach
  /-- The teardown begins, unless it has begun before. -/
  | close
  /-- A thread takes its next step. -/
  | thread (a : Actor)

/-- The run that begins with a handle, when records may wait in its ring already. -/
def serving (h : Handle) (k : Kernel) : PlacementRun where
  deployment := { kernel := k, handle := h, loop := some {} }
  offered := k.waiting Contract.queued

/-- The call-outs of the loop that return at the next step of a thread. -/
def answers (d : Deployment) : Actor → List (Task × CallResult)
  | .place => (d.loop.map (·.answers d.kernel d.handle)).getD []
  | _ => []

/-- The run after an action. -/
def step (r : PlacementRun) : Action → PlacementRun
  | .offer b =>
    let (accepted, kernel) := r.deployment.kernel.produce Contract.queued b
    { r with
      deployment := { r.deployment with kernel }
      offered := if accepted then r.offered ++ [b] else r.offered }
  | .emitExit payload =>
    { r with
      deployment :=
        { r.deployment with kernel := (r.deployment.kernel.emitExit payload).2 } }
  | .consume =>
    match r.deployment.kernel.takeDispatched with
    | some (b, kernel) =>
      { r with deployment := { r.deployment with kernel }, consumed := r.consumed ++ [b] }
    | none => r
  | .setSubprogram name body =>
    { r with
      deployment :=
        { r.deployment with kernel := r.deployment.kernel.setSubprogram name body } }
  | .beginCall request =>
    { r with
      deployment :=
        { r.deployment with calls := r.deployment.calls ++ [{ request }] } }
  | .attach =>
    let (_, kernel, handle) := r.deployment.handle.attach r.deployment.kernel
    { r with deployment := { r.deployment with kernel, handle } }
  | .close =>
    { r with
      deployment := { r.deployment with handle := r.deployment.handle.beginClose } }
  | .thread a =>
    { r with
      deployment := r.deployment.step a
      asked := r.asked ++ answers r.deployment a }

/-- The run after a list of actions. -/
def run (r : PlacementRun) (actions : List Action) : PlacementRun :=
  actions.foldl step r

variable {r : PlacementRun} {p : PlacementLoop}

/-! ### What every step keeps -/

/-- The places of the tasks hang together, and the loop `p` is the only one that sends. -/
structure Sound (r : PlacementRun) (p : PlacementLoop) : Prop where
  loop : r.deployment.loop = some p
  alone : r.deployment.senders = []
  pipe : Pipe r.offered r.asked r.consumed r.deployment.kernel r.deployment.handle p

/-- A step of a thread. -/
theorem Sound.thread (s : Sound r p) (a : Actor) : ∃ p', Sound (r.step (.thread a)) p' := by
  obtain ⟨loop, alone, pipe⟩ := s
  cases a with
  | teardown =>
    refine ⟨p, loop, alone, ?_⟩
    simp only [step, answers, List.append_nil]
    exact pipe.teardown (r.deployment.handle.teardownStep_move r.deployment.kernel)
  | pollExits =>
    refine ⟨p, loop, alone, ?_⟩
    simp only [step, answers, List.append_nil]
    exact pipe.pollExits
  | pollQueued =>
    refine ⟨p, loop, alone, ?_⟩
    simp only [step, answers, List.append_nil]
    exact pipe.pollQueued
  | dispatch a =>
    cases a with
    | flush =>
      refine ⟨p, loop, alone, ?_⟩
      simp only [step, answers, List.append_nil]
      exact pipe.flush
    | send n =>
      -- there is no blocking send but the loop's own
      have idle : r.deployment.line.sendStep n = r.deployment.line := by
        simp [Line.sendStep, Deployment.line, alone]
      have still : r.deployment.step (.dispatch (.send n)) = r.deployment := by
        show r.deployment.setLine (r.deployment.line.sendStep n) = r.deployment
        rw [idle]
        rfl
      refine ⟨p, ?_⟩
      simp only [step, answers, List.append_nil, still]
      exact ⟨loop, alone, pipe⟩
  | call n =>
    refine ⟨p, ?_⟩
    simp only [step, answers, List.append_nil, Deployment.step]
    split
    · exact ⟨loop, alone, pipe⟩
    · exact ⟨loop, alone, pipe.callout (Call.keepsRings_step _ _ _ _) _⟩
  | place =>
    have move := p.step_move r.deployment.kernel r.deployment.handle
    refine ⟨(p.step r.deployment.kernel r.deployment.handle).2.2, ?_⟩
    simp only [step, answers, Deployment.step, loop, Option.map_some, Option.getD_some]
    exact ⟨rfl, alone, pipe.place move⟩

/-- **Each action keeps the run sound.** -/
theorem Sound.step (s : Sound r p) (a : Action) : ∃ p', Sound (r.step a) p' := by
  obtain ⟨loop, alone, pipe⟩ := s
  cases a with
  | offer b => exact ⟨p, loop, alone, pipe.offer b⟩
  | emitExit payload =>
    have apart : ∀ other, Contract.exit ≠ other →
        (r.deployment.kernel.emitExit payload).2.waiting other =
          r.deployment.kernel.waiting other := fun other ne =>
      r.deployment.kernel.waiting_produce_of_ne ne payload
    exact ⟨p, loop, alone, pipe.frame (apart _ (by decide)) (apart _ (by decide))
      (r.deployment.kernel.faults_produce _ payload) rfl rfl rfl pipe.orderly⟩
  | consume =>
    simp only [PlacementRun.step]
    split
    · next taken => exact ⟨p, loop, alone, pipe.consume taken⟩
    · exact ⟨p, loop, alone, pipe⟩
  | setSubprogram name body =>
    exact ⟨p, loop, alone, pipe.frame_of_keepsRings (Kernel.keepsRings_setSubprogram _ name body)
      rfl rfl rfl pipe.orderly⟩
  | beginCall request => exact ⟨p, loop, alone, pipe⟩
  | attach => exact ⟨p, loop, alone, pipe.attach⟩
  | close => exact ⟨p, loop, alone, pipe.beginClose⟩
  | thread a => exact Sound.thread ⟨loop, alone, pipe⟩ a

theorem sound_run (s : Sound r p) (actions : List Action) : ∃ p', Sound (r.run actions) p' :=
  List.foldlRecOn (motive := fun r' : PlacementRun => ∃ p', Sound r' p') actions PlacementRun.step
    ⟨p, s⟩ fun _ ⟨_, ih⟩ a _ => ih.step a

/-! ### Beginnings -/

/-- The kernel after records were offered for placement. -/
def offerAll (k : Kernel) (records : List Bytes) : Kernel :=
  records.foldl (fun k b => (k.produce Contract.queued b).2) k

/-- Records that are offered early do not show at the ring of decisions. -/
theorem waiting_offerAll (k : Kernel) (records : List Bytes) :
    (offerAll k records).waiting Contract.dispatched = k.waiting Contract.dispatched := by
  unfold offerAll
  induction records generalizing k with
  | nil => rfl
  | cons b rest ih => exact (ih _).trans (k.waiting_produce_of_ne (by decide) b)

theorem faults_offerAll (k : Kernel) (records : List Bytes) :
    (offerAll k records).faults = k.faults := by
  unfold offerAll
  induction records generalizing k with
  | nil => rfl
  | cons b rest ih => exact (ih _).trans (k.faults_produce _ b)

/-- Nothing is under way on a fresh handle. -/
theorem sound_serving {c : Controller} {h : Handle} {k : Kernel} (fresh : Fresh c h)
    (noErrors : k.faults.submitErrors = []) (noPanics : k.faults.submitPanics = [])
    (unused : k.waiting Contract.dispatched = []) : Sound (serving h k) {} := by
  obtain ⟨-, teardown, ⟨_, queued⟩, ⟨_, exits⟩, dispatch⟩ := fresh
  refine ⟨rfl, rfl, ?_⟩
  show Pipe (k.waiting Contract.queued) [] [] k h {}
  refine
    { queuedMap := by rw [queued]
      exitsMap := by rw [exits]
      dispatchMap := by rw [dispatch]
      noErrors
      noPanics
      fence := ?_
      orderly := ⟨fun _ => ⟨teardown, ?_, ?_⟩, fun e => ?_, fun e => ?_⟩
      tasks := ?_
      decisions := ?_
      placed := Nat.le_refl 0
      unsent := fun _ => rfl
      unsettled := fun told e => by cases e
      ordered := List.nil_prefix }
  · rw [dispatch]
    exact .fresh _ _ _
  · rw [queued]
  · rw [dispatch]
  · rw [teardown] at e
    cases e
  · rw [queued] at e
    cases e
  · rw [queued]
    exact .fresh _ _ _ _ _
  · rw [dispatch, unused]
    exact .fresh _ _ _

/-! ### End to end -/

/-- What went to the ring are the decisions of the first tasks. -/
theorem Sound.placed (s : Sound r p) :
    ∃ calls : List (Task × CallResult), calls <+: r.asked ∧
      calls.map Prod.fst <+: items Task r.offered ∧
      r.consumed ++ r.deployment.kernel.waiting Contract.dispatched =
        calls.map fun call => (decisionFor call).bytes := by
  have published := List.prefix_iff_eq_take.mp s.pipe.decisions.kept
  refine ⟨(r.asked.take p.placed).take (r.consumed ++
    r.deployment.kernel.waiting Contract.dispatched).length, ?_, ?_, ?_⟩
  · exact (List.take_prefix _ _).trans (List.take_prefix _ _)
  · exact ((List.take_prefix _ _).map _).trans s.pipe.ordered
  · rw [List.map_map, ← List.map_take] at published
    exact published

/-- Nothing is lost: every task offered is in one place, and so is every decision of the loop
`p`, all of them in order. -/
structure Complete (r : PlacementRun) (p : PlacementLoop) : Prop where
  /-- A task was asked for, or the loop asks for it, or it is queued, held or in the ring. -/
  tasks : r.asked.map Prod.fst ++ p.phase.asking ++ r.deployment.handle.queued.queue ++
      r.deployment.handle.queued.phase.held ++
      items Task (r.deployment.kernel.waiting Contract.queued) = items Task r.offered
  /-- A decision was taken, or it is in the ring, held or queued, or the loop sends it. -/
  decisions : r.consumed ++ r.deployment.kernel.waiting Contract.dispatched ++
      (r.deployment.handle.dispatch.phase.held ++ r.deployment.handle.dispatch.queue ++
        p.phase.unsent).map Decision.bytes =
    r.asked.map fun call => (decisionFor call).bytes

/-- As long as the handle is open and the loop runs, nothing is missing from the pipe. -/
theorem Sound.complete (s : Sound r p) (opened : r.deployment.handle.closed = false)
    (running : p.phase ≠ .finished) : Complete r p := by
  obtain ⟨-, -, pipe⟩ := s
  obtain ⟨-, runs, unlocked⟩ := pipe.orderly.opened opened
  -- the gate of an open handle was never shut, and the stop flag is set behind a shut gate only
  have flushing : r.deployment.handle.dispatch.stop = false := by
    rcases stop : r.deployment.handle.dispatch.stop with - | -
    · rfl
    · cases unlocked.symm.trans (pipe.fence.stopped stop)
  have tasks := pipe.tasks.whole runs
  have accepted := pipe.decisions.whole (by rw [flushing]; rfl)
  have split : r.asked.map decisionFor =
      (r.asked.take p.placed).map decisionFor ++ p.phase.unsent := by
    rw [← pipe.unsent running, ← List.map_append, List.take_append_drop]
  refine ⟨?_, ?_⟩
  · simpa only [EventStream.pipeline, List.append_assoc] using tasks
  · calc
      _ = r.consumed ++ r.deployment.kernel.waiting Contract.dispatched ++
            r.deployment.handle.dispatch.pipeline.map Decision.bytes ++
            p.phase.unsent.map Decision.bytes := by
          simp only [DispatchStream.pipeline, List.map_append, List.append_assoc]
      _ = (r.asked.map decisionFor).map Decision.bytes := by
          rw [accepted, split, List.map_append]
      _ = r.asked.map fun call => (decisionFor call).bytes := by
          rw [List.map_map]
          rfl

/-- **End-to-end placement.**  In every state of every run the decisions that the kernel has
taken, followed by those that wait in its ring, are those of some first call-outs of the loop, and
the tasks of these call-outs are the first that the queued ring has accepted: each decision
carries its task's number and flags and the CPU that the answer to its call-out stands for.
While the handle is open and the loop runs, nothing is lost on the way. -/
theorem end_to_end_placement (b : Blueprint) (faults : Faults)
    (noErrors : faults.submitErrors = []) (noPanics : faults.submitPanics = [])
    (early : List Bytes) (c : Controller) (artifact : Artifact) {h : Handle} {k : Kernel}
    (loaded : c.load (offerAll (b.build faults) early) artifact = (.ok h, k))
    (actions : List Action) :
    let r := (serving h k).run actions
    (∃ calls : List (Task × CallResult), calls <+: r.asked ∧
      calls.map Prod.fst <+: items Task r.offered ∧
      r.consumed ++ r.deployment.kernel.waiting Contract.dispatched =
        calls.map fun call =>
          Task.encode ⟨call.1.pid, call.2.choice.toKernel, call.1.flags⟩) ∧
    ∀ p, r.deployment.loop = some p → r.deployment.handle.closed = false →
      p.phase ≠ .finished → Complete r p := by
  intro r
  -- the load leaves an empty dispatched ring and the faults behind
  obtain ⟨keeps, fresh⟩ := Controller.load_fresh loaded
  have kept : k.faults = faults := by
    rw [keeps.faults, faults_offerAll]
    rfl
  have unused : k.waiting Contract.dispatched = [] := by
    rw [keeps.waiting, waiting_offerAll]
    exact Kernel.waiting_build b faults _
  have start : Sound (serving h k) {} :=
    sound_serving fresh (by rw [kept, noErrors]) (by rw [kept, noPanics]) unused
  obtain ⟨p, sound⟩ := sound_run start actions
  refine ⟨?_, fun p' loop opened running => ?_⟩
  · exact sound.placed
  · obtain rfl : p = p' := Option.some.inj (sound.loop.symm.trans loop)
    exact sound.complete opened running

/-- A controller whose queues have room for one item. -/
def narrow : Controller where
  config := { Config.standard with queued := ⟨1, 1⟩, dispatch := ⟨1, 1⟩ }
  residency := ⟨.disabled, false⟩

/-- It loads an object whose rings have room for two records, when a task and a malformed record
wait already. -/
def narrowLoad : Load where
  controller := narrow
  object := offerAll (Blueprint.standard.withRingCapacity 2).build [Task.encode ⟨1, 3, 7⟩, [9]]
  succeeds := by decide +kernel

/-- The first task is placed and taken by the kernel; the call-out for the second fails, and its
decision still waits when the handle is closed; the third task is never received. -/
def closedOnTheWay : List Action :=
  List.replicate 5 (Action.thread .pollQueued) ++ List.replicate 12 (Action.thread .place) ++
    [Action.offer (Task.encode ⟨2, 5, 8⟩)] ++ List.replicate 5 (Action.thread .pollQueued) ++
    List.replicate 4 (Action.thread (.dispatch .flush)) ++
    [Action.consume,
      .setSubprogram Contract.selectCpu fun _ => .error (.runFailed "no answer")] ++
    List.replicate 14 (Action.thread .place) ++
    List.replicate 4 (Action.thread (.dispatch .flush)) ++
    [Action.offer (Task.encode ⟨3, 5, 8⟩), .close] ++
    (List.replicate 16 [Action.thread .teardown, .thread .pollExits, .thread .pollQueued,
      .thread (.dispatch .flush), .thread .place]).flatten

/-- Of three tasks the first is taken by the kernel, the second waits on the ring with no CPU
chosen, and the third is lost to the close. -/
theorem end_to_end_placement_closedOnTheWay :
    let r := (serving narrowLoad.handle narrowLoad.kernel).run closedOnTheWay
    r.deployment.handle.teardown = .done ∧
      r.consumed = [Task.encode ⟨1, 3, 7⟩] ∧
      r.deployment.kernel.waiting Contract.dispatched = [Task.encode ⟨2, anyCpu, 8⟩] ∧
      ∃ calls : List (Task × CallResult), calls <+: r.asked ∧
        calls.map Prod.fst <+: items Task r.offered ∧
        r.consumed ++ r.deployment.kernel.waiting Contract.dispatched =
          calls.map fun call =>
            Task.encode ⟨call.1.pid, call.2.choice.toKernel, call.1.flags⟩ := by
  refine ⟨by decide +kernel, by decide +kernel, by decide +kernel, ?_⟩
  exact (end_to_end_placement (Blueprint.standard.withRingCapacity 2) {} rfl rfl
    [Task.encode ⟨1, 3, 7⟩, [9]] narrow _ narrowLoad.loaded closedOnTheWay).1

end PlacementRun

end SchedPlane
