/-
SchedPlane/Proofs/CloseTermination.lean

Every close comes to its end.

What the threads keep while a close is under way holds at every moment of the life of a handle
(`Sound.closing`), so whenever a handle is closed, each fair schedule brings the close to its end
and each blocking send to its return.  Nobody has to take anything out of a queue or a ring for
that.  A worker that was asked to stop comes to its end under any schedule that gives it enough
turns of its own, and a send that meets the closed gate is turned away at its next turn.

Main result: `close_completes`.
-/
import SchedPlane.Proofs.HandleRuns

namespace SchedPlane

open DispatchStream

namespace HandleRun

variable {r : HandleRun}

/-- A close from here comes to its end, and so does every worker that was asked to stop, although
nobody takes anything out of a queue or a ring any more. -/
structure Completes (r : HandleRun) : Prop where
  /-- Under every fair schedule of the threads the close ends, and with it every send. -/
  closes : ∀ turn, Fair (Deployment.closers r.deployment.senders.length) turn →
    ∃ n, ∀ m, n ≤ m → ((r.step .close).deployment.upTo turn m).Over
  exits : r.handle.exits.stop = true → Deployment.exitThread.Ends r.deployment
  queued : r.handle.queued.stop = true → Deployment.queuedThread.Ends r.deployment
  flush : r.handle.dispatch.stop = true → r.deployment.FlushEnds
  /-- Once the gate is closed, every send has returned or is turned away at its next turn. -/
  turnedAway : r.handle.dispatch.gate = .closed → ∀ n p, r.deployment.senders[n]? = some p →
    (∃ told, p = .returned told) ∨
      (r.deployment.step (.dispatch (.send n))).senders[n]? = some (.returned false)

/-- Nobody is behind a closed gate, so each send has returned or stands before it. -/
theorem turnedAway_of_closed (m : r.deployment.Manned) (g : r.handle.Gated)
    (closed : r.handle.dispatch.gate = .closed) {n : Nat} {p : Sender}
    (found : r.deployment.senders[n]? = some p) :
    (∃ told, p = .returned told) ∨
      (r.deployment.step (.dispatch (.send n))).senders[n]? = some (.returned false) := by
  cases p with
  | returned told => exact .inl ⟨told, rfl⟩
  | inside d => exact absurd (g.empty closed) (m.inside_ne found)
  | atGate d =>
    refine .inr ?_
    have bound := (List.getElem?_eq_some_iff.mp found).1
    have turned : (r.deployment.handle.dispatch.sendStep (.atGate d)).2 = .returned false := by
      have gate : r.deployment.handle.dispatch.gate = .closed := closed
      simp only [sendStep, gate]
    simp only [Deployment.step, Line.advance, Line.sendStep, Deployment.setLine, Deployment.line,
      found, turned]
    exact List.getElem?_set_self bound

/-- **Every close completes.**  From any state that a handle can come to, with queues and rings full
and sends that wait, every schedule that gives each thread its turn again and again brings the close
to its end and every send to its return.  A poll thread that was asked to stop reads what its
ring had and ends, the flush thread submits once at most and ends within five turns of its own, and
a send that finds the gate closed is turned away at its next turn. -/
theorem close_completes {c : Controller} {k k' : Kernel} (intact : k.Intact) {artifact : Artifact}
    {h : Handle} (loaded : c.load k artifact = (.ok h, k')) (actions : List Action) :
    Completes ((starting h k').run actions) := by
  obtain ⟨registry, -, complete, hosts⟩ := Controller.loaded_of_load intact loaded
  have sound := (sound_starting complete hosts).run actions
  generalize (starting h k').run actions = r at sound ⊢
  exact
    { closes := fun turn fair => by
        have closing := sound.closing
        obtain ⟨n, settled⟩ := closing.settles fair
        exact ⟨n, fun m later => (closing.upTo turn m).over_of_settled (settled m later)⟩
      exits := Deployment.exitThread.ends sound.staged sound.manned
      queued := Deployment.queuedThread.ends sound.staged sound.manned
      flush := Deployment.flushEnds sound.manned sound.gated sound.fenced
      turnedAway := fun closed _ _ found =>
        turnedAway_of_closed sound.manned sound.gated closed found }

/-- A controller whose queues have room for one item each. -/
def cramped : Controller where
  config := { Config.standard with queued := ⟨1, 1⟩, exit := ⟨1, 1⟩, dispatch := ⟨1, 1⟩ }
  residency := ⟨.disabled, false⟩

def crampedLoad : Load where
  controller := cramped
  object := (Blueprint.standard.withRingCapacity 2).build
  succeeds := by decide +kernel

/-- A task, an exit event and a decision come, and the workers move them on. -/
def oneOfEach (b : Bytes) : List Action :=
  [.produce Contract.queued (Task.encode ⟨1, 0, 0⟩), .produce Contract.exit b, .trySend ⟨b⟩] ++
    (List.replicate 4 [.thread .pollQueued, .thread .pollExits, .thread (.dispatch .flush)]).flatten

/-- All queues and rings fill up behind threads that hold one item more, two sends wait, and the
handle is closed. -/
def blockedEverywhere : List Action :=
  ([[1], [2], [3], [4], [5]].map oneOfEach).flatten ++
    [.beginSend ⟨[6]⟩, .beginSend ⟨[7]⟩, .thread (.dispatch (.send 0)), .close, .thread .teardown]

/-- Both poll threads and the flush thread hold an item with queue and ring full, one send is behind
the gate and one before it; threads that take turns bring the close to its end. -/
theorem close_completes_blockedEverywhere :
    let r := (starting crampedLoad.handle crampedLoad.kernel).run blockedEverywhere
    let threads := Deployment.closers 2
    Completes r ∧ r.handle.exits.stop = true ∧
      r.handle.exits.phase = .awaiting ⟨[2]⟩ ∧ r.handle.exits.isFull = true ∧
      r.kernel.waiting Contract.exit = [[3], [4]] ∧
      r.handle.queued.phase = .awaiting ⟨1, 0, 0⟩ ∧
      r.handle.dispatch.phase = .publishing ⟨[3]⟩ ∧ r.handle.dispatch.isFull = true ∧
      r.kernel.waiting Contract.dispatched = [[1], [2]] ∧
      r.deployment.senders = [.inside ⟨[6]⟩, .atGate ⟨[7]⟩] ∧
      ∃ n, ((r.step .close).deployment.upTo
        (fun m => threads.getD (m % threads.length) .teardown) n).Over := by
  have completes :=
    close_completes (Kernel.intact_build _ _) crampedLoad.loaded blockedEverywhere
  refine ⟨completes, by decide +kernel, by decide +kernel, by decide +kernel, by decide +kernel,
    by decide +kernel, by decide +kernel, by decide +kernel, by decide +kernel, by decide +kernel,
    ?_⟩
  have two : ((starting crampedLoad.handle crampedLoad.kernel).run
      blockedEverywhere).deployment.senders.length = 2 := by decide +kernel
  have closes := completes.closes
  rw [two] at closes
  obtain ⟨n, ended⟩ := closes _ (fair_circle .teardown _)
  exact ⟨n, ended n (Nat.le_refl n)⟩

end HandleRun

end SchedPlane
