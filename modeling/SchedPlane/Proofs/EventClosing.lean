/-
SchedPlane/Proofs/EventClosing.lean

What closing an event stream costs while nobody else acts.

The queue of a blocked stream stays full while it is closed, and an idle stream has nothing to
put into its queue.  In both cases the queue is barred (`EventStream.Barred`), and then the fate of
every record before the thread is settled: one that is malformed is counted as such, a good one
meets the full queue once and is discarded.  `EventStream.foreseen` adds that up for the record
at hand and for those in the ring, and no step of the thread changes the sum
(`PollMove.foreseen_eq`).  The thread leaves its batch nowhere but at an empty ring, so when it
ends there is nothing before it any more, and the counters are what was foreseen.

Main result: `close_under_backpressure`.
-/
import SchedPlane.Proofs.EventRuns
import SchedPlane.Proofs.PollSettling

namespace SchedPlane

/-- Whether a poll thread is inside a batch. -/
def PollPhase.inBatch {α : Type} : PollPhase α → Bool
  | .idle | .finished => false
  | .reading | .offering _ | .stalled _ | .awaiting _ => true

theorem PollPhase.unmet_of_free {α : Type} {phase : PollPhase α} (free : phase.held = []) :
    phase.unmet = 0 := by
  cases phase with
  | offering item => cases free
  | idle | reading | stalled | awaiting | finished => rfl

namespace EventStream

variable {α : Type} {s s' : EventStream α} {pending pending' : List Bytes}

/-- No item can enter the queue: it is full, or there is none before the thread. -/
def Barred (pending : List Bytes) (s : EventStream α) : Prop :=
  s.isFull = true ∨ s.phase.held = [] ∧ pending = []

/-- The thread waits for room with an item in its hands, and its stall is counted. -/
structure Blocked (s : EventStream α) : Prop where
  waits : ∃ item, s.phase = .stalled item ∨ s.phase = .awaiting item
  full : s.isFull = true

/-- The thread waits for records: it holds none, and none is in its ring. -/
structure Idle (k : Kernel) (s : EventStream α) : Prop where
  waits : s.phase = .idle ∨ s.phase = .reading
  empty : k.waiting s.map = []

variable [EventRecord α]

/-! ### What is foreseen -/

/-- The counters when all that is before the thread has met a barred queue. -/
def foreseen (s : EventStream α) (pending : List Bytes) : Counters where
  received := s.counters.received + pending.length
  delivered := s.counters.delivered
  malformed := s.counters.malformed + (pending.filter (isMalformed α)).length
  discarded := s.counters.discarded + s.phase.held.length + (items α pending).length
  stalls := s.counters.stalls + s.phase.unmet + (items α pending).length

/-- A barred queue stays as it is, and barred. -/
theorem PollMove.barred (move : PollMove pending s pending' s') (barred : s.Barred pending) :
    s'.queue = s.queue ∧ s'.Barred pending' := by
  have full {rest : List Bytes} {b : Bytes} (next : pending = b :: rest) : s.isFull = true := by
    rcases barred with full | ⟨-, none⟩
    · exact full
    · rw [none] at next
      cases next
  cases move with
  | goOn held => exact ⟨rfl, barred.imp_right fun idle => ⟨held.trans idle.1, idle.2⟩⟩
  | read next | reject next => exact ⟨rfl, .inl (full next)⟩
  | stall offers =>
    rcases barred with full | ⟨free, -⟩
    · exact ⟨rfl, .inl full⟩
    · rw [offers] at free
      cases free
  | deliver holds room =>
    rcases barred with full | ⟨free, -⟩
    · simp only [isFull, decide_eq_true_eq] at full
      omega
    · rw [holds] at free
      cases free
  | discard holds => exact ⟨rfl, barred.imp_right fun idle => ⟨rfl, idle.2⟩⟩

/-- **No step of the thread changes what is foreseen.** -/
theorem PollMove.foreseen_eq (move : PollMove pending s pending' s') (barred : s.Barred pending) :
    s'.foreseen pending' = s.foreseen pending := by
  cases move with
  | goOn held unmet => simp only [foreseen, held, unmet]
  | @read b _ _ next good free =>
    -- a good record was foreseen as one item that stalls, and is now at hand
    have whole : ¬ isMalformed α b = true := Bool.eq_false_iff.mp (isMalformed_of_ok good)
    have sound := List.filter_cons_of_neg (l := pending') whole
    unfold foreseen
    rw [free, PollPhase.unmet_of_free free, next, items_cons_of_ok good, sound]
    simp only [PollPhase.held, PollPhase.unmet, List.length_cons, List.length_nil,
      Counters.mk.injEq, true_and]
    omega
  | @reject b _ _ next bad free =>
    have spoilt := List.filter_cons_of_pos (l := pending') (isMalformed_of_error bad)
    unfold foreseen
    rw [free, PollPhase.unmet_of_free free, next, items_cons_of_error bad, spoilt]
    simp only [PollPhase.held, PollPhase.unmet, List.length_cons, List.length_nil,
      Counters.mk.injEq, true_and, and_true]
    omega
  | stall offers => simp [foreseen, EventStream.stall, offers, PollPhase.held, PollPhase.unmet]
  | deliver holds room =>
    -- this is where the barred queue is needed
    rcases barred with full | ⟨free, -⟩
    · simp only [isFull, decide_eq_true_eq] at full
      omega
    · rw [holds] at free
      cases free
  | discard holds => simp [foreseen, EventStream.discard, holds, PollPhase.held, PollPhase.unmet]

/-- The thread leaves a batch only when the ring is empty. -/
theorem empty_of_pollStep {r : Ring} (left : (s.pollStep r).2.phase.inBatch = false)
    (before : s.phase.inBatch = false → r.records = []) : (s.pollStep r).1.records = [] := by
  cases here : s.phase with
  | idle =>
    have empty := before (by rw [here]; rfl)
    simp only [pollStep, here]
    split
    · exact empty
    · split <;> exact empty
  | reading =>
    simp only [pollStep, here] at left ⊢
    split at left
    · -- with a record read the thread is in its batch still
      next popped =>
      unfold accept at left
      split at left <;> cases left
    · next popped => exact Kernel.empty_of_pop? popped
  | offering item =>
    simp only [pollStep, here] at left
    split at left <;> cases left
  | stalled item =>
    simp only [pollStep, here] at left
    split at left <;> cases left
  | awaiting item =>
    simp only [pollStep, here] at left
    split at left <;> cases left
  | finished =>
    rw [pollStep_of_finished here]
    exact before (by rw [here]; rfl)

/-- A poll thread that leaves its batch has emptied its ring. -/
theorem empty_of_advance {k : Kernel} (left : (s.advance k).2.phase.inBatch = false)
    (before : s.phase.inBatch = false → k.waiting s.map = []) :
    (s.advance k).1.waiting s.map = [] := by
  rcases ring : k.rings.get? s.map with - | r
  · rw [advance_of_get?_none ring]
    exact Kernel.waiting_of_get?_none ring
  · obtain ⟨same, waiting⟩ := advance_of_get? ring
    rw [same] at left
    rw [Kernel.waiting_of_get? ring] at before
    rw [waiting]
    exact empty_of_pollStep left before

/-! ### Closing -/

/-- What has become of a stream that is being closed with its queue barred. -/
structure Unwound (k : Kernel) (s : EventStream α) (p : Kernel × EventStream α) : Prop where
  map : p.2.map = s.map
  queue : p.2.queue = s.queue
  barred : p.2.Barred (p.1.waiting s.map)
  foreseen : p.2.foreseen (p.1.waiting s.map) = s.foreseen (k.waiting s.map)
  left : p.2.phase.inBatch = false → p.1.waiting s.map = []

namespace Unwound

variable {k : Kernel} {p : Kernel × EventStream α}

/-- No step of the thread changes what its end will be. -/
theorem advance (u : Unwound k s p) : Unwound k s (p.2.advance p.1) := by
  have move := advance_move p.1 p.2
  rw [u.map] at move
  obtain ⟨queue, barred⟩ := move.barred u.barred
  exact
    { map := move.map_eq.trans u.map
      queue := queue.trans u.queue
      barred := barred
      foreseen := (move.foreseen_eq u.barred).trans u.foreseen
      left := fun out => u.map ▸ empty_of_advance out (u.map ▸ u.left) }

theorem settle (u : Unwound k s p) : Unwound k s (p.2.settle p.1) :=
  untilRest_keeps (fun _ keeps => keeps.advance) u _

/-- At the end nothing is before the thread, and what was foreseen has come true. -/
theorem counters (u : Unwound k s p) (ended : p.2.isFinished = true) :
    p.2.counters = s.foreseen (k.waiting s.map) ∧ p.1.waiting s.map = [] := by
  have here := phase_of_isFinished ended
  have empty := u.left (by rw [here]; rfl)
  refine ⟨?_, empty⟩
  rw [← u.foreseen, empty]
  simp [EventStream.foreseen, here, items, PollPhase.held, PollPhase.unmet]

end Unwound

/-- Closing a stream with a barred queue. -/
theorem close_of_barred {k : Kernel} (ring : (k.rings.get? s.map).isSome)
    (running : s.isFinished = false) (barred : s.Barred (k.waiting s.map))
    (left : s.phase.inBatch = false → k.waiting s.map = []) :
    (s.close k).2.queue = s.queue ∧ (s.close k).1.waiting s.map = [] ∧
      (s.close k).2.counters = s.foreseen (k.waiting s.map) := by
  have begun : Unwound k s (k, s.requestStop) := ⟨rfl, rfl, barred, rfl, left⟩
  have done : Unwound k s (s.close k) := begun.settle
  have ended := (Watched.refl (k := k) running).isFinished_close ring
  obtain ⟨counters, empty⟩ := done.counters ended
  exact ⟨done.queue, empty, counters⟩

/-- Closing a stream that has ended changes nothing. -/
theorem close_of_finished {k : Kernel} (ended : s.isFinished = true) (stopped : s.stop = true) :
    s.close k = (k, s) := by
  have same : s.requestStop = s := by
    cases s
    cases stopped
    rfl
  have rests : s.restsOn k = true := by
    unfold restsOn
    split
    · rfl
    · rw [atRest, phase_of_isFinished ended]
  rw [close, same, settle]
  apply untilRest_of_atRest
  exact rests

/-- Closing a second time changes nothing. -/
theorem close_close {k : Kernel} (ring : (k.rings.get? s.map).isSome)
    (running : s.isFinished = false) : (s.close k).2.close (s.close k).1 = s.close k :=
  close_of_finished ((Watched.refl (k := k) running).isFinished_close ring)
    (stop_settle k s.requestStop)

/-! ### Blocked and idle streams -/

omit [EventRecord α] in
theorem Blocked.running (blocked : s.Blocked) : s.isFinished = false := by
  obtain ⟨item, here | here⟩ := blocked.waits <;> simp only [isFinished, here]

omit [EventRecord α] in
theorem Idle.running {k : Kernel} (idle : s.Idle k) : s.isFinished = false := by
  rcases idle.waits with here | here <;> simp only [isFinished, here]

/-- A blocked stream gives up what it holds and every item of its ring, and stalls for the latter
only: it has stalled for the former already. -/
theorem Blocked.foreseen (blocked : s.Blocked) :
    s.foreseen pending =
      { received := s.counters.received + pending.length
        delivered := s.counters.delivered
        malformed := s.counters.malformed + (pending.filter (isMalformed α)).length
        discarded := s.counters.discarded + (1 + (items α pending).length)
        stalls := s.counters.stalls + (items α pending).length } := by
  obtain ⟨item, here | here⟩ := blocked.waits <;>
    simp only [EventStream.foreseen, here, PollPhase.held, PollPhase.unmet, List.length_singleton,
      Nat.add_zero, Nat.add_assoc]

/-- Nothing will become of an idle stream. -/
theorem Idle.foreseen {k : Kernel} (idle : s.Idle k) : s.foreseen [] = s.counters := by
  rcases idle.waits with here | here <;>
    simp [EventStream.foreseen, here, items, PollPhase.held, PollPhase.unmet]

/-- **Closing under backpressure**, while no consumer and no kernel acts.  A blocked stream keeps
its queue; its ring is read to the end, each malformed record counts as such, the item it holds and
every item of the ring is discarded, and each of the latter stalls once.  Closing an idle stream
changes no counter and no entry of the queue.  In both cases closing again changes nothing. -/
theorem close_under_backpressure (k : Kernel) (s : EventStream α)
    (ring : (k.rings.get? s.map).isSome) :
    let records := k.waiting s.map
    let closed := s.close k
    (s.Blocked → closed.2.queue = s.queue ∧ closed.1.waiting s.map = [] ∧
      closed.2.counters =
        { received := s.counters.received + records.length
          delivered := s.counters.delivered
          malformed := s.counters.malformed + (records.filter (isMalformed α)).length
          discarded := s.counters.discarded + (1 + (items α records).length)
          stalls := s.counters.stalls + (items α records).length }) ∧
    (s.Idle k → closed.2.queue = s.queue ∧ closed.1.waiting s.map = [] ∧
      closed.2.counters = s.counters) ∧
    (s.Blocked ∨ s.Idle k → closed.2.isFinished = true ∧ closed.2.close closed.1 = closed) := by
  intro records closed
  refine ⟨fun blocked => ?_, fun idle => ?_, fun waits => ?_⟩
  · -- a thread that waits is inside a batch
    have inside : s.phase.inBatch = false → records = [] := by
      obtain ⟨item, here | here⟩ := blocked.waits <;> rw [here] <;> exact nofun
    obtain ⟨queue, empty, counters⟩ :=
      close_of_barred ring blocked.running (.inl blocked.full) inside
    exact ⟨queue, empty, counters.trans blocked.foreseen⟩
  · have free : s.phase.held = [] := by
      rcases idle.waits with here | here <;> rw [here] <;> rfl
    obtain ⟨queue, empty, counters⟩ :=
      close_of_barred ring idle.running (.inr ⟨free, idle.empty⟩) fun _ => idle.empty
    refine ⟨queue, empty, counters.trans ?_⟩
    rw [idle.empty]
    exact idle.foreseen
  · have running : s.isFinished = false := waits.elim Blocked.running Idle.running
    exact ⟨(Watched.refl (k := k) running).isFinished_close ring, close_close ring running⟩

end EventStream

/-! ### A stream closed before a full queue -/

namespace EventRun

/-- With room for one item, two tasks fill the queue and the hands of the thread; a task, a record
cut short and another task wait behind them. -/
def blocking : List Action :=
  [.offer (Task.encode ⟨1, 0, 0⟩), .offer (Task.encode ⟨2, -1, 5⟩), .offer (Task.encode ⟨3, 0, 0⟩),
    .offer [7], .offer (Task.encode ⟨4, 2, 0⟩)] ++ List.replicate 5 .poll

end EventRun

open EventRun in
/-- From a full queue with a record in hand the close discards what it cannot deliver, and counts
it. -/
theorem EventStream.close_under_backpressure_blocking :
    let r := oneRoom.run blocking
    let closed := r.stream.close r.kernel
    closed.2.queue = [⟨1, 0, 0⟩] ∧ closed.1.waiting Contract.queued = [] ∧
      closed.2.counters =
        { received := 5, delivered := 1, malformed := 1, discarded := 3, stalls := 3 } ∧
      closed.2.close closed.1 = closed := by
  have ring : ((oneRoom.run blocking).kernel.rings.get?
      (oneRoom.run blocking).stream.map).isSome := by
    decide +kernel
  have blocked : (oneRoom.run blocking).stream.Blocked :=
    ⟨⟨⟨2, -1, 5⟩, .inl (by decide +kernel)⟩, by decide +kernel⟩
  obtain ⟨full, -, again⟩ :=
    close_under_backpressure (oneRoom.run blocking).kernel (oneRoom.run blocking).stream ring
  obtain ⟨queue, empty, counters⟩ := full blocked
  refine ⟨queue.trans ?_, empty, counters.trans ?_, (again (.inl blocked)).2⟩
  · decide +kernel
  · decide +kernel

end SchedPlane
