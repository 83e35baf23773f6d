/-
SchedPlane/Proofs/EventRest.lean

Event streams at rest.

A running stream is quiescent when its poll thread can do nothing more: there is nothing left to
read, or the thread holds an item and the queue is full.  What it has made of its records by then
does not depend on the schedule.  `Places.atRest` computes it from the records that the ring has
accepted, the number of receipts and the room of the queue: the batches of the thread, its retries,
the polls that failed and the moments of the receipts leave no trace.

Two facts carry this.  The items keep their order on the way (`EventStream.Flow`); and the item at
hand is that of the last record that was read (`EventStream.LastRead`), so that what waits in the
ring is what stands behind it, malformed records included.

Main result: `schedule_independence`.  It also says when the kernel is refused: only if the queue
and the ring are full and an item is held between them.
-/
import SchedPlane.Proofs.EventRuns
import SchedPlane.Proofs.PollSettling

namespace SchedPlane

/-! ### Behind an item -/

/-- The records that stand behind that of the item of a number. -/
def behindItem (α : Type) [EventRecord α] : Nat → List Bytes → List Bytes
  | _, [] => []
  | n, b :: rest =>
    match EventRecord.ofRecord (α := α) b with
    | .error _ => behindItem α n rest
    | .ok _ =>
      match n with
      | 0 => rest
      | n + 1 => behindItem α n rest

theorem behindItem_cons_of_error {α : Type} [EventRecord α] {b : Bytes} {err : Truncated}
    (bad : EventRecord.ofRecord (α := α) b = .error err) (n : Nat) (rest : List Bytes) :
    behindItem α n (b :: rest) = behindItem α n rest := by
  simp only [behindItem, bad]

theorem behindItem_cons_of_ok {α : Type} [EventRecord α] {b : Bytes} {item : α}
    (good : EventRecord.ofRecord b = .ok item) (n : Nat) (rest : List Bytes) :
    behindItem α (n + 1) (b :: rest) = behindItem α n rest := by
  simp only [behindItem, good]

/-- Behind a good record stands what stands behind its item. -/
theorem behindItem_append {α : Type} [EventRecord α] {b : Bytes} {item : α}
    (good : EventRecord.ofRecord b = .ok item) (before rest : List Bytes) :
    behindItem α (items α before).length (before ++ b :: rest) = rest := by
  induction before with
  | nil => simp [items, behindItem, good]
  | cons b' before ih =>
    rcases e : EventRecord.ofRecord (α := α) b' with err | item'
    · rw [items_cons_of_error e, List.cons_append, behindItem_cons_of_error e]
      exact ih
    · rw [items_cons_of_ok e, List.cons_append, List.length_cons, behindItem_cons_of_ok e]
      exact ih

namespace EventStream

variable {α : Type} [EventRecord α] {s s' : EventStream α} {pending pending' offered : List Bytes}

/-! ### The last record that was read -/

/-- The item at hand is that of the last record that was read, and the others wait. -/
def LastRead (offered pending : List Bytes) (s : EventStream α) : Prop :=
  ∀ item, s.phase.held = [item] →
    ∃ before b, offered = before ++ b :: pending ∧ EventRecord.ofRecord b = .ok item

/-- The last record that was read is the one in hand, or the thread holds none. -/
theorem LastRead.poll (h : LastRead offered pending s) {read : List Bytes}
    (split : offered = read ++ pending) (move : PollMove pending s pending' s') :
    LastRead offered pending' s' := by
  intro item holds
  cases move with
  | goOn held => exact h item (held ▸ holds)
  | @read b rest item' next good =>
    obtain rfl : item' = item := by simpa [PollPhase.held] using holds
    exact ⟨read, b, by rw [split, next], good⟩
  | stall offers =>
    apply h item
    rw [offers]
    exact holds
  | reject | deliver | discard => cases holds

/-- A record that is offered goes behind those that wait. -/
theorem LastRead.offer (h : LastRead offered pending s) (b : Bytes) :
    LastRead (offered ++ [b]) (pending ++ [b]) s := by
  intro item holds
  obtain ⟨before, last, rfl, good⟩ := h item holds
  exact ⟨before, last, by simp, good⟩

omit [EventRecord α] in
theorem held_cases (phase : PollPhase α) : phase.held = [] ∨ ∃ item, phase.held = [item] := by
  cases phase with
  | idle | reading | finished => exact .inl rfl
  | offering item | stalled item | awaiting item => exact .inr ⟨item, rfl⟩

/-! ### Quiescence -/

omit [EventRecord α] in
/-- Nothing is left to read, or an item is held before a full queue. -/
def Quiescent (pending : List Bytes) (s : EventStream α) : Prop :=
  s.phase.held = [] ∧ pending = [] ∨ s.phase.held ≠ [] ∧ s.isFull = true

/-- In a quiescent stream the thread at most gets to another place, or counts a stall. -/
theorem PollMove.still (move : PollMove pending s pending' s') (running : s.stop = false)
    (quiet : s.Quiescent pending) :
    pending' = pending ∧ s'.queue = s.queue ∧ s'.phase.held = s.phase.held ∧
      s'.counters = { s.counters with stalls := s'.counters.stalls } := by
  cases move with
  | goOn held => exact ⟨rfl, rfl, held, rfl⟩
  | read next _ free | reject next _ free =>
    -- there is a record to read, and the hands of the thread are free
    rcases quiet with ⟨-, none⟩ | ⟨holds, -⟩
    · rw [none] at next
      cases next
    · exact absurd free holds
  | stall offers => exact ⟨rfl, rfl, by rw [offers]; rfl, rfl⟩
  | deliver holds room =>
    rcases quiet with ⟨free, -⟩ | ⟨-, full⟩
    · rw [holds] at free
      cases free
    · simp only [isFull, decide_eq_true_eq] at full
      omega
  | discard _ stopped =>
    rw [running] at stopped
    cases stopped

omit [EventRecord α] in
/-- A thread that rests on its ring, and was not asked to stop, has left the stream quiescent. -/
theorem quiescent_of_restsOn {k : Kernel} {r : Ring} (ring : k.rings.get? s.map = some r)
    (ends : s.phase = .finished → s.stop = true) (running : s.stop = false)
    (rests : s.restsOn k = true) : s.Quiescent (k.waiting s.map) := by
  rw [Kernel.waiting_of_get? ring]
  simp only [restsOn, ring] at rests
  cases here : s.phase with
  | idle | reading =>
    refine .inl ⟨by rw [here]; rfl, ?_⟩
    simpa [atRest, here, running] using rests
  | offering item => simp [atRest, here] at rests
  | stalled item | awaiting item =>
    refine .inr ⟨by rw [here]; exact List.cons_ne_nil _ _, ?_⟩
    simpa [atRest, here, running] using rests
  | finished =>
    rw [ends here] at running
    cases running

/-! ### The room of the ring -/

theorem capacity_pollStep (r : Ring) (s : EventStream α) :
    (s.pollStep r).1.capacity = r.capacity := by
  cases here : s.phase with
  | reading =>
    simp only [pollStep, here]
    split
    · next popped => exact Kernel.pop?_capacity popped
    · rfl
  | idle =>
    simp only [pollStep, here]
    split
    · rfl
    · split <;> rfl
  | offering | stalled | awaiting | finished => simp only [pollStep, here]

theorem room_advance (k : Kernel) (s : EventStream α) (other : String) :
    (s.advance k).1.room other = k.room other := by
  unfold advance
  split
  · rfl
  · next r ring =>
    have same := Kernel.room_setRing ring (capacity_pollStep r s) other
    simp only
    split
    · rw [(Kernel.keepsRings_releaseRing _ _).room]
      exact same
    · exact same

end EventStream

/-! ### The places of the records -/

/-- What a stream has made of its records, apart from where exactly its thread is. -/
structure Places (α : Type) where
  queue : List α
  held : List α
  /-- The records that wait. -/
  ring : List Bytes
  received : Nat
  delivered : Nat
  malformed : Nat
  discarded : Nat
  deriving DecidableEq, Repr

/-- The places when the records that were accepted and do not wait were all read, and nothing was
discarded. -/
def Places.counted (α : Type) [EventRecord α] (accepted : List Bytes) (receipts : Nat)
    (queue held : List α) (ring : List Bytes) : Places α where
  queue
  held
  ring
  received := accepted.length - ring.length
  delivered := receipts + queue.length
  malformed := ((accepted.take (accepted.length - ring.length)).filter (isMalformed α)).length
  discarded := 0

/-- The places of the accepted records once the thread rests, after a number of receipts and with
so much room in the queue. -/
def Places.atRest (α : Type) [EventRecord α] (room : Nat) (accepted : List Bytes)
    (receipts : Nat) : Places α :=
  let left := (items α accepted).drop receipts
  if left.length ≤ room then .counted α accepted receipts left [] []
  else
    .counted α accepted receipts (left.take room) ((left.drop room).take 1)
      (behindItem α (receipts + room) accepted)

namespace EventRun

variable {α : Type}

/-- What the stream has made of its records. -/
def places (r : EventRun α) : Places α where
  queue := r.stream.queue
  held := r.stream.phase.held
  ring := r.pending
  received := r.stream.counters.received
  delivered := r.stream.counters.delivered
  malformed := r.stream.counters.malformed
  discarded := r.stream.counters.discarded

/-- Whether the poll thread can do nothing more. -/
def Quiescent (r : EventRun α) : Prop :=
  r.stream.Quiescent r.pending

variable [EventRecord α] {r : EventRun α} {space : Nat}

/-! ### What every step keeps -/

/-- The run is sound, its ring has so much space, and the held item was read last. -/
structure Tracked (space : Nat) (r : EventRun α) : Prop where
  sound : Sound r
  room : r.kernel.room r.stream.map = some space
  last : r.stream.LastRead r.offered r.pending

theorem Tracked.step (h : Tracked space r) (a : Action) : Tracked space (r.step a) := by
  have sound := h.sound.step a
  obtain ⟨read, split, -⟩ := h.sound.books.ring
  cases a with
  | offer b =>
    refine ⟨sound, ?_, ?_⟩
    · exact (r.kernel.room_produce r.stream.map b r.stream.map).trans h.room
    · rcases r.step_offer b with ⟨pending, offered⟩ | ⟨pending, offered⟩
      · rw [pending, offered]
        exact h.last
      · rw [pending, offered]
        exact h.last.offer b
  | poll =>
    have move := r.step_poll
    refine ⟨sound, ?_, h.last.poll split move⟩
    rw [move.map_eq]
    exact (r.stream.room_advance r.kernel r.stream.map).trans h.room
  | failPolls n => exact ⟨sound, h.room, h.last⟩
  | receive consumer =>
    rcases front : r.stream.queue with - | ⟨x, rest⟩
    · rw [step_receive_of_nil front]
      exact h
    · rw [step_receive_of_cons front] at sound ⊢
      exact ⟨sound, h.room, h.last⟩
  | stop => exact ⟨sound, h.room, h.last⟩

theorem Tracked.run (h : Tracked space r) (actions : List Action) :
    Tracked space (r.run actions) := by
  induction actions generalizing r with
  | nil => exact h
  | cons a rest ih => exact ih (h.step a)

theorem tracked_starting {k k' : Kernel} {name map : String} {t : Tuning} {s : EventStream α}
    (started : EventStream.start α k name map t = .ok (k', s)) (ring : k.room map = some space) :
    Tracked space (starting k' s) := by
  have sound := sound_starting started
  obtain ⟨keeps, rfl⟩ := EventStream.start_eq_ok started
  refine ⟨sound, (keeps.room map).trans ring, ?_⟩
  intro item holds
  cases holds

/-! ### Coming to rest -/

/-- A quiescent stream stays as it is, as far as the poll thread is concerned. -/
theorem Quiescent.poll (quiet : r.Quiescent) (running : r.stream.stop = false) :
    (r.step .poll).Quiescent ∧ (r.step .poll).places = r.places ∧
      (r.step .poll).stream.stop = false := by
  have move := r.step_poll
  obtain ⟨pending, queue, held, counters⟩ := move.still running quiet
  refine ⟨?_, ?_, move.stop_eq.trans running⟩
  · simpa only [Quiescent, EventStream.Quiescent, EventStream.isFull, pending, queue, held,
      move.capacity_eq] using quiet
  · generalize (r.step .poll).stream.counters.stalls = stalls at counters
    rw [places, places, pending, queue, held, counters]

/-- At rest the thread may be given as many turns as one likes. -/
theorem Quiescent.polls (quiet : r.Quiescent) (running : r.stream.stop = false) (n : Nat) :
    (r.run (List.replicate n .poll)).places = r.places := by
  induction n generalizing r with
  | zero => rfl
  | succ n ih =>
    obtain ⟨quiet', same, running'⟩ := quiet.poll running
    exact (ih quiet' running').trans same

/-- **The poll thread alone makes the stream quiescent.** -/
theorem Tracked.exists_quiescent (h : Tracked space r) (running : r.stream.stop = false) :
    ∃ n, (r.run (List.replicate n .poll)).Quiescent := by
  -- on the work that is left for the thread
  generalize work : r.stream.remaining r.kernel = m
  induction m using Nat.strongRecOn generalizing r with
  | ind m ih =>
    cases rests : r.stream.restsOn r.kernel with
    | true =>
      obtain ⟨ring, found, -⟩ := Option.map_eq_some_iff.mp h.room
      exact ⟨0, EventStream.quiescent_of_restsOn found h.sound.ends running rests⟩
    | false =>
      have falls : (r.step .poll).stream.remaining (r.step .poll).kernel < m :=
        work ▸ EventStream.remaining_advance rests
      obtain ⟨n, quiet⟩ := ih _ falls (h.step .poll) (r.step_poll.stop_eq.trans running) rfl
      exact ⟨n + 1, quiet⟩

omit [EventRecord α] in
/-- To be quiescent is a matter of the places. -/
theorem quiescent_of_places {r' : EventRun α} (same : r'.places = r.places)
    (capacity : r'.stream.capacity = r.stream.capacity) (quiet : r'.Quiescent) : r.Quiescent := by
  have queue : r'.stream.queue = r.stream.queue := congrArg Places.queue same
  have held : r'.stream.phase.held = r.stream.phase.held := congrArg Places.held same
  have pending : r'.pending = r.pending := congrArg Places.ring same
  simpa only [Quiescent, EventStream.Quiescent, EventStream.isFull, queue, held, pending,
    capacity] using quiet

/-! ### The places at rest -/

/-- What was not received, in the order of production. -/
theorem Tracked.left (h : Tracked space r) (running : r.stream.stop = false) :
    (items α r.offered).drop r.taken.length =
      r.stream.queue ++ r.stream.phase.held ++ items α r.pending := by
  have whole := h.sound.flow.whole running
  have length : r.received.length = r.taken.length := List.length_map _
  rw [← whole, ← length, List.drop_left]
  rfl

/-- The counters follow from the places, as long as nothing is discarded. -/
theorem Tracked.counted (h : Tracked space r) (running : r.stream.stop = false) :
    r.places =
      .counted α r.offered r.taken.length r.stream.queue r.stream.phase.held r.pending := by
  obtain ⟨read, split, count, malformed⟩ := h.sound.books.ring
  have reads : r.offered.length - r.pending.length = read.length := by
    rw [split, List.length_append, Nat.add_sub_cancel]
  have delivered : r.stream.counters.delivered = r.taken.length + r.stream.queue.length := by
    rw [h.sound.books.delivered, EventRun.received, List.length_map]
  rw [places, Places.counted, reads, count, malformed, delivered, h.sound.books.calm running,
    split, List.take_left]

/-- **The closed form**: at rest the places are a function of what was accepted and of how much
was received. -/
theorem Tracked.places_eq (h : Tracked space r) (running : r.stream.stop = false)
    (quiet : r.Quiescent) :
    r.places = .atRest α r.stream.capacity r.offered r.taken.length := by
  have left := h.left running
  have room := h.sound.books.room
  rw [h.counted running, Places.atRest, left]
  rcases quiet with ⟨free, none⟩ | ⟨holds, full⟩
  · -- nothing is left to read
    have all : r.stream.queue ++ r.stream.phase.held ++ items α r.pending = r.stream.queue := by
      rw [free, none]
      exact (List.append_nil _).trans (List.append_nil _)
    rw [all, if_pos room, free, none]
  · -- the queue is full, and the ring begins behind the held item
    obtain ⟨item, held⟩ := (EventStream.held_cases r.stream.phase).resolve_left holds
    obtain ⟨before, b, split, good⟩ := h.last item held
    have filled : r.stream.queue.length = r.stream.capacity := by
      simp only [EventStream.isFull, decide_eq_true_eq] at full
      omega
    -- nothing was lost, and the queue does not hold what lies behind the held item
    have earlier : items α before = r.received ++ r.stream.queue := by
      have whole := h.sound.flow.whole running
      rw [EventStream.pipeline, held, split, items_append, items_cons_of_ok good] at whole
      have aligned : items α before ++ item :: items α r.pending =
          r.received ++ r.stream.queue ++ item :: items α r.pending := by
        rw [← whole]
        simp
      exact List.append_cancel_right aligned
    have number : r.taken.length + r.stream.capacity = (items α before).length := by
      rw [earlier, List.length_append, filled, EventRun.received, List.length_map]
    have behind : behindItem α (r.taken.length + r.stream.capacity) r.offered = r.pending := by
      rw [number, split]
      exact behindItem_append good before r.pending
    have long : ¬ (r.stream.queue ++ [item] ++ items α r.pending).length ≤ r.stream.capacity := by
      simp only [List.length_append, List.length_singleton]
      omega
    rw [held, if_neg long, behind, ← filled, List.append_assoc, List.take_left, List.drop_left]
    rfl

/-- In a quiescent stream the kernel is refused only when everything before it is full. -/
theorem Tracked.refused_iff (h : Tracked space r) (some : 0 < space) (quiet : r.Quiescent)
    (b : Bytes) :
    (r.kernel.produce r.stream.map b).1 = false ↔
      r.stream.queue.length = r.stream.capacity ∧ r.stream.phase.held ≠ [] ∧
        space ≤ r.pending.length := by
  rw [Kernel.produce_refused_iff h.room]
  constructor
  · intro full
    have waits : r.pending ≠ [] := by
      intro none
      have short : space ≤ r.pending.length := full
      rw [none, List.length_nil] at short
      omega
    rcases quiet with ⟨-, none⟩ | ⟨holds, filled⟩
    · exact absurd none waits
    · have room := h.sound.books.room
      simp only [EventStream.isFull, decide_eq_true_eq] at filled
      exact ⟨by omega, holds, full⟩
  · rintro ⟨-, -, full⟩
    exact full

/-! ### Schedule independence -/

/-- How a running stream comes to rest; `t` is its tuning, and its ring has room for `space`
records. -/
structure Settling (t : Tuning) (space : Nat) (r : EventRun α) : Prop where
  /-- To be quiescent means that the poll thread, left alone, changes nothing any more. -/
  quiet : r.Quiescent ↔ ∀ n, (r.run (List.replicate n .poll)).places = r.places
  /-- Left alone, the poll thread gets there. -/
  rests : ∃ n, (r.run (List.replicate n .poll)).Quiescent
  /-- All schedules that lead to rest lead to the same places. -/
  places : r.Quiescent →
    r.places = .atRest α (max 1 t.capacity.toNat) r.offered r.taken.length
  /-- The kernel is refused only if the queue is full, an item is held and the ring is full. -/
  refused : r.Quiescent → ∀ b, (r.kernel.produce r.stream.map b).1 = false ↔
    r.stream.queue.length = max 1 t.capacity.toNat ∧ r.stream.phase.held ≠ [] ∧
      space ≤ r.pending.length

/-- **Schedule independence.**  Whatever productions, polls, failures and receipts have led to a
state of a running stream in which its thread can do nothing more: the queue, the held item, the
ring and the counters are those that `Places.atRest` computes from the accepted records, the number
of receipts and the capacity. -/
theorem schedule_independence {k k' : Kernel} {name map : String} {t : Tuning}
    {s : EventStream α} (started : EventStream.start α k name map t = .ok (k', s))
    (ring : k.room map = some space) (some : 0 < space) (actions : List Action)
    (running : ((starting k' s).run actions).stream.stop = false) :
    Settling t space ((starting k' s).run actions) := by
  have tracked := (tracked_starting started ring).run actions
  have capacity : ((starting k' s).run actions).stream.capacity = max 1 t.capacity.toNat := by
    rw [capacity_run, (EventStream.start_eq_ok started).2]
    rfl
  generalize (starting k' s).run actions = r at tracked capacity running ⊢
  refine ⟨⟨fun quiet => quiet.polls running, fun still => ?_⟩, ?_, fun quiet => ?_,
    fun quiet b => ?_⟩
  · -- the thread alone would get to rest, and has nothing to change
    obtain ⟨n, quiet⟩ := tracked.exists_quiescent running
    exact quiescent_of_places (still n) (r.capacity_run _) quiet
  · exact tracked.exists_quiescent running
  · rw [← capacity]
    exact tracked.places_eq running quiet
  · rw [← capacity]
    exact tracked.refused_iff some quiet b

/-- A new stream with room for one item, on a ring with room for three records. -/
def tight : EventRun Task :=
  starting ((Blueprint.standard.withRingCapacity 3).build.record (.opened Contract.queued))
    { name := Contract.queued, map := Contract.queued, capacity := 1 }

theorem start_tight :
    EventStream.start Task (Blueprint.standard.withRingCapacity 3).build Contract.queued
      Contract.queued ⟨1, 1⟩ = .ok (tight.kernel, tight.stream) := rfl

/-- A first task is received; a second is queued, a third held, and a fourth waits between two
malformed records. -/
def filledUp : List Action :=
  [Action.offer [9], .failPolls 2, .offer (Task.encode ⟨1, 0, 0⟩)] ++
    List.replicate 8 Action.poll ++
    [Action.receive 0, .offer (Task.encode ⟨2, 0, 0⟩), .offer (Task.encode ⟨3, 0, 0⟩)] ++
    List.replicate 6 Action.poll ++
    [Action.offer [8], .offer (Task.encode ⟨4, 0, 0⟩), .offer [7]]

/-- The queue and the ring are filled up in two orders of production and polling, with the same
counters, the same ring and the same queue at rest. -/
theorem schedule_independence_filledUp :
    let r := tight.run filledUp
    Settling ⟨1, 1⟩ 3 r ∧ r.stream.stop = false ∧ r.Quiescent ∧ r.taken.length = 1 ∧
      r.places =
        { queue := [⟨2, 0, 0⟩], held := [⟨3, 0, 0⟩],
          ring := [[8], Task.encode ⟨4, 0, 0⟩, [7]],
          received := 4, delivered := 2, malformed := 1, discarded := 0 } ∧
      (r.kernel.produce r.stream.map [6]).1 = false := by
  have ring : (Blueprint.standard.withRingCapacity 3).build.room Contract.queued = some 3 := by
    decide +kernel
  have running : (tight.run filledUp).stream.stop = false := by decide +kernel
  have settling := schedule_independence start_tight ring (by decide) filledUp running
  refine ⟨settling, running, .inr ⟨?_, ?_⟩, ?_, ?_, ?_⟩ <;> decide +kernel

end EventRun

end SchedPlane
