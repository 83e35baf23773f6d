/-
SchedPlane/Proofs/EventFlow.lean

How records flow through an event stream.

An item is in one of four places: it was taken by a consumer, it is queued, the poll thread
holds it, or its record still waits in the ring.  `PollMove` lists all that a step of the
poll thread can do to these places and to the counters, and `advance_move` says that every
step on a kernel is one of these moves.  Two invariants follow, each by one case for a move:

* `Flow`: taken, queued, held and waiting items, in this order, are the items of the records
  the ring has accepted; once the stop flag is set, they are a subsequence of them;
* `Books`: the counters agree with these places.

The moves of the two other ends, a production into the ring and a consumer's receive, have
a lemma each beside them.
-/
import SchedPlane.Proofs.KernelRings
import SchedPlane.Stream.Event

namespace SchedPlane

/-! ### Places -/

/-- The items of the good records of a list. -/
def items (α : Type) [EventRecord α] (records : List Bytes) : List α :=
  records.filterMap fun b => (EventRecord.ofRecord (α := α) b).toOption

/-- Whether a record is malformed. -/
def isMalformed (α : Type) [EventRecord α] (b : Bytes) : Bool :=
  (EventRecord.ofRecord (α := α) b).toOption.isNone

section Items

variable {α : Type} [EventRecord α] {b : Bytes} {item : α} {e : Truncated}

theorem items_append (xs ys : List Bytes) : items α (xs ++ ys) = items α xs ++ items α ys :=
  List.filterMap_append

theorem items_cons_of_ok (h : EventRecord.ofRecord b = .ok item) (rest : List Bytes) :
    items α (b :: rest) = item :: items α rest := by
  simp [items, h, Except.toOption]

theorem items_cons_of_error (h : EventRecord.ofRecord (α := α) b = .error e)
    (rest : List Bytes) : items α (b :: rest) = items α rest := by
  simp [items, h, Except.toOption]

theorem isMalformed_of_ok (h : EventRecord.ofRecord b = .ok item) : isMalformed α b = false := by
  simp [isMalformed, h, Except.toOption]

theorem isMalformed_of_error (h : EventRecord.ofRecord (α := α) b = .error e) :
    isMalformed α b = true := by
  simp [isMalformed, h, Except.toOption]

/-- No exit event is malformed. -/
theorem isMalformed_exitEvent (b : Bytes) : isMalformed ExitEvent b = false :=
  isMalformed_of_ok rfl

end Items

/-- The item that was read and not yet queued. -/
def PollPhase.held {α : Type} : PollPhase α → List α
  | .offering item | .stalled item | .awaiting item => [item]
  | _ => []

/-- The items held that have not met a full queue yet. -/
def PollPhase.unmet {α : Type} : PollPhase α → Nat
  | .offering _ => 1
  | _ => 0

namespace EventStream

variable {α : Type} {s s' : EventStream α} {pending pending' : List Bytes}

theorem room_of_not_isFull (h : s.isFull = false) : s.queue.length < s.capacity := by
  simpa [isFull] using h

/-- The items on their way from the ring to the consumers, oldest first. -/
def pipeline [EventRecord α] (s : EventStream α) (pending : List Bytes) : List α :=
  s.queue ++ s.phase.held ++ items α pending

theorem phase_of_isFinished (h : s.isFinished = true) : s.phase = .finished := by
  unfold isFinished at h
  split at h
  · assumption
  · cases h

theorem map_take? {item : α} (h : s.take? = some (item, s')) : s'.map = s.map := by
  unfold take? at h
  split at h
  · cases h
  · cases h
    rfl

/-- What starting a stream gives. -/
theorem start_eq_ok {k k' : Kernel} {name map : String} {t : Tuning}
    (h : start α k name map t = .ok (k', s)) :
    Kernel.KeepsRings k k' ∧
      s = { name, map, capacity := t.room, failingPolls := k.failingPolls map } := by
  unfold start at h
  split at h
  · next opened =>
    cases h
    exact ⟨Kernel.keepsRings_openRing opened, rfl⟩
  · cases h
  · cases h

variable [EventRecord α]

/-! ### Moves of the poll thread -/

/-- What a step of the poll thread can do, with `pending` the records waiting in its ring. -/
inductive PollMove (pending : List Bytes) (s : EventStream α) :
    List Bytes → EventStream α → Prop
  /-- The thread only gets to another place.  It ends nowhere but at a stop flag. -/
  | goOn {phase : PollPhase α} {polls : Nat} (held : phase.held = s.phase.held)
      (unmet : phase.unmet = s.phase.unmet)
      (ends : phase = .finished → s.phase = .finished ∨ s.stop = true) :
      PollMove pending s pending { s with phase, failingPolls := polls }
  /-- A good record is read. -/
  | read {b : Bytes} {rest : List Bytes} {item : α} (next : pending = b :: rest)
      (good : EventRecord.ofRecord b = .ok item) (free : s.phase.held = []) :
      PollMove pending s rest
        { s with
          phase := .offering item
          counters := { s.counters with received := s.counters.received + 1 } }
  /-- A malformed record is read and dropped. -/
  | reject {b : Bytes} {rest : List Bytes} {e : Truncated} (next : pending = b :: rest)
      (bad : EventRecord.ofRecord (α := α) b = .error e) (free : s.phase.held = []) :
      PollMove pending s rest
        { s with
          phase := .reading
          counters :=
            { s.counters with
              received := s.counters.received + 1
              malformed := s.counters.malformed + 1 } }
  /-- The held item meets a full queue for the first time. -/
  | stall {item : α} (offers : s.phase = .offering item) : PollMove pending s pending (s.stall item)
  /-- The held item enters the queue, which has room. -/
  | deliver {item : α} (holds : s.phase.held = [item]) (room : s.queue.length < s.capacity) :
      PollMove pending s pending (s.deliver item)
  /-- The held item is given up at a stop flag. -/
  | discard {item : α} (holds : s.phase = .stalled item) (stopped : s.stop = true) :
      PollMove pending s pending s.discard

/-- Reading a record, good or malformed. -/
theorem accept_move {b : Bytes} {rest : List Bytes} (next : pending = b :: rest)
    (free : s.phase.held = []) : PollMove pending s rest (s.accept b) := by
  unfold accept
  rcases e : EventRecord.ofRecord (α := α) b with err | item
  · exact .reject next e free
  · exact .read next e free

/-- Every step of the poll thread is a move. -/
theorem pollStep_move (r : Ring) (s : EventStream α) :
    PollMove r.records s (s.pollStep r).1.records (s.pollStep r).2 := by
  rcases hp : s.phase with - | - | item | item | item | -
  · -- idle: the stop flag, then the faults of the poll
    simp only [pollStep, hp]
    split
    · next hs => exact .goOn (by rw [hp]; rfl) (by rw [hp]; rfl) fun _ => .inr hs
    · split
      · exact .goOn (by rw [hp]) (by rw [hp]) fun h => by cases h
      · exact .goOn (by rw [hp]; rfl) (by rw [hp]; rfl) fun h => by cases h
  · -- reading
    simp only [pollStep, hp]
    split
    · next b r' e => exact accept_move (Kernel.pop?_records e) (by rw [hp]; rfl)
    · exact .goOn (by rw [hp]; rfl) (by rw [hp]; rfl) fun h => by cases h
  · -- offering
    simp only [pollStep, hp]
    split
    · exact .stall hp
    · next h => exact .deliver (by rw [hp]; rfl) (room_of_not_isFull (by simpa using h))
  · -- stalled
    simp only [pollStep, hp]
    split
    · next hs => exact .discard hp hs
    · exact .goOn (by rw [hp]; rfl) (by rw [hp]; rfl) fun h => by cases h
  · -- awaiting
    simp only [pollStep, hp]
    split
    · exact .goOn (by rw [hp]; rfl) (by rw [hp]; rfl) fun h => by cases h
    · next h => exact .deliver (by rw [hp]; rfl) (room_of_not_isFull (by simpa using h))
  · -- finished
    simp only [pollStep, hp]
    exact .goOn rfl rfl fun h => .inl h

/-- A thread that has ended takes no step. -/
theorem pollStep_of_finished {r : Ring} (h : s.phase = .finished) : s.pollStep r = (r, s) := by
  simp [pollStep, h]

/-- Without its ring a thread takes no step. -/
theorem advance_of_get?_none {k : Kernel} (none : k.rings.get? s.map = none) :
    s.advance k = (k, s) := by
  simp only [advance, none]

/-- On a kernel the poll thread takes its step on its ring, which stays there when it ends. -/
theorem advance_of_get? {k : Kernel} {r : Ring} (ring : k.rings.get? s.map = some r) :
    (s.advance k).2 = (s.pollStep r).2 ∧
      (s.advance k).1.waiting s.map = (s.pollStep r).1.records := by
  simp only [advance, ring, true_and]
  split
  · rw [(Kernel.keepsRings_releaseRing _ _).waiting, Kernel.waiting_setRing]
  · exact Kernel.waiting_setRing ..

/-- On a kernel the poll thread makes the same moves. -/
theorem advance_move (k : Kernel) (s : EventStream α) :
    PollMove (k.waiting s.map) s ((s.advance k).1.waiting s.map) (s.advance k).2 := by
  rcases ring : k.rings.get? s.map with - | r
  · rw [advance_of_get?_none ring]
    exact .goOn rfl rfl fun h => .inl h
  · obtain ⟨same, waiting⟩ := advance_of_get? ring
    rw [same, waiting, Kernel.waiting_of_get? ring]
    exact pollStep_move r s

/-- The poll thread touches no other ring. -/
theorem waiting_advance_of_ne {k : Kernel} {other : String} (h : s.map ≠ other) :
    (s.advance k).1.waiting other = k.waiting other := by
  unfold advance
  split
  · rfl
  · simp only
    split
    · rw [(Kernel.keepsRings_releaseRing _ _).waiting, Kernel.waiting_setRing_of_ne _ h]
    · rw [Kernel.waiting_setRing_of_ne _ h]

theorem faults_advance (k : Kernel) (s : EventStream α) : (s.advance k).1.faults = k.faults := by
  unfold advance
  split
  · rfl
  · simp only
    split <;> rfl

/-- A thread that has ended takes no step. -/
theorem advance_of_finished {k : Kernel} (h : s.phase = .finished) :
    (s.advance k).2 = s := by
  rcases ring : k.rings.get? s.map with - | r
  · rw [advance_of_get?_none ring]
  · rw [(advance_of_get? ring).1, pollStep_of_finished h]

namespace PollMove

theorem map_eq (h : PollMove pending s pending' s') : s'.map = s.map := by
  cases h <;> rfl

theorem capacity_eq (h : PollMove pending s pending' s') : s'.capacity = s.capacity := by
  cases h <;> rfl

theorem stop_eq (h : PollMove pending s pending' s') : s'.stop = s.stop := by
  cases h <;> rfl

/-- The thread ends only at a stop flag. -/
theorem stop_of_finished (h : PollMove pending s pending' s')
    (ends : s.phase = .finished → s.stop = true) (ended : s'.phase = .finished) :
    s.stop = true := by
  cases h with
  | goOn _ _ reaches =>
    rcases reaches ended with before | stopped
    · exact ends before
    · exact stopped
  | read | reject | stall | deliver | discard => cases ended

/-- A move keeps every item on its way and in its place of the order, unless the stop flag
makes it give the held one up. -/
theorem pipeline_cases (h : PollMove pending s pending' s') :
    s'.pipeline pending' = s.pipeline pending ∨
      s.stop = true ∧ (s'.pipeline pending').Sublist (s.pipeline pending) := by
  cases h with
  | goOn held =>
    left
    rw [pipeline, pipeline, held]
  | read next good free =>
    -- the item moves from the front of the ring into the empty hand of the thread
    left
    rw [pipeline, pipeline, free, next, items_cons_of_ok good]
    simp [PollPhase.held]
  | reject next bad free =>
    left
    rw [pipeline, pipeline, free, next, items_cons_of_error bad]
    rfl
  | stall offers =>
    left
    rw [pipeline, pipeline, offers]
    rfl
  | deliver holds =>
    left
    rw [pipeline, pipeline, holds]
    simp [EventStream.deliver, PollPhase.held]
  | discard holds stopped =>
    -- the only move that loses an item
    right
    refine ⟨stopped, ?_⟩
    rw [pipeline, pipeline, holds]
    exact ((List.Sublist.refl s.queue).append (List.nil_sublist _)).append_right _

/-- Before the stop flag is set no item gets lost between the ring and the queue. -/
theorem pipeline_eq (h : PollMove pending s pending' s') (running : s.stop = false) :
    s'.pipeline pending' = s.pipeline pending := by
  rcases h.pipeline_cases with e | ⟨stopped, -⟩
  · exact e
  · rw [running] at stopped
    cases stopped

/-- Afterwards items may be discarded, but the others stay in order. -/
theorem pipeline_sublist (h : PollMove pending s pending' s') :
    (s'.pipeline pending').Sublist (s.pipeline pending) := by
  rcases h.pipeline_cases with e | ⟨-, sub⟩
  · exact e ▸ .refl _
  · exact sub

end PollMove

/-! ### The flow of items -/

/-- Every item of an accepted record is in one place, and the places are in the order of
production; `taken` are the items the consumers have received. -/
structure Flow (offered : List Bytes) (taken : List α) (pending : List Bytes)
    (s : EventStream α) : Prop where
  /-- Before the stop flag is set nothing is missing. -/
  whole : s.stop = false → taken ++ s.pipeline pending = items α offered
  kept : (taken ++ s.pipeline pending).Sublist (items α offered)

namespace Flow

variable {offered : List Bytes} {taken : List α}

/-- A new stream has everything before it. -/
theorem fresh (name map : String) (capacity polls : Nat) (pending : List Bytes) :
    Flow (α := α) pending [] pending { name, map, capacity, failingPolls := polls } :=
  ⟨fun _ => rfl, .refl _⟩

/-- A step of the thread keeps the order from the ring to the receivers. -/
theorem poll (h : Flow offered taken pending s) (move : PollMove pending s pending' s') :
    Flow offered taken pending' s' where
  whole running := by
    rw [move.stop_eq] at running
    rw [move.pipeline_eq running]
    exact h.whole running
  kept := (move.pipeline_sublist.append_left taken).trans h.kept

/-- A record that the ring accepts goes to the end of both lists. -/
theorem offer (h : Flow offered taken pending s) (b : Bytes) :
    Flow (offered ++ [b]) taken (pending ++ [b]) s := by
  have e : taken ++ s.pipeline (pending ++ [b]) = taken ++ s.pipeline pending ++ items α [b] := by
    simp only [pipeline, items_append, List.append_assoc]
  refine ⟨fun running => ?_, ?_⟩
  · rw [e, h.whole running, items_append]
  · rw [e, items_append]
    exact h.kept.append_right _

/-- A consumer takes the oldest item of the queue. -/
theorem take {item : α} {rest : List α} (h : Flow offered taken pending s)
    (front : s.queue = item :: rest) :
    Flow offered (taken ++ [item]) pending { s with queue := rest } := by
  have e : taken ++ [item] ++ ({ s with queue := rest } : EventStream α).pipeline pending =
      taken ++ s.pipeline pending := by
    simp [pipeline, front]
  refine ⟨fun running => ?_, ?_⟩
  · rw [e]
    exact h.whole running
  · rw [e]
    exact h.kept

theorem requestStop (h : Flow offered taken pending s) :
    Flow offered taken pending s.requestStop where
  whole running := by cases running
  kept := h.kept

end Flow

/-! ### The counters -/

/-- The counters agree with the places of the records. -/
structure Books (offered : List Bytes) (taken : List α) (pending : List Bytes)
    (s : EventStream α) : Prop where
  /-- What was read and what waits are what the ring has accepted. -/
  ring : ∃ read : List Bytes, offered = read ++ pending ∧ s.counters.received = read.length ∧
    s.counters.malformed = (read.filter (isMalformed α)).length
  received : s.counters.received = s.counters.delivered + s.counters.malformed +
    s.counters.discarded + s.phase.held.length
  delivered : s.counters.delivered = taken.length + s.queue.length
  /-- An item that has not met a full queue yet has no stall. -/
  stalls : s.counters.stalls + s.phase.unmet ≤
    s.counters.delivered + s.counters.discarded + s.phase.held.length
  room : s.queue.length ≤ s.capacity
  calm : s.stop = false → s.counters.discarded = 0

namespace Books

variable {offered : List Bytes} {taken : List α}

/-- A step of the thread moves a record from one place to the next and counts it on the way. -/
theorem poll (h : Books offered taken pending s) (move : PollMove pending s pending' s') :
    Books offered taken pending' s' := by
  obtain ⟨⟨read, split, count, bad⟩, received, delivered, stalls, room, calm⟩ := h
  cases move with
  | goOn held unmet =>
    refine ⟨⟨read, split, count, bad⟩, ?_, delivered, ?_, room, calm⟩
    · rw [held]
      exact received
    · rw [held, unmet]
      exact stalls
  | @read b _ _ next good free =>
    -- a held item that is new has not stalled, so `unmet` makes room for it in `stalls`
    rw [free] at received stalls
    refine ⟨⟨read ++ [b], by simp [split, next], by simp [count], ?_⟩, ?_, delivered, ?_, room,
      calm⟩
    · simp [bad, isMalformed_of_ok good]
    · simp [PollPhase.held, received]
    · simp only [PollPhase.held, PollPhase.unmet, List.length_nil, List.length_singleton]
        at stalls ⊢
      omega
  | @reject b _ _ next malformed free =>
    rw [free] at received stalls
    refine ⟨⟨read ++ [b], by simp [split, next], by simp [count], ?_⟩, ?_, delivered, ?_, room,
      calm⟩
    · simp [bad, isMalformed_of_error malformed]
    · simp only [PollPhase.held, List.length_nil] at received ⊢
      omega
    · simp only [PollPhase.held, PollPhase.unmet, List.length_nil] at stalls ⊢
      omega
  | stall offers =>
    -- the stall is counted when the item stops being unmet
    rw [offers] at received stalls
    refine ⟨⟨read, split, count, bad⟩, received, delivered, ?_, room, calm⟩
    simp only [EventStream.stall, PollPhase.held, PollPhase.unmet] at stalls ⊢
    omega
  | deliver holds free =>
    rw [holds] at received stalls
    refine ⟨⟨read, split, count, bad⟩, ?_, ?_, ?_, ?_, calm⟩
    · simp only [EventStream.deliver, PollPhase.held, List.length_nil, List.length_singleton]
        at received ⊢
      omega
    · simp only [EventStream.deliver, List.length_append, List.length_singleton]
      omega
    · simp only [EventStream.deliver, PollPhase.held, PollPhase.unmet, List.length_nil,
        List.length_singleton] at stalls ⊢
      omega
    · simp only [EventStream.deliver, List.length_append, List.length_singleton]
      omega
  | discard holds stopped =>
    -- nothing is discarded before the stop flag is set
    rw [holds] at received stalls
    refine ⟨⟨read, split, count, bad⟩, ?_, delivered, ?_, room, fun running => ?_⟩
    · simp only [EventStream.discard, PollPhase.held, List.length_nil, List.length_singleton]
        at received ⊢
      omega
    · simp only [EventStream.discard, PollPhase.held, PollPhase.unmet, List.length_nil,
        List.length_singleton] at stalls ⊢
      omega
    · cases stopped.symm.trans running

theorem offer (h : Books offered taken pending s) (b : Bytes) :
    Books (offered ++ [b]) taken (pending ++ [b]) s := by
  obtain ⟨read, split, counts⟩ := h.ring
  exact { h with ring := ⟨read, by rw [split, List.append_assoc], counts⟩ }

/-- Receivers take from the front of the queue, which is not counted again. -/
theorem take {item : α} {rest : List α} (h : Books offered taken pending s)
    (front : s.queue = item :: rest) :
    Books offered (taken ++ [item]) pending { s with queue := rest } := by
  have delivered := h.delivered
  have room := h.room
  rw [front, List.length_cons] at delivered room
  exact { h with
    delivered := by
      show s.counters.delivered = (taken ++ [item]).length + rest.length
      rw [List.length_append, List.length_singleton]
      omega
    room := Nat.le_of_succ_le room }

theorem requestStop (h : Books offered taken pending s) :
    Books offered taken pending s.requestStop :=
  { h with calm := fun running => by cases running }

end Books

end EventStream

end SchedPlane
