/-
SchedPlane/Proofs/EventRuns.lean

Runs of an event stream.

A run starts with a stream on the ring of a map and lets everybody who has a part in it act
in any order: the kernel offers records, the poll thread steps, consumers receive, polls
fail, and somebody asks the thread to stop.  The run remembers the records that the ring has
accepted and the items that consumers have received, so that what became of each record can
be said.

Main results, for every run whatever its order:

* `stream_integrity`: before the stop flag is set, received, queued, held and waiting items
  are exactly the items of the accepted records in the order of their production; after it
  they are a subsequence, and what is queued when the thread has ended stays there, in
  order, until it is received;
* `counters_balance`: the counters account for every record.
-/
import SchedPlane.Proofs.EventFlow

namespace SchedPlane

/-- A run of an event stream on a kernel, with its history. -/
structure EventRun (α : Type) where
  kernel : Kernel
  stream : EventStream α
  /-- The records the ring has accepted, oldest first. -/
  offered : List Bytes
  /-- The items received, oldest first, each with the consumer that got it. -/
  taken : List (Nat × α) := []

namespace EventRun

variable {α : Type}

/-! ### Steps -/

/-- What can happen to an event stream. -/
inductive Action where
  /-- The kernel offers a record. -/
  | offer (b : Bytes)
  /-- The poll thread takes its next step. -/
  | poll
  /-- From now on so many polls fail. -/
  | failPolls (n : Nat)
  /-- A consumer asks for an item. -/
  | receive (consumer : Nat)
  /-- The poll thread is asked to stop. -/
  | stop
  deriving DecidableEq, Repr

/-- The run that begins with a stream, when records may wait in its ring already. -/
def starting (k : Kernel) (s : EventStream α) : EventRun α where
  kernel := k
  stream := s
  offered := k.waiting s.map

/-- The items received so far, in the order of their receipt. -/
def received (r : EventRun α) : List α :=
  r.taken.map Prod.snd

/-- The records that wait in the ring. -/
def pending (r : EventRun α) : List Bytes :=
  r.kernel.waiting r.stream.map

/-- Whether closing has returned: the thread was asked to stop and has ended. -/
def isClosed (r : EventRun α) : Prop :=
  r.stream.stop = true ∧ r.stream.phase = .finished

variable [EventRecord α]

/-- The run after an action. -/
def step (r : EventRun α) : Action → EventRun α
  | .offer b =>
    let (accepted, kernel) := r.kernel.produce r.stream.map b
    { r with kernel, offered := if accepted then r.offered ++ [b] else r.offered }
  | .poll =>
    let (kernel, stream) := r.stream.advance r.kernel
    { r with kernel, stream }
  | .failPolls n => { r with stream := { r.stream with failingPolls := n } }
  | .receive consumer =>
    match r.stream.receive with
    | (.item x, stream) => { r with stream, taken := r.taken ++ [(consumer, x)] }
    | _ => r
  | .stop => { r with stream := r.stream.requestStop }

/-- The run after a list of actions. -/
def run (r : EventRun α) (actions : List Action) : EventRun α :=
  actions.foldl step r

variable {r : EventRun α}

/-! ### What every step keeps -/

/-- Every record and every counter is accounted for, and the thread ends only at a stop. -/
structure Sound (r : EventRun α) : Prop where
  flow : r.stream.Flow r.offered r.received r.pending
  books : r.stream.Books r.offered r.received r.pending
  ends : r.stream.phase = .finished → r.stream.stop = true

theorem step_receive_of_cons {x : α} {rest : List α} (h : r.stream.queue = x :: rest)
    (consumer : Nat) :
    r.step (.receive consumer) =
      { r with
        stream := { r.stream with queue := rest }
        taken := r.taken ++ [(consumer, x)] } := by
  simp [step, EventStream.receive, EventStream.take?, h]

theorem step_receive_of_nil (h : r.stream.queue = []) (consumer : Nat) :
    r.step (.receive consumer) = r := by
  simp only [step, EventStream.receive, EventStream.take?, h]
  cases r.stream.isFinished <;> rfl

/-- An offered record is refused without a trace, or it is accepted and waits. -/
theorem step_offer (r : EventRun α) (b : Bytes) :
    (r.step (.offer b)).pending = r.pending ∧ (r.step (.offer b)).offered = r.offered ∨
      (r.step (.offer b)).pending = r.pending ++ [b] ∧
        (r.step (.offer b)).offered = r.offered ++ [b] := by
  simp only [step, pending]
  rcases r.kernel.produce_cases r.stream.map b with e | ⟨ring, records, e⟩
  · left
    simp [e]
  · right
    simp [e, records]

theorem step_poll (r : EventRun α) :
    EventStream.PollMove r.pending r.stream (r.step .poll).pending (r.step .poll).stream := by
  have move := EventStream.advance_move r.kernel r.stream
  show EventStream.PollMove _ _ ((r.stream.advance r.kernel).1.waiting
    (r.stream.advance r.kernel).2.map) _
  rw [move.map_eq]
  exact move

/-- **Each action keeps the run sound.** -/
theorem Sound.step (h : Sound r) (a : Action) : Sound (r.step a) := by
  cases a with
  | offer b =>
    rcases r.step_offer b with ⟨pending, offered⟩ | ⟨pending, offered⟩
    · refine ⟨?_, ?_, h.ends⟩
      · rw [pending, offered]
        exact h.flow
      · rw [pending, offered]
        exact h.books
    · refine ⟨?_, ?_, h.ends⟩
      · rw [pending, offered]
        exact h.flow.offer b
      · rw [pending, offered]
        exact h.books.offer b
  | poll =>
    have move := r.step_poll
    refine ⟨h.flow.poll move, h.books.poll move, fun ended => ?_⟩
    rw [move.stop_eq]
    exact move.stop_of_finished h.ends ended
  | failPolls n => exact ⟨⟨h.flow.whole, h.flow.kept⟩, { h.books with }, h.ends⟩
  | receive consumer =>
    rcases front : r.stream.queue with - | ⟨x, rest⟩
    · rw [step_receive_of_nil front]
      exact h
    · -- whichever consumer it is, the items received are the oldest ones
      rw [step_receive_of_cons front]
      have received : received
          { r with
            stream := { r.stream with queue := rest }
            taken := r.taken ++ [(consumer, x)] } = r.received ++ [x] := by
        simp [EventRun.received]
      exact ⟨received ▸ h.flow.take front, received ▸ h.books.take front, h.ends⟩
  | stop => exact ⟨h.flow.requestStop, h.books.requestStop, fun _ => rfl⟩

/-- A sound run stays sound. -/
theorem Sound.run (h : Sound r) (actions : List Action) : Sound (r.run actions) :=
  List.foldlRecOn actions EventRun.step h fun _ ih a _ => ih.step a

/-! ### Beginnings -/

/-- A stream that has just started has read nothing. -/
theorem sound_starting {k k' : Kernel} {name map : String} {t : Tuning} {s : EventStream α}
    (h : EventStream.start α k name map t = .ok (k', s)) : Sound (starting k' s) := by
  obtain ⟨-, rfl⟩ := EventStream.start_eq_ok h
  refine ⟨.fresh name map t.room _ _, ?_, fun ended => by cases ended⟩
  exact
    { ring := ⟨[], rfl, rfl, rfl⟩
      received := rfl
      delivered := rfl
      stalls := Nat.le_refl 0
      room := Nat.zero_le _
      calm := fun _ => rfl }

/-- The capacity of a stream never changes. -/
theorem capacity_run (r : EventRun α) (actions : List Action) :
    (r.run actions).stream.capacity = r.stream.capacity := by
  refine List.foldlRecOn (motive := fun r' : EventRun α => r'.stream.capacity = r.stream.capacity)
    actions EventRun.step rfl fun r' ih a _ => ?_
  cases a with
  | poll => exact (r'.step_poll).capacity_eq.trans ih
  | receive consumer =>
    rcases front : r'.stream.queue with - | ⟨x, rest⟩
    · rw [step_receive_of_nil front]
      exact ih
    · rw [step_receive_of_cons front]
      exact ih
  | offer | failPolls | stop => exact ih

/-! ### After closing -/

/-- A closed run after some more of its queue was received. -/
structure Drained (r r' : EventRun α) : Prop where
  closed : r'.isClosed
  longer : r.received <+: r'.received
  rest : r'.received ++ r'.stream.queue = r.received ++ r.stream.queue

/-- In a closed run only receipts do anything to the stream. -/
theorem Drained.step {r' : EventRun α} (h : Drained r r') (a : Action) : Drained r (r'.step a) := by
  obtain ⟨⟨stopped, ended⟩, longer, rest⟩ := h
  cases a with
  | offer b => exact ⟨⟨stopped, ended⟩, longer, rest⟩
  | poll =>
    -- the thread has ended, so the poll does nothing
    have still : (r'.step .poll).stream = r'.stream := EventStream.advance_of_finished ended
    refine ⟨?_, longer, ?_⟩
    · rw [isClosed, still]
      exact ⟨stopped, ended⟩
    · rw [still]
      exact rest
  | failPolls n => exact ⟨⟨stopped, ended⟩, longer, rest⟩
  | receive consumer =>
    rcases front : r'.stream.queue with - | ⟨x, tail⟩
    · rw [step_receive_of_nil front]
      exact ⟨⟨stopped, ended⟩, longer, rest⟩
    · rw [step_receive_of_cons front]
      refine ⟨⟨stopped, ended⟩, longer.trans ?_, ?_⟩
      · simp [EventRun.received]
      · rw [← rest, front]
        simp [EventRun.received]
  | stop => exact ⟨⟨rfl, ended⟩, longer, rest⟩

/-- Once the thread has ended, receivers drain the queue and nobody adds to it. -/
theorem drained_run (h : r.isClosed) (later : List Action) : Drained r (r.run later) :=
  List.foldlRecOn later EventRun.step ⟨h, List.prefix_rfl, rfl⟩ fun _ ih a _ => ih.step a

/-- Consumers that receive one after the other get the queue in its order. -/
theorem taken_run_receive (r : EventRun α) (consumers : List Nat) :
    (r.run (consumers.map .receive)).taken = r.taken ++ consumers.zip r.stream.queue := by
  -- each receipt shortens the queue by its front, so the run varies
  induction consumers generalizing r with
  | nil => simp [run]
  | cons c cs ih =>
    show ((r.step (.receive c)).run (cs.map .receive)).taken = _
    rw [ih]
    rcases front : r.stream.queue with - | ⟨x, rest⟩
    · rw [step_receive_of_nil front, front]
      simp
    · rw [step_receive_of_cons front]
      simp

/-! ### Integrity -/

/-- **Stream integrity.**  Before the stop flag is set, what was received, what is queued, what
the poll thread holds and what waits in the ring are exactly the items of the accepted
records in the order of production.  After it, received and queued items are a subsequence
of them.  Once the thread has ended, the queue is received in its order and nothing is added
to it, whatever happens later. -/
theorem stream_integrity {k k' : Kernel} {name map : String} {t : Tuning} {s : EventStream α}
    (started : EventStream.start α k name map t = .ok (k', s)) (actions : List Action) :
    let r := (starting k' s).run actions
    (r.stream.stop = false →
      r.received ++ r.stream.queue ++ r.stream.phase.held ++ items α r.pending =
        items α r.offered) ∧
    (r.received ++ r.stream.queue).Sublist (items α r.offered) ∧
    (r.isClosed →
      (∀ later : List Action, r.received <+: (r.run later).received ∧
        (r.run later).received ++ (r.run later).stream.queue = r.received ++ r.stream.queue) ∧
      ∀ consumers : List Nat,
        (r.run (consumers.map .receive)).taken = r.taken ++ consumers.zip r.stream.queue) := by
  intro r
  have sound : Sound r := (sound_starting started).run actions
  refine ⟨fun running => ?_, ?_, fun closed => ⟨fun later => ?_, r.taken_run_receive⟩⟩
  · have whole := sound.flow.whole running
    simpa only [EventStream.pipeline, List.append_assoc] using whole
  · refine List.Sublist.trans ?_ sound.flow.kept
    simp only [EventStream.pipeline, List.append_assoc]
    exact (List.sublist_append_left _ _).append_left _
  · have drained := drained_run closed later
    exact ⟨drained.longer, drained.rest⟩

/-- A new stream with room for one item. -/
def oneRoom : EventRun Task :=
  starting (Blueprint.standard.build.record (.opened Contract.queued))
    { name := Contract.queued, map := Contract.queued, capacity := 1 }

theorem start_oneRoom :
    EventStream.start Task Blueprint.standard.build Contract.queued Contract.queued ⟨1, 1⟩ =
      .ok (oneRoom.kernel, oneRoom.stream) := rfl

/-- The first of three tasks is received, the second queued, and the third discarded when the
thread is asked to stop; a malformed record comes in between. -/
def stoppedWhenFull : List Action :=
  [Action.offer (Task.encode ⟨1, 0, 0⟩), .offer (Task.encode ⟨2, 0, 0⟩), .offer [7],
    .offer (Task.encode ⟨3, 0, 0⟩)] ++ List.replicate 5 Action.poll ++ [Action.receive 0] ++
    List.replicate 6 Action.poll ++ [Action.stop] ++ List.replicate 5 Action.poll

/-- The stream is stopped with its queue full; of the records that follow none is delivered, and
what was queued is received in order. -/
theorem stream_integrity_stoppedWhenFull :
    (oneRoom.run stoppedWhenFull).isClosed ∧
      ((oneRoom.run stoppedWhenFull).run [.receive 5]).taken =
        [(0, ⟨1, 0, 0⟩), (5, ⟨2, 0, 0⟩)] := by
  have closed : (oneRoom.run stoppedWhenFull).isClosed := by
    constructor <;> decide +kernel
  obtain ⟨-, -, afterwards⟩ := stream_integrity start_oneRoom stoppedWhenFull
  obtain ⟨-, readable⟩ := afterwards closed
  refine ⟨closed, (readable [5]).trans ?_⟩
  decide +kernel

/-! ### Accounting -/

/-- The counters of a run account for every record; `t` is the tuning of its stream. -/
structure Balanced (t : Tuning) (r : EventRun α) : Prop where
  /-- The records that wait are those accepted and not read. -/
  pending : r.pending = r.offered.drop r.stream.counters.received
  accepted : r.offered.length = r.stream.counters.received + r.pending.length
  received : r.stream.counters.received =
    r.stream.counters.delivered + r.stream.counters.malformed + r.stream.counters.discarded +
      r.stream.phase.held.length
  held : r.stream.phase.held.length ≤ 1
  delivered : r.stream.counters.delivered = r.taken.length + r.stream.queue.length
  /-- Of the records read, those that hold no item. -/
  malformed : r.stream.counters.malformed =
    ((r.offered.take r.stream.counters.received).filter (isMalformed α)).length
  room : r.stream.queue.length ≤ max 1 t.capacity.toNat
  /-- However long an item waits, it counts as one stall at most. -/
  stalls : r.stream.counters.stalls ≤
    r.stream.counters.delivered + r.stream.counters.discarded + r.stream.phase.held.length
  calm : r.stream.stop = false → r.stream.counters.discarded = 0
  closed : r.isClosed → r.stream.phase.held = []

/-- The laws of the counters are read off the books. -/
theorem Sound.balanced {t : Tuning} (h : Sound r) (room : r.stream.capacity = t.room) :
    Balanced t r := by
  obtain ⟨read, split, count, malformed⟩ := h.books.ring
  refine
    { pending := ?_
      accepted := ?_
      received := h.books.received
      held := ?_
      delivered := ?_
      malformed := ?_
      room := ?_
      stalls := Nat.le_trans (Nat.le_add_right _ _) h.books.stalls
      calm := h.books.calm
      closed := fun ⟨_, ended⟩ => by rw [ended]; rfl }
  · rw [split, count, List.drop_left]
  · rw [split, count, List.length_append]
  · cases r.stream.phase <;> simp [PollPhase.held]
  · rw [h.books.delivered, EventRun.received, List.length_map]
  · rw [split, count, List.take_left, malformed]
  · have bound := h.books.room
    rw [room] at bound
    exact bound

theorem balanced_of_start {k k' : Kernel} {name map : String} {t : Tuning} {s : EventStream α}
    (started : EventStream.start α k name map t = .ok (k', s)) (actions : List Action) :
    Balanced t ((starting k' s).run actions) := by
  refine ((sound_starting started).run actions).balanced ?_
  rw [capacity_run, (EventStream.start_eq_ok started).2]
  rfl

/-- **The counters balance** in every state of every run: records accepted, read, delivered,
malformed, discarded and held add up, the queue keeps to its capacity, and nothing is
discarded before the stop flag is set or held after the thread has ended.  Exit events are
never malformed. -/
theorem counters_balance :
    (∀ {α : Type} [EventRecord α] {k k' : Kernel} {name map : String} {t : Tuning}
        {s : EventStream α} (_ : EventStream.start α k name map t = .ok (k', s))
        (actions : List Action), Balanced t ((starting k' s).run actions)) ∧
      ∀ {k k' : Kernel} {name map : String} {t : Tuning} {s : EventStream ExitEvent}
        (_ : EventStream.start ExitEvent k name map t = .ok (k', s)) (actions : List Action),
        ((starting k' s).run actions).stream.counters.malformed = 0 := by
  refine ⟨balanced_of_start, ?_⟩
  intro k k' name map t s started actions
  rw [(balanced_of_start started actions).malformed, List.length_eq_zero_iff,
    List.filter_eq_nil_iff]
  intro b _
  rw [isMalformed_exitEvent]
  exact Bool.false_ne_true

/-- Of four records two are delivered, one is malformed and one is discarded at the stop. -/
theorem counters_balance_stoppedWhenFull :
    (oneRoom.run stoppedWhenFull).stream.counters =
        { received := 4, delivered := 2, malformed := 1, discarded := 1, stalls := 2 } ∧
      Balanced ⟨1, 1⟩ (oneRoom.run stoppedWhenFull) :=
  ⟨by decide +kernel, counters_balance.1 start_oneRoom stoppedWhenFull⟩

end EventRun

end SchedPlane
