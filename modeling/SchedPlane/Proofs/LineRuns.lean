/-
SchedPlane/Proofs/LineRuns.lean

Runs of a dispatch stream with its senders.

A run starts with a new stream and lets everybody who has a part in it act in any order: sends
begin and go on, some do not wait, the flush thread steps, its ring answers it at will, and
somebody closes the stream.  What the kernel consumes shows in these answers only.  The run
remembers what sends that do not wait were answered, which decisions entered the queue, and
how many of them the flush thread drained at its end.

Main result, `accounting_and_fence`, for every run in which no submission panics: accepted
decisions are delivered, discarded, queued or held; none enters the queue once closing has
taken the gate; and when closing has returned nothing is left, and every send is turned away.
-/
import Mathlib.Algebra.Ring.Nat
import SchedPlane.Proofs.DispatchFlow
import SchedPlane.Stream.Line

namespace SchedPlane

open DispatchStream

/-! ### The blocking sends of a line -/

/-- The number of blocking sends behind the gate. -/
def Line.behind (l : Line) : Nat :=
  (l.senders.map Sender.behind).sum

/-- A line has as many sends behind its gate as the one at hand and the others have. -/
theorem Line.behind_split {l : Line} {before after : List Sender} {p : Sender}
    (split : l.senders = before ++ p :: after) :
    l.behind = p.behind + ((before.map Sender.behind).sum + (after.map Sender.behind).sum) := by
  simp only [behind, split, List.map_append, List.map_cons, List.sum_append, List.sum_cons]
  omega

/-- A send that begins is outside. -/
theorem Line.behind_append (l : Line) (d : Decision) :
    ({ l with senders := l.senders ++ [.atGate d] } : Line).behind = l.behind := by
  simp [behind, Sender.behind]

/-- The decision that enters the queue at the next step of a blocking send. -/
def Line.joining (l : Line) (n : Nat) : List Decision :=
  match l.senders[n]? with
  | some p => joined p (l.stream.sendStep p).2
  | none => []

/-- A step of a blocking send moves that send and leaves the others where they are. -/
theorem Line.sendStep_cases (l : Line) (n : Nat) :
    l.sendStep n = l ∧ l.joining n = [] ∨
      ∃ before p after, l.senders = before ++ p :: after ∧
        l.sendStep n =
          { stream := (l.stream.sendStep p).1
            senders := before ++ (l.stream.sendStep p).2 :: after } ∧
        l.joining n = joined p (l.stream.sendStep p).2 := by
  unfold sendStep joining
  rcases e : l.senders[n]? with - | p
  · exact Or.inl ⟨rfl, rfl⟩
  · obtain ⟨bound, rfl⟩ := List.getElem?_eq_some_iff.mp e
    obtain ⟨before, after, split, -, moved⟩ := l.senders.exists_of_set bound
    refine Or.inr ⟨before, l.senders[n], after, split, ?_, rfl⟩
    simp only
    rw [moved]

/-- A run of a dispatch stream with its senders and its history. -/
structure LineRun where
  line : Line
  /-- The answers to the sends that did not wait, oldest first. -/
  answers : List SendAnswer := []
  /-- The decisions that entered the queue, oldest first. -/
  entered : List Decision := []
  /-- The number of decisions the flush thread found in the queue at its end. -/
  drained : Nat := 0

namespace LineRun

/-! ### Steps -/

/-- What can happen to a dispatch stream. -/
inductive Action where
  /-- The flush thread takes its next step; the ring answers if it submits a decision. -/
  | flush (answer : Kernel.SubmitAnswer)
  /-- Somebody begins to send a decision and is ready to wait. -/
  | beginSend (d : Decision)
  /-- The blocking send of a number takes its next step. -/
  | send (n : Nat)
  /-- Somebody sends a decision without waiting. -/
  | trySend (d : Decision)
  /-- Closing takes its next step. -/
  | close
  deriving DecidableEq, Repr

/-- The run that begins with a new stream. -/
def fresh (name map : String) (t : Tuning) : LineRun where
  line := { stream := { name, map, capacity := t.room } }

/-- The number of sends, blocking or not, that were told their decision was accepted. -/
def accepted (r : LineRun) : Nat :=
  r.line.senders.count (.returned true) + r.answers.count .accepted

/-- The run after an action. -/
def step (r : LineRun) : Action → LineRun
  | .flush answer =>
    { r with
      line := r.line.step (.flush answer)
      drained := r.drained + r.line.stream.drains.length }
  | .beginSend d =>
    { r with line := { r.line with senders := r.line.senders ++ [.atGate d] } }
  | .send n =>
    { r with line := r.line.step (.send n), entered := r.entered ++ r.line.joining n }
  | .trySend d =>
    let (answer, stream) := r.line.stream.trySend d
    { r with
      line := { r.line with stream }
      answers := r.answers ++ [answer]
      entered := if answer = .accepted then r.entered ++ [d] else r.entered }
  | .close => { r with line := r.line.step .close }

/-- The run after a list of actions. -/
def run (r : LineRun) (actions : List Action) : LineRun :=
  actions.foldl step r

variable {r r' : LineRun}

theorem accepted_beginSend (r : LineRun) (d : Decision) :
    (r.step (.beginSend d)).accepted = r.accepted := by
  simp [accepted, step]

/-! ### What every step keeps -/

/-- Every accepted decision and every attempt to send is accounted for. -/
structure Sound (r : LineRun) : Prop where
  books : r.line.stream.Books r.entered.length r.drained
  fence : r.line.stream.Fence r.line.behind
  accepted : r.accepted = r.entered.length

theorem sound_fresh (name map : String) (t : Tuning) : Sound (fresh name map t) where
  books := ⟨rfl, rfl⟩
  fence := .fresh name map t.room
  accepted := rfl

/-- A flush that does not panic keeps the books and the fence. -/
theorem Sound.flush (h : Sound r) {answer : Kernel.SubmitAnswer} (calm : answer ≠ .panicked) :
    Sound (r.step (.flush answer)) := by
  have move := flushStep_move answer r.line.stream
  refine ⟨?_, h.fence.flush move calm, h.accepted⟩
  show (r.line.stream.flushStep answer).Books r.entered.length
    (r.drained + r.line.stream.drains.length)
  exact h.books.flush move calm

/-- A send enters the run's list when it joins the queue. -/
theorem Sound.send (h : Sound r) (n : Nat) : Sound (r.step (.send n)) := by
  obtain ⟨books, fence, accepted⟩ := h
  show Sound { r with line := r.line.sendStep n, entered := r.entered ++ r.line.joining n }
  rcases r.line.sendStep_cases n with ⟨e, none⟩ | ⟨before, p, after, split, e, joins⟩
  · rw [e, none, List.append_nil]
    exact ⟨books, fence, accepted⟩
  · have move := sendStep_move r.line.stream p
    rw [e, joins]
    refine ⟨?_, ?_, ?_⟩
    · rw [List.length_append]
      exact books.send move
    · -- the send that moves is counted apart from the others
      rw [Line.behind_split split] at fence
      rw [Line.behind_split rfl]
      exact fence.send move
    · simp only [LineRun.accepted, split, List.count_append, List.count_cons,
        List.length_append] at accepted ⊢
      have told := move.count_returned
      omega

/-- A send that does not wait enters the run's list if it is accepted. -/
theorem Sound.trySend (h : Sound r) (d : Decision) : Sound (r.step (.trySend d)) := by
  obtain ⟨books, fence, accepted⟩ := h
  have counted : ∀ a : SendAnswer, (r.answers ++ [a]).count .accepted =
      r.answers.count .accepted + if a = .accepted then 1 else 0 := by
    intro a
    rw [List.count_append, List.count_singleton]
    simp
  rcases r.line.stream.trySend_cases d with ⟨e, -, running, -⟩ | ⟨refused, same⟩
  · simp only [LineRun.step, e, if_true]
    refine ⟨?_, fence.join running d, ?_⟩
    · rw [List.length_append]
      exact books.join [d] r.line.stream.inside
    · simp only [LineRun.accepted, counted, if_true, List.length_append,
        List.length_singleton] at accepted ⊢
      omega
  · simp only [LineRun.step, same, if_neg refused]
    refine ⟨books, fence, ?_⟩
    simp only [LineRun.accepted, counted, if_neg refused] at accepted ⊢
    exact accepted

/-- **Each action keeps the run sound**, unless a submission panics. -/
theorem Sound.step (h : Sound r) {a : Action} (calm : a ≠ .flush .panicked) :
    Sound (r.step a) := by
  cases a with
  | flush answer => exact h.flush fun e => calm (by rw [e])
  | beginSend d =>
    refine ⟨h.books, ?_, ?_⟩
    · have same : (r.step (.beginSend d)).line.behind = r.line.behind := r.line.behind_append d
      rw [same]
      exact h.fence
    · rw [r.accepted_beginSend d]
      exact h.accepted
  | send n => exact h.send n
  | trySend d => exact h.trySend d
  | close => exact ⟨h.books.close, h.fence.close, h.accepted⟩

/-- As long as no submission panics, the books and the fence hold. -/
theorem Sound.run (h : Sound r) (actions : List Action)
    (calm : ∀ a ∈ actions, a ≠ .flush .panicked) : Sound (r.run actions) :=
  List.foldlRecOn actions LineRun.step h fun _ ih a mem => ih.step (calm a mem)

/-! ### Behind a closed gate -/

/-- The run `r'` has come out of `r` behind a closed gate. -/
structure Sealed (r r' : LineRun) : Prop where
  closed : r'.line.stream.gate = .closed
  /-- Every blocking send is outside or done. -/
  outside : r'.line.behind = 0
  entered : r'.entered = r.entered
  accepted : r'.accepted = r.accepted
  queue : r'.line.stream.queue <:+ r.line.stream.queue

/-- A step of a blocking send behind a closed gate concerns nothing but that send. -/
theorem Sealed.send (h : Sealed r r') (n : Nat) :
    Sealed r (r'.step (.send n)) ∧ (r'.step (.send n)).line.stream = r'.line.stream := by
  obtain ⟨closed, outside, entered, accepted, queue⟩ := h
  show Sealed r { r' with line := r'.line.sendStep n, entered := r'.entered ++ r'.line.joining n } ∧
    (r'.line.sendStep n).stream = r'.line.stream
  rcases r'.line.sendStep_cases n with ⟨e, none⟩ | ⟨before, p, after, split, e, joins⟩
  · rw [e, none, List.append_nil]
    exact ⟨⟨closed, outside, entered, accepted, queue⟩, rfl⟩
  · -- nobody is behind the gate, and so neither is the send that moves
    rw [Line.behind_split split] at outside
    simp only [LineRun.accepted, split, List.count_append, List.count_cons] at accepted
    have here : p.behind = 0 := by omega
    have told := (sendStep_move r'.line.stream p).count_returned
    obtain ⟨same, out⟩ := sendStep_frame_of_closed closed here
    rw [joined_of_outside here, List.length_nil] at told
    rw [e, joins, joined_of_outside here, List.append_nil, same]
    refine ⟨⟨closed, ?_, entered, ?_, queue⟩, rfl⟩
    · rw [Line.behind_split rfl]
      omega
    · simp only [LineRun.accepted, List.count_append, List.count_cons]
      omega

/-- **Behind a closed gate nothing enters the queue**, whatever happens. -/
theorem Sealed.step (h : Sealed r r') (a : Action) : Sealed r (r'.step a) := by
  cases a with
  | flush answer =>
    have move := flushStep_move answer r'.line.stream
    exact ⟨move.gate_eq.trans h.closed, h.outside, h.entered, h.accepted,
      move.queue_suffix.trans h.queue⟩
  | beginSend d =>
    exact ⟨h.closed, (r'.line.behind_append d).trans h.outside, h.entered,
      (r'.accepted_beginSend d).trans h.accepted, h.queue⟩
  | send n => exact (h.send n).1
  | trySend d =>
    obtain ⟨closed, outside, entered, accepted, queue⟩ := h
    simp only [LineRun.step, trySend_of_closed closed]
    refine ⟨closed, outside, entered, ?_, queue⟩
    rw [← accepted]
    simp [LineRun.accepted]
  | close =>
    have e := closeStep_of_closed h.closed
    refine ⟨?_, h.outside, h.entered, h.accepted, ?_⟩
    · show r'.line.stream.closeStep.gate = .closed
      rw [e]
      exact h.closed
    · show r'.line.stream.closeStep.queue <:+ r.line.stream.queue
      rw [e]
      exact h.queue

/-- Behind a closed gate nothing enters any more, whatever is done later. -/
theorem sealed_run (h : Sound r) (closed : r.line.stream.gate = .closed) (later : List Action) :
    Sealed r (r.run later) := by
  have outside : r.line.behind = 0 := h.fence.inside.symm.trans (h.fence.closed closed)
  exact List.foldlRecOn later LineRun.step ⟨closed, outside, rfl, rfl, List.suffix_rfl⟩
    fun _ ih a _ => ih.step a

/-! ### After closing -/

/-- The run `r'` has come out of `r` after closing had returned. -/
structure Shut (r r' : LineRun) : Prop where
  /-- No counter and no buffer has changed. -/
  stream : r'.line.stream = r.line.stream
  entered : r'.entered = r.entered
  accepted : r'.accepted = r.accepted
  /-- A send that does not wait is turned away. -/
  trySend : ∀ d, r'.line.stream.trySend d = (.closed, r'.line.stream)
  /-- A blocking send has returned, or its next step turns it away. -/
  send : ∀ p ∈ r'.line.senders,
    (∃ d, p = .atGate d ∧ r'.line.stream.sendStep p = (r'.line.stream, .returned false)) ∨
      ∃ told, p = .returned told

/-- Once the flush thread has ended behind a closed gate, no step changes the stream. -/
theorem Sealed.stream_step (h : Sealed r r') (stopped : r'.line.stream.stop = true)
    (ended : r'.line.stream.isFinished = true) (a : Action) :
    (r'.step a).line.stream = r'.line.stream := by
  cases a with
  | flush answer => exact flushStep_of_isFinished ended answer
  | beginSend d => rfl
  | send n => exact (h.send n).2
  | trySend d =>
    show (r'.line.stream.trySend d).2 = r'.line.stream
    rw [trySend_of_closed h.closed]
  | close =>
    show r'.line.stream.closeStep = r'.line.stream
    rw [closeStep_of_closed h.closed, ← stopped]

/-- Once the thread has ended as well, the stream is as it is for good. -/
theorem Sealed.stream_run (h : Sealed r r) (stopped : r.line.stream.stop = true)
    (ended : r.line.stream.isFinished = true) (later : List Action) :
    Sealed r (r.run later) ∧ (r.run later).line.stream = r.line.stream := by
  refine List.foldlRecOn
    (motive := fun r' => Sealed r r' ∧ r'.line.stream = r.line.stream)
    later LineRun.step ⟨h, rfl⟩ fun r' ih a _ => ?_
  obtain ⟨sealed, same⟩ := ih
  refine ⟨sealed.step a, ?_⟩
  rw [sealed.stream_step (by rw [same]; exact stopped) (by rw [same]; exact ended) a]
  exact same

/-- When closing has returned, everybody is turned away for good. -/
theorem shut_run (h : Sound r) (returned : r.line.stream.isClosed = true) (later : List Action) :
    Shut r (r.run later) := by
  simp only [isClosed, Bool.and_eq_true, decide_eq_true_eq] at returned
  obtain ⟨⟨closed, stopped⟩, ended⟩ := returned
  obtain ⟨sealed, same⟩ := (sealed_run h closed []).stream_run stopped ended later
  refine ⟨same, sealed.entered, sealed.accepted, trySend_of_closed sealed.closed, ?_⟩
  -- a send that has not returned is outside, whenever it began
  intro p mem
  obtain ⟨before, after, split⟩ := List.append_of_mem mem
  have outside := sealed.outside
  rw [Line.behind_split split] at outside
  rcases sendStep_of_closed sealed.closed (by omega : p.behind = 0) with turned | ⟨told, e, -⟩
  · exact Or.inl turned
  · exact Or.inr ⟨told, e⟩

/-! ### Accounting -/

/-- Accepted decisions are delivered, discarded, queued or held. -/
structure Balanced (r : LineRun) : Prop where
  accepted : r.accepted =
    r.line.stream.counters.delivered + r.line.stream.counters.discarded +
      r.line.stream.queue.length + r.line.stream.phase.held.length
  held : r.line.stream.phase.held.length ≤ 1
  received : r.accepted =
    r.line.stream.counters.received + r.line.stream.queue.length + r.drained
  /-- A decision is accepted when it enters the queue and at no other time. -/
  entered : r.accepted = r.entered.length

/-- The laws of the counters are read off the books. -/
theorem Sound.balanced (h : Sound r) : Balanced r := by
  obtain ⟨⟨entered, settled⟩, -, accepted⟩ := h
  refine ⟨by omega, ?_, by omega, accepted⟩
  cases r.line.stream.phase <;> simp [FlushPhase.held]

/-- Nothing is left of a closed stream but its counters. -/
structure Emptied (r : LineRun) : Prop where
  ended : r.line.stream.phase = .finished
  queue : r.line.stream.queue = []
  held : r.line.stream.phase.held = []
  accepted : r.accepted = r.line.stream.counters.delivered + r.line.stream.counters.discarded

/-- When closing has returned, the thread has ended behind a closed gate with nothing left. -/
theorem Sound.emptied (h : Sound r) (returned : r.line.stream.isClosed = true) : Emptied r := by
  simp only [isClosed, Bool.and_eq_true] at returned
  obtain ⟨finished, empty⟩ := h.fence.queue_of_isFinished returned.2
  have none : r.line.stream.phase.held = [] := by
    rw [finished]
    rfl
  have accepted := h.balanced.accepted
  rw [empty, none] at accepted
  exact ⟨finished, empty, none, accepted⟩

/-- **Accounting and fence.**  In every run without a panic the counters account for every
accepted decision.  Once closing has taken the gate, no decision enters the queue.  When it
has returned, the flush thread is gone and every accepted decision was delivered or discarded;
from then on sends are turned away and nothing changes, whatever happens. -/
theorem accounting_and_fence (name map : String) (t : Tuning) (actions : List Action)
    (calm : ∀ a ∈ actions, a ≠ .flush .panicked) :
    let r := (fresh name map t).run actions
    Balanced r ∧
      (r.line.stream.gate = .closed → ∀ later, Sealed r (r.run later)) ∧
      (r.line.stream.isClosed = true → Emptied r ∧ ∀ later, Shut r (r.run later)) := by
  intro r
  have sound : Sound r := (sound_fresh name map t).run actions calm
  refine ⟨sound.balanced, fun closed later => ?_, fun returned => ⟨?_, fun later => ?_⟩⟩
  · exact sealed_run sound closed later
  · exact sound.emptied returned
  · exact shut_run sound returned later

/-- One decision is delivered, one is held when closing begins, one is drained, and a send that
waits for room is turned away. -/
def closedWhenFull : List Action :=
  [.trySend ⟨[1]⟩, .flush .full, .flush .full, .flush .published, .trySend ⟨[2]⟩,
    .flush .full, .flush .full, .flush .full, .trySend ⟨[3]⟩, .trySend ⟨[4]⟩, .beginSend ⟨[5]⟩,
    .send 0, .close, .send 0, .close, .close, .flush .full, .flush .full, .flush .full,
    .send 0]

/-- With the queue full and a send waiting, closing turns the send away and discards what is
queued. -/
theorem accounting_and_fence_closedWhenFull :
    Emptied ((fresh "d" "d" ⟨1, 1⟩).run closedWhenFull) ∧
      ((fresh "d" "d" ⟨1, 1⟩).run closedWhenFull).accepted = 3 ∧
      ((fresh "d" "d" ⟨1, 1⟩).run closedWhenFull).line.senders = [.returned false] := by
  obtain ⟨-, -, afterwards⟩ := accounting_and_fence "d" "d" ⟨1, 1⟩ closedWhenFull (by decide)
  exact ⟨(afterwards (by decide +kernel)).1, by decide +kernel, by decide +kernel⟩

end LineRun

end SchedPlane
