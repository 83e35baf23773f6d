/-
SchedPlane/Proofs/DispatchFlow.lean

How decisions flow through a dispatch stream.

A decision that was accepted is queued, the flush thread holds it, or it is settled: it went
to the ring or it was discarded.  `FlushMove` lists all that a step of the flush thread can do
to these places, `SendMove` all that a blocking send can do and `CloseMove` all that closing can
do.  Three invariants follow, each by one case for a move:

* `Books`: the counters agree with the places of the accepted decisions;
* `Fence`: behind a closed gate there is no send, and the flush thread drains the queue only
  when the gate is closed;
* `Flow`: what went to the ring is a beginning of what was accepted, in its order.
-/
import SchedPlane.Proofs.KernelRings
import SchedPlane.Stream.Dispatch

namespace SchedPlane

/-- The decision that was taken from the queue and is not settled yet. -/
def FlushPhase.held : FlushPhase → List Decision
  | .publishing d | .stalled d => [d]
  | _ => []

/-- Whether a thread that is here at a stop flag submits nothing any more. -/
def FlushPhase.leaves : FlushPhase → Bool
  | .idle | .draining | .finished => true
  | _ => false

/-- Whether a blocking send is behind the gate, as a number. -/
def DispatchStream.Sender.behind : DispatchStream.Sender → Nat
  | .inside _ => 1
  | _ => 0

namespace DispatchStream

variable {s s' : DispatchStream} {p p' : Sender} {answer : Kernel.SubmitAnswer}

/-- The decisions that are accepted and not settled, oldest first. -/
def pipeline (s : DispatchStream) : List Decision :=
  s.phase.held ++ s.queue

/-- The decisions that the next step of the flush thread puts on the ring. -/
def publishes (s : DispatchStream) (answer : Kernel.SubmitAnswer) : List Decision :=
  match s.phase, answer with
  | .publishing d, .published => [d]
  | _, _ => []

/-- The decisions that the next step of the flush thread drains from the queue. -/
def drains (s : DispatchStream) : List Decision :=
  match s.phase with
  | .draining => s.queue
  | _ => []

/-- What starting a stream gives. -/
theorem start_eq_ok {k k' : Kernel} {name map : String} {t : Tuning}
    (h : start k name map t = .ok (k', s)) :
    Kernel.KeepsRings k k' ∧ s = { name, map, capacity := t.room } := by
  unfold start at h
  split at h
  · next opened =>
    cases h
    exact ⟨Kernel.keepsRings_openRing opened, rfl⟩
  · cases h
  · cases h

/-- A flush thread ends by itself or dies. -/
theorem phase_of_isFinished (h : s.isFinished = true) :
    s.phase = .finished ∨ s.phase = .dead := by
  unfold isFinished at h
  split at h
  · next here => exact .inl here
  · next here => exact .inr here
  · cases h

/-! ### Moves of the flush thread -/

/-- What a step of the flush thread can do. -/
inductive FlushMove (answer : Kernel.SubmitAnswer) (s : DispatchStream) : DispatchStream → Prop
  /-- There is no stop flag, so the thread waits for a decision. -/
  | look (here : s.phase = .idle) (running : s.stop = false) :
      FlushMove answer s { s with phase := .waiting }
  | leave (here : s.phase = .idle) (stopped : s.stop = true) :
      FlushMove answer s { s with phase := .draining }
  | miss (here : s.phase = .waiting) (empty : s.queue = []) :
      FlushMove answer s { s with phase := .idle }
  /-- The oldest decision is taken from the queue. -/
  | take {d : Decision} {rest : List Decision} (here : s.phase = .waiting)
      (front : s.queue = d :: rest) :
      FlushMove answer s
        { s with
          queue := rest
          phase := .publishing d
          counters := { s.counters with received := s.counters.received + 1 } }
  | submit {d : Decision} (here : s.phase = .publishing d) :
      FlushMove answer s (s.answered d answer)
  | retry {d : Decision} (here : s.phase = .stalled d) (running : s.stop = false) :
      FlushMove answer s { s with phase := .publishing d }
  /-- The held decision is given up at a stop flag. -/
  | giveUp {d : Decision} (here : s.phase = .stalled d) (stopped : s.stop = true) :
      FlushMove answer s
        { s with
          phase := .idle
          counters := { s.counters with discarded := s.counters.discarded + 1 } }
  | drain (here : s.phase = .draining) :
      FlushMove answer s
        { s with
          queue := []
          phase := .finished
          counters := { s.counters with discarded := s.counters.discarded + s.queue.length } }
  | rest (ended : s.isFinished = true) : FlushMove answer s s

/-- Every step of the flush thread is a move. -/
theorem flushStep_move (answer : Kernel.SubmitAnswer) (s : DispatchStream) :
    FlushMove answer s (s.flushStep answer) := by
  rcases here : s.phase with - | - | d | d | - | - | -
  · -- idle
    simp only [flushStep, here]
    by_cases stop : s.stop = true
    · rw [if_pos stop]
      exact .leave here stop
    · rw [if_neg stop]
      exact .look here (by simpa using stop)
  · -- waiting
    simp only [flushStep, here]
    split
    · next empty => exact .miss here empty
    · next front => exact .take here front
  · -- publishing
    simp only [flushStep, here]
    exact .submit here
  · -- stalled
    simp only [flushStep, here]
    split
    · next stopped => exact .giveUp here stopped
    · next running => exact .retry here (by simpa using running)
  · -- draining
    simp only [flushStep, here]
    exact .drain here
  · -- finished
    simp only [flushStep, here]
    exact .rest (by simp [isFinished, here])
  · -- dead
    simp only [flushStep, here]
    exact .rest (by simp [isFinished, here])

namespace FlushMove

/-- The flush thread changes the queue, its own place and the counters. -/
theorem frame (h : FlushMove answer s s') :
    s' = { s with queue := s'.queue, phase := s'.phase, counters := s'.counters } := by
  cases h with
  | submit => cases answer <;> rfl
  | look | leave | miss | take | retry | giveUp | drain | rest => rfl

theorem map_eq (h : FlushMove answer s s') : s'.map = s.map := by
  rw [h.frame]

theorem gate_eq (h : FlushMove answer s s') : s'.gate = s.gate := by
  rw [h.frame]

theorem stop_eq (h : FlushMove answer s s') : s'.stop = s.stop := by
  rw [h.frame]

/-- When no submission fails, the decisions on their way stay so, in order, but for the one that
goes to the ring; or the thread leaves at a stop flag. -/
theorem pipeline_cases (h : FlushMove answer s s') (calm : answer = .published ∨ answer = .full)
    (draining : s.phase = .draining → s.stop = true) :
    (s.stop && s.phase.leaves) = false ∧ s.publishes answer ++ s'.pipeline = s.pipeline ∨
      s.stop = true ∧ s'.phase.leaves = true ∧ s.publishes answer = [] := by
  cases h with
  | look here running => exact .inl ⟨by simp [running], by simp [publishes, pipeline, here]; rfl⟩
  | leave here stopped => exact .inr ⟨stopped, rfl, by simp [publishes, here]⟩
  | miss here =>
    exact .inl ⟨by simp [here, FlushPhase.leaves], by simp [publishes, pipeline, here]; rfl⟩
  | take here front =>
    refine .inl ⟨by simp [here, FlushPhase.leaves], ?_⟩
    simp [publishes, pipeline, here, front, FlushPhase.held]
  | submit here =>
    -- the held decision goes to the ring, or it stays where it is
    refine .inl ⟨by simp [here, FlushPhase.leaves], ?_⟩
    rcases calm with rfl | rfl <;>
      simp [publishes, pipeline, here, answered, FlushPhase.held]
  | retry here =>
    exact .inl ⟨by simp [here, FlushPhase.leaves], by simp [publishes, pipeline, here]; rfl⟩
  | giveUp here stopped => exact .inr ⟨stopped, rfl, by simp [publishes, here]⟩
  | drain here => exact .inr ⟨draining here, rfl, by simp [publishes, here]⟩
  | rest ended =>
    have none : s.publishes answer = [] := by
      rcases phase_of_isFinished ended with here | here <;> simp [publishes, here]
    rcases stays : s.stop && s.phase.leaves with - | -
    · exact .inl ⟨rfl, by rw [none]; rfl⟩
    · rw [Bool.and_eq_true] at stays
      exact .inr ⟨stays.1, stays.2, none⟩

/-- The thread gets to draining only at a stop flag. -/
theorem stop_of_draining (h : FlushMove answer s s')
    (draining : s.phase = .draining → s.stop = true) (here : s'.phase = .draining) :
    s.stop = true := by
  cases h with
  | leave _ stopped => exact stopped
  | submit => cases answer <;> cases here
  | rest => exact draining here
  | look | miss | take | retry | giveUp | drain => cases here

/-- The thread leaves its loop only at a stop flag. -/
theorem stop_of_leaving (h : FlushMove answer s s')
    (leaving : s.phase = .draining ∨ s.phase = .finished → s.stop = true)
    (here : s'.phase = .draining ∨ s'.phase = .finished) : s.stop = true := by
  cases h with
  | leave _ stopped => exact stopped
  | drain draining => exact leaving (.inl draining)
  | rest => exact leaving here
  | submit => cases answer <;> simp [answered] at here
  | look | miss | take | retry | giveUp => simp at here

/-- A thread that has ended stays ended. -/
theorem isFinished (h : FlushMove answer s s') (ended : s.isFinished = true) :
    s'.isFinished = true := by
  rcases phase_of_isFinished ended with here | here <;> cases h <;> simp_all

/-- The flush thread takes from the front of the queue, or all of it. -/
theorem queue_suffix (h : FlushMove answer s s') : s'.queue <:+ s.queue := by
  cases h with
  | take here front =>
    rw [front]
    exact List.suffix_cons _ _
  | drain => exact List.nil_suffix
  | submit => cases answer <;> exact List.suffix_rfl
  | look | leave | miss | retry | giveUp | rest => exact List.suffix_rfl

end FlushMove

/-- A thread that has ended takes no step. -/
theorem flushStep_of_isFinished (h : s.isFinished = true) (answer : Kernel.SubmitAnswer) :
    s.flushStep answer = s := by
  rcases phase_of_isFinished h with here | here <;> simp [flushStep, here]

/-! ### Moves of a blocking send -/

/-- What a step of a blocking send can do. -/
inductive SendMove (s : DispatchStream) : Sender → DispatchStream → Sender → Prop
  | enter {d : Decision} (unlocked : s.gate = .unlocked) :
      SendMove s (.atGate d) { s with inside := s.inside + 1 } (.inside d)
  | kept {d : Decision} (requested : s.gate = .requested) :
      SendMove s (.atGate d) s (.atGate d)
  | turnedAway {d : Decision} (closed : s.gate = .closed) :
      SendMove s (.atGate d) s (.returned false)
  /-- The wait for room was in vain, and the send goes back to the gate. -/
  | timeOut {d : Decision} (running : s.isFinished = false) :
      SendMove s (.inside d) { s with inside := s.inside - 1 } (.atGate d)
  /-- Nobody will ever take the decision. -/
  | lost {d : Decision} (ended : s.isFinished = true) :
      SendMove s (.inside d) { s with inside := s.inside - 1 } (.returned false)
  | join {d : Decision} (running : s.isFinished = false) (room : s.queue.length < s.capacity) :
      SendMove s (.inside d) { s with inside := s.inside - 1, queue := s.queue ++ [d] }
        (.returned true)
  | done {accepted : Bool} : SendMove s (.returned accepted) s (.returned accepted)

/-- Every step of a blocking send is a move. -/
theorem sendStep_move (s : DispatchStream) (p : Sender) :
    SendMove s p (s.sendStep p).1 (s.sendStep p).2 := by
  rcases p with d | d | accepted
  · simp only [sendStep]
    split
    · next gate => exact .enter gate
    · next gate => exact .kept gate
    · next gate => exact .turnedAway gate
  · simp only [sendStep]
    rcases ended : s.isFinished with - | -
    · split
      · next h => cases h
      · split
        · exact .timeOut ended
        · next full => exact .join ended (by simpa [isFull] using full)
    · exact .lost ended
  · exact .done

/-- The decision that enters the queue when a blocking send gets from one place to another. -/
def joined : Sender → Sender → List Decision
  | .inside d, .returned true => [d]
  | _, _ => []

theorem joined_of_outside (outside : p.behind = 0) : joined p p' = [] := by
  cases p with
  | inside => cases outside
  | atGate | returned => rfl

/-- A blocking send counts itself behind the gate and adds its decision to the queue. -/
theorem SendMove.frame (h : SendMove s p s' p') :
    s' = { s with inside := s'.inside, queue := s.queue ++ joined p p' } := by
  cases h <;> simp [joined]

theorem SendMove.map_eq (h : SendMove s p s' p') : s'.map = s.map := by
  rw [h.frame]

theorem SendMove.gate_eq (h : SendMove s p s' p') : s'.gate = s.gate := by
  rw [h.frame]

/-- The gate counts a send in when it enters and out when it leaves. -/
theorem SendMove.inside_eq {others : Nat} (h : SendMove s p s' p')
    (count : s.inside = p.behind + others) : s'.inside = p'.behind + others := by
  cases h <;> simp only [Sender.behind] at count ⊢ <;> omega

/-- A send is told that its decision was accepted just when the decision enters the queue. -/
theorem SendMove.count_returned (h : SendMove s p s' p') :
    (if p' == .returned true then 1 else 0) =
      (if p == .returned true then 1 else 0) + (joined p p').length := by
  cases h <;> simp [joined]

/-- Behind a closed gate a send that is outside is turned away, and nothing else happens. -/
theorem sendStep_of_closed (closed : s.gate = .closed) (outside : p.behind = 0) :
    (∃ d, p = .atGate d ∧ s.sendStep p = (s, .returned false)) ∨
      ∃ accepted, p = .returned accepted ∧ s.sendStep p = (s, p) := by
  rcases p with d | d | accepted
  · exact .inl ⟨d, rfl, by simp [sendStep, closed]⟩
  · cases outside
  · exact .inr ⟨accepted, rfl, rfl⟩

/-- Behind a closed gate a send that is outside is turned away, at no cost to the stream. -/
theorem sendStep_frame_of_closed (closed : s.gate = .closed) (outside : p.behind = 0) :
    (s.sendStep p).1 = s ∧ (s.sendStep p).2.behind = 0 := by
  rcases sendStep_of_closed closed outside with ⟨d, -, turned⟩ | ⟨accepted, rfl, done⟩
  · rw [turned]
    exact ⟨rfl, rfl⟩
  · rw [done]
    exact ⟨rfl, rfl⟩

/-- A decision that is refused goes back to its sender as it was. -/
theorem eq_of_trySend_refused {d d' : Decision} (h : (s.trySend d).1 = .refused d') : d' = d := by
  unfold trySend at h
  split at h
  · cases h
  · split at h <;> cases h
    rfl

/-- Behind a closed gate a send that does not wait is turned away. -/
theorem trySend_of_closed (closed : s.gate = .closed) (d : Decision) :
    s.trySend d = (.closed, s) := by
  simp [trySend, closed]

/-- What a step of closing can do. -/
inductive CloseMove (s : DispatchStream) : DispatchStream → Prop
  | request (unlocked : s.gate = .unlocked) : CloseMove s { s with gate := .requested }
  /-- A send is behind the gate and is waited for. -/
  | wait (requested : s.gate = .requested) (some : s.inside ≠ 0) : CloseMove s s
  | shut (requested : s.gate = .requested) (none : s.inside = 0) :
      CloseMove s { s with gate := .closed }
  | stop (closed : s.gate = .closed) : CloseMove s { s with stop := true }

/-- Every step of closing is a move. -/
theorem closeStep_move (s : DispatchStream) : CloseMove s s.closeStep := by
  unfold closeStep
  split
  · next gate => exact .request gate
  · next gate =>
    split
    · next none => exact .shut gate none
    · next some => exact .wait gate some
  · next gate => exact .stop gate

/-- Closing changes the gate and sets the stop flag. -/
theorem CloseMove.frame (move : CloseMove s s') :
    s' = { s with gate := s'.gate, stop := s'.stop } := by
  cases move <;> rfl

/-- The stop flag is set behind a closed gate only, and stays set. -/
theorem CloseMove.stop_cases (move : CloseMove s s') :
    s'.stop = s.stop ∨ s.gate = .closed ∧ s'.stop = true := by
  cases move with
  | request | wait | shut => exact .inl rfl
  | stop closed => exact .inr ⟨closed, rfl⟩

/-- What is left to do behind a closed gate is to set the stop flag. -/
theorem closeStep_of_closed (closed : s.gate = .closed) :
    s.closeStep = { s with stop := true } := by
  simp [closeStep, closed]

theorem closeStep_frame (s : DispatchStream) :
    s.closeStep = { s with gate := s.closeStep.gate, stop := s.closeStep.stop } :=
  s.closeStep_move.frame

theorem map_closeStep (s : DispatchStream) : s.closeStep.map = s.map := by
  rw [closeStep_frame]

theorem phase_closeStep (s : DispatchStream) : s.closeStep.phase = s.phase := by
  rw [closeStep_frame]

theorem stop_closeStep (h : s.stop = true) : s.closeStep.stop = true := by
  rcases s.closeStep_move.stop_cases with same | ⟨-, set⟩
  · exact same.trans h
  · exact set

/-- A decision sent without waiting enters the queue, or the stream stays as it is. -/
theorem trySend_cases (s : DispatchStream) (d : Decision) :
    s.trySend d = (.accepted, { s with queue := s.queue ++ [d] }) ∧ s.gate = .unlocked ∧
        s.isFinished = false ∧ s.queue.length < s.capacity ∨
      (s.trySend d).1 ≠ .accepted ∧ (s.trySend d).2 = s := by
  unfold trySend
  by_cases shut : s.gate ≠ .unlocked ∨ s.isFinished = true
  · rw [if_pos shut]
    exact .inr ⟨by simp, rfl⟩
  · rw [if_neg shut]
    split
    · exact .inr ⟨by simp, rfl⟩
    · next full =>
      simp only [not_or, Decidable.not_not, Bool.not_eq_true] at shut
      exact .inl ⟨rfl, shut.1, shut.2, by simpa [isFull] using full⟩

/-- A decision sent without waiting concerns the queue only. -/
theorem trySend_frame (s : DispatchStream) (d : Decision) :
    (s.trySend d).2 = { s with queue := (s.trySend d).2.queue } := by
  rcases s.trySend_cases d with ⟨taken, -⟩ | ⟨-, same⟩
  · rw [taken]
  · rw [same]

/-! ### The counters -/

/-- The counters agree with the places of the decisions: `accepted` is the number of those that
entered the queue and `drained` the number of those the thread found there at its end. -/
structure Books (accepted drained : Nat) (s : DispatchStream) : Prop where
  entered : accepted = s.counters.received + drained + s.queue.length
  settled : s.counters.received + drained =
    s.counters.delivered + s.counters.discarded + s.phase.held.length

namespace Books

variable {accepted drained : Nat}

/-- A flush moves a decision from one place to the next and counts it on the way. -/
theorem flush (h : Books accepted drained s) (move : FlushMove answer s s')
    (calm : answer ≠ .panicked) : Books accepted (drained + s.drains.length) s' := by
  obtain ⟨entered, settled⟩ := h
  cases move with
  | look here | leave here | miss here =>
    simp only [here, FlushPhase.held, drains] at settled ⊢
    exact ⟨entered, settled⟩
  | take here front =>
    -- one decision less is queued and one more is received, and held
    simp only [here, FlushPhase.held, drains, front, List.length_cons, List.length_nil]
      at entered settled ⊢
    constructor <;> simp only [FlushPhase.held, List.length_singleton] <;> omega
  | submit here =>
    simp only [here, FlushPhase.held, drains, List.length_singleton] at settled ⊢
    cases answer with
    | published | failed =>
      constructor <;> simp only [answered, FlushPhase.held, List.length_nil] <;> omega
    | full => exact ⟨entered, settled⟩
    | panicked => exact absurd rfl calm
  | retry here =>
    simp only [here, FlushPhase.held, drains] at settled ⊢
    exact ⟨entered, settled⟩
  | giveUp here =>
    simp only [here, FlushPhase.held, drains, List.length_singleton] at settled ⊢
    constructor <;> simp only [FlushPhase.held, List.length_nil] <;> omega
  | drain here =>
    -- what is discarded here was never received: it is what `drained` counts
    simp only [here, FlushPhase.held, drains, List.length_nil] at settled ⊢
    constructor <;> simp only [FlushPhase.held, List.length_nil] <;> omega
  | rest ended =>
    have none : s.drains = [] := by
      rcases phase_of_isFinished ended with here | here <;> simp [drains, here]
    rw [none]
    exact ⟨entered, settled⟩

/-- Decisions enter the queue. -/
theorem join (h : Books accepted drained s) (ds : List Decision) (inside : Nat) :
    Books (accepted + ds.length) drained { s with inside, queue := s.queue ++ ds } := by
  refine ⟨?_, h.settled⟩
  have entered := h.entered
  simp only [List.length_append]
  omega

/-- A send enters the books when it joins the queue. -/
theorem send (h : Books accepted drained s) (move : SendMove s p s' p') :
    Books (accepted + (joined p p').length) drained s' := by
  rw [move.frame]
  exact h.join (joined p p') s'.inside

theorem close (h : Books accepted drained s) : Books accepted drained s.closeStep := by
  rw [closeStep_frame]
  exact ⟨h.entered, h.settled⟩

end Books

/-! ### The fence -/

/-- No send is behind a closed gate, and only behind a closed gate the flush thread stops;
`behind` is the number of blocking sends behind the gate. -/
structure Fence (behind : Nat) (s : DispatchStream) : Prop where
  inside : s.inside = behind
  closed : s.gate = .closed → s.inside = 0
  stopped : s.stop = true → s.gate = .closed
  leaving : s.phase = .draining ∨ s.phase = .finished → s.stop = true
  emptied : s.phase = .finished → s.queue = []
  alive : s.phase ≠ .dead

namespace Fence

variable {behind others : Nat}

theorem fresh (name map : String) (capacity : Nat) : Fence 0 { name, map, capacity } where
  inside := rfl
  closed := fun _ => rfl
  stopped := fun e => by cases e
  leaving := fun e => by rcases e with e | e <;> cases e
  emptied := fun _ => rfl
  alive := fun e => by cases e

/-- The flush thread is stopped behind the gate only, and leaves an empty queue. -/
theorem flush (h : Fence behind s) (move : FlushMove answer s s') (calm : answer ≠ .panicked) :
    Fence behind s' := by
  obtain ⟨inside, closed, stopped, leaving, emptied, alive⟩ := h
  cases move with
  | leave here stop => exact ⟨inside, closed, stopped, fun _ => stop, by simp, by simp⟩
  | submit here =>
    -- only a panic could end the thread here
    cases answer with
    | published | full | failed =>
      exact ⟨inside, closed, stopped, by simp [answered], by simp [answered], by simp [answered]⟩
    | panicked => exact absurd rfl calm
  | drain here => exact ⟨inside, closed, stopped, fun _ => leaving (.inl here), by simp, by simp⟩
  | rest => exact ⟨inside, closed, stopped, leaving, emptied, alive⟩
  | look | miss | take | retry | giveUp =>
    exact ⟨inside, closed, stopped, by simp, by simp, by simp⟩

/-- Behind a closed gate no blocking send does anything to the stream. -/
theorem send (h : Fence (p.behind + others) s) (move : SendMove s p s' p') :
    Fence (p'.behind + others) s' := by
  have inside' : s'.inside = p'.behind + others := move.inside_eq h.inside
  obtain ⟨inside, closed, stopped, leaving, emptied, alive⟩ := h
  cases move with
  | enter unlocked =>
    -- nobody enters through a closed gate
    exact ⟨inside', fun e => by simp [unlocked] at e, stopped, leaving, emptied, alive⟩
  | join running =>
    -- a queue grows only while the thread runs, so an emptied one stays empty
    refine ⟨inside', fun e => by simp [closed e], stopped, leaving, fun e => ?_, alive⟩
    simp only at e
    simp [isFinished, e] at running
  | timeOut | lost =>
    exact ⟨inside', fun e => by simp [closed e], stopped, leaving, emptied, alive⟩
  | kept | turnedAway | done => exact ⟨inside', closed, stopped, leaving, emptied, alive⟩

/-- Closing takes the gate first and sets the stop flag after the last send has left. -/
theorem close (h : Fence behind s) : Fence behind s.closeStep := by
  obtain ⟨inside, closed, stopped, leaving, emptied, alive⟩ := h
  have running : s.gate ≠ .closed → s.stop ≠ true := fun e stop => e (stopped stop)
  have move := s.closeStep_move
  generalize s.closeStep = s' at move ⊢
  cases move with
  | request gate =>
    exact ⟨inside, by simp, fun stop => absurd stop (running (by simp [gate])), leaving, emptied,
      alive⟩
  | wait => exact ⟨inside, closed, stopped, leaving, emptied, alive⟩
  | shut _ none => exact ⟨inside, fun _ => none, fun _ => rfl, leaving, emptied, alive⟩
  | stop gate => exact ⟨inside, closed, fun _ => gate, fun _ => rfl, emptied, alive⟩

/-- While the gate is open and the thread runs, the queue may grow. -/
theorem join (h : Fence behind s) (running : s.isFinished = false) (d : Decision) :
    Fence behind { s with queue := s.queue ++ [d] } := by
  refine { h with emptied := fun ended => ?_ }
  simp only at ended
  simp [isFinished, ended] at running

/-- A finished flush thread has left nothing behind. -/
theorem queue_of_isFinished (h : Fence behind s) (ended : s.isFinished = true) :
    s.phase = .finished ∧ s.queue = [] := by
  rcases phase_of_isFinished ended with finished | dead
  · exact ⟨finished, h.emptied finished⟩
  · exact absurd dead h.alive

end Fence

/-! ### The flow of decisions -/

/-- What went to the ring, `published`, is a beginning of the decisions that entered the queue,
`accepted`; unless the flush thread leaves, the rest is still on its way, in order. -/
structure Flow (published : List Bytes) (accepted : List Decision) (s : DispatchStream) : Prop where
  whole : (s.stop && s.phase.leaves) = false →
    published ++ s.pipeline.map Decision.bytes = accepted.map Decision.bytes
  kept : published <+: accepted.map Decision.bytes

namespace Flow

variable {published : List Bytes} {accepted : List Decision}

theorem fresh (name map : String) (capacity : Nat) : Flow [] [] { name, map, capacity } :=
  ⟨fun _ => rfl, List.prefix_rfl⟩

/-- When no submission fails, what the flush thread publishes stood first among the decisions on
their way. -/
theorem flush (h : Flow published accepted s) (move : FlushMove answer s s')
    (calm : answer = .published ∨ answer = .full) (draining : s.phase = .draining → s.stop = true) :
    Flow (published ++ (s.publishes answer).map Decision.bytes) accepted s' := by
  rcases move.pipeline_cases calm draining with ⟨stays, e⟩ | ⟨stopped, leaves, none⟩
  · have whole : published ++ (s.publishes answer).map Decision.bytes ++
        s'.pipeline.map Decision.bytes = accepted.map Decision.bytes := by
      rw [List.append_assoc, ← List.map_append, e]
      exact h.whole stays
    exact ⟨fun _ => whole, ⟨_, whole⟩⟩
  · rw [none, List.map_nil, List.append_nil]
    refine ⟨fun stays => ?_, h.kept⟩
    rw [move.stop_eq, stopped, leaves] at stays
    cases stays

/-- A decision that enters the queue is the last of those accepted. -/
theorem join (h : Flow published accepted s) (ds : List Decision) (inside : Nat) :
    Flow published (accepted ++ ds) { s with inside, queue := s.queue ++ ds } := by
  refine ⟨fun e => ?_, ?_⟩
  · rw [List.map_append, ← h.whole e]
    simp [pipeline]
  · rw [List.map_append]
    exact h.kept.trans (List.prefix_append _ _)

/-- What joins the queue joins at its end. -/
theorem send (h : Flow published accepted s) (move : SendMove s p s' p') :
    Flow published (accepted ++ joined p p') s' := by
  rw [move.frame]
  exact h.join (joined p p') s'.inside

theorem close (h : Flow published accepted s) : Flow published accepted s.closeStep := by
  have move := s.closeStep_move
  generalize s.closeStep = s' at move ⊢
  cases move with
  | request | wait | shut => exact ⟨h.whole, h.kept⟩
  | stop =>
    refine ⟨fun e => ?_, h.kept⟩
    simp only [Bool.true_and] at e
    exact h.whole (by simp [e])

end Flow

/-! ### On a kernel -/

/-- What the ring answers at the next step of the flush thread, and what becomes of it. -/
def submitOn (k : Kernel) (s : DispatchStream) : Kernel.SubmitAnswer × Kernel :=
  match s.phase with
  | .publishing d => k.submit s.map d.bytes
  | _ => (.published, k)

theorem advance_eq (k : Kernel) (s : DispatchStream) :
    s.advance k =
      let s' := s.flushStep (s.submitOn k).1
      (if s'.isFinished && !s.isFinished then (s.submitOn k).2.releaseRing s.map
        else (s.submitOn k).2, s') := rfl

/-- On a kernel the flush thread makes the same moves. -/
theorem advance_move (k : Kernel) (s : DispatchStream) :
    FlushMove (s.submitOn k).1 s (s.advance k).2 :=
  flushStep_move _ s

/-- Releasing its ring is all that the flush thread does to a kernel besides submitting. -/
theorem keepsRings_advance (k : Kernel) (s : DispatchStream) :
    Kernel.KeepsRings (s.submitOn k).2 (s.advance k).1 := by
  rw [advance_eq]
  simp only
  split
  · exact Kernel.keepsRings_releaseRing _ _
  · exact .refl _

/-- What the flush thread publishes goes to the end of its ring. -/
theorem waiting_advance (k : Kernel) (s : DispatchStream) :
    (s.advance k).1.waiting s.map =
      k.waiting s.map ++ (s.publishes (s.submitOn k).1).map Decision.bytes := by
  rw [(s.keepsRings_advance k).waiting]
  rcases here : s.phase with - | - | d | d | - | - | -
  case publishing =>
    simp only [publishes, submitOn, here]
    rcases k.submit_cases s.map d.bytes with ⟨unpublished, same⟩ | ⟨r, records, e⟩
    · rw [same]
      split <;> simp_all
    · simp [e, records]
  all_goals simp [publishes, submitOn, here]

/-- The flush thread touches no other ring. -/
theorem waiting_advance_of_ne {k : Kernel} {other : String} (h : s.map ≠ other) :
    (s.advance k).1.waiting other = k.waiting other := by
  rw [(s.keepsRings_advance k).waiting, submitOn]
  split
  · exact k.waiting_submit_of_ne h _
  · rfl

theorem faults_advance (k : Kernel) (s : DispatchStream) :
    (s.advance k).1.faults = k.faults := by
  rw [(s.keepsRings_advance k).faults, submitOn]
  split
  · exact k.faults_submit s.map _
  · rfl

/-- Where no submission panics, the flush thread does not die. -/
theorem submitOn_ne_panicked {k : Kernel} (noPanics : k.faults.submitPanics = [])
    (s : DispatchStream) : (s.submitOn k).1 ≠ .panicked := by
  unfold submitOn
  split
  · exact Kernel.submit_ne_panicked noPanics _ _
  · simp

/-- Without faults the ring takes the decision or is full. -/
theorem submitOn_answer {k : Kernel} (hpanic : k.faults.submitPanics = [])
    (herror : k.faults.submitErrors = []) (s : DispatchStream) :
    (s.submitOn k).1 = .published ∨ (s.submitOn k).1 = .full := by
  unfold submitOn
  split
  · exact Kernel.submit_answer hpanic herror _ _
  · exact Or.inl rfl

end DispatchStream

end SchedPlane
