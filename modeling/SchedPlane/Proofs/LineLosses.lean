/-
SchedPlane/Proofs/LineLosses.lean

What the death of a flush thread costs.

A submission that panics ends the flush thread before anybody has closed the stream.  The
thread can count nothing any more: the decision it had at hand is neither delivered nor
discarded, and those behind it stay in the queue.  Otherwise its books are in order.  So a
dead stream is one whose books miss exactly one discarded decision: `DispatchStream.mourned`
enters it, and with that entry the lemmas of `Books` go through for every answer of the ring.

Main result, `closed_accounts`, for every run, with or without a panic: when closing has returned,
the counters account for every accepted decision and the queue is empty just when the flush
thread has come to its end by itself; if it has died, the decision that killed it and all that
was queued are missing from the counters.
-/
import SchedPlane.Proofs.LineRuns

namespace SchedPlane

/-- The decision that went down with a thread, as a number. -/
def FlushPhase.lost : FlushPhase → Nat
  | .dead => 1
  | _ => 0

namespace DispatchStream

variable {s s' : DispatchStream} {answer : Kernel.SubmitAnswer} {accepted drained : Nat}

/-- The stream with the decision that went down with its thread counted as discarded. -/
def mourned (s : DispatchStream) : DispatchStream :=
  { s with
    counters := { s.counters with discarded := s.counters.discarded + s.phase.lost } }

/-- A stream whose thread is alive mourns nothing. -/
theorem mourned_of_alive (alive : s.phase ≠ .dead) : s.mourned = s := by
  have none : s.phase.lost = 0 := by
    rcases here : s.phase with - | - | - | - | - | - | -
    case dead => exact absurd here alive
    all_goals rfl
  simp [mourned, none]

/-! ### The moment of death -/

/-- A step ends the thread by a panic, or a ring that does not panic would have led to it. -/
theorem FlushMove.death_cases (h : FlushMove answer s s') :
    (∃ d, s.phase = .publishing d ∧ answer = .panicked ∧ s' = { s with phase := .dead }) ∨
      ∃ calm : Kernel.SubmitAnswer, calm ≠ .panicked ∧ FlushMove calm s s' := by
  by_cases panics : answer = .panicked
  · subst panics
    cases h with
    | submit here => exact .inl ⟨_, here, rfl, rfl⟩
    | look here running => exact .inr ⟨.full, by simp, .look here running⟩
    | leave here stopped => exact .inr ⟨.full, by simp, .leave here stopped⟩
    | miss here empty => exact .inr ⟨.full, by simp, .miss here empty⟩
    | take here front => exact .inr ⟨.full, by simp, .take here front⟩
    | retry here running => exact .inr ⟨.full, by simp, .retry here running⟩
    | giveUp here stopped => exact .inr ⟨.full, by simp, .giveUp here stopped⟩
    | drain here => exact .inr ⟨.full, by simp, .drain here⟩
    | rest ended => exact .inr ⟨.full, by simp, .rest ended⟩
  · exact .inr ⟨answer, panics, h⟩

/-- Where the ring does not panic, the thread does not die. -/
theorem FlushMove.alive (h : FlushMove answer s s') (calm : answer ≠ .panicked)
    (alive : s.phase ≠ .dead) : s'.phase ≠ .dead := by
  cases h with
  | submit => cases answer <;> simp_all [answered]
  | rest => exact alive
  | look | leave | miss | take | retry | giveUp | drain => simp

/-- **Every step of the flush thread keeps the mourned books**, the one that kills it too. -/
theorem Books.flush_mourned (h : s.mourned.Books accepted drained) (move : FlushMove answer s s') :
    s'.mourned.Books accepted (drained + s.drains.length) := by
  rcases move.death_cases with ⟨d, here, -, rfl⟩ | ⟨calm, quiet, move⟩
  · -- the held decision is the one that is lost
    obtain ⟨entered, settled⟩ := h
    have none : s.drains = [] := by simp [drains, here]
    simp only [mourned, here, FlushPhase.held, FlushPhase.lost, List.length_singleton]
      at entered settled
    rw [none]
    refine ⟨entered, ?_⟩
    simp only [mourned, FlushPhase.held, FlushPhase.lost, List.length_nil]
    omega
  · by_cases dead : s.phase = .dead
    · -- a dead thread does nothing more
      have ended : s.isFinished = true := by simp [isFinished, dead]
      have none : s.drains = [] := by simp [drains, dead]
      have same : s' = s := by
        cases move with
        | rest => rfl
        | look here | leave here | miss here | take here | submit here | retry here | giveUp here
        | drain here => simp [dead] at here
      rw [same, none]
      exact h
    · rw [mourned_of_alive dead] at h
      rw [mourned_of_alive (move.alive quiet dead)]
      exact h.flush move quiet

/-- A finished thread has left nothing in the queue, and nothing gets there after it. -/
theorem FlushMove.emptied (h : FlushMove answer s s') (emptied : s.phase = .finished → s.queue = [])
    (here : s'.phase = .finished) : s'.queue = [] := by
  cases h with
  | drain => rfl
  | rest => exact emptied here
  | submit => cases answer <;> cases here
  | look | leave | miss | take | retry | giveUp => cases here

/-- Nothing joins the queue of a stream whose thread has ended. -/
theorem SendMove.joined_of_isFinished {p p' : Sender} (h : SendMove s p s' p')
    (ended : s.isFinished = true) : joined p p' = [] := by
  cases h with
  | join running => simp [ended] at running
  | enter | kept | turnedAway | timeOut | lost | done => rfl

end DispatchStream

namespace LineRun

open DispatchStream

variable {r : LineRun}

/-! ### Runs with panics -/

/-- The mourned books of a run are in order. -/
structure Mourned (r : LineRun) : Prop where
  books : r.line.stream.mourned.Books r.entered.length r.drained
  accepted : r.accepted = r.entered.length
  emptied : r.line.stream.phase = .finished → r.line.stream.queue = []

theorem mourned_fresh (name map : String) (t : Tuning) : Mourned (fresh name map t) where
  books := ⟨rfl, rfl⟩
  accepted := rfl
  emptied := fun _ => rfl

/-- A death takes one decision out of the books, and no other step of the thread does. -/
theorem Mourned.flush (h : Mourned r) (answer : Kernel.SubmitAnswer) :
    Mourned (r.step (.flush answer)) where
  books := h.books.flush_mourned (flushStep_move answer r.line.stream)
  accepted := h.accepted
  emptied := (flushStep_move answer r.line.stream).emptied h.emptied

/-- Sends go on as if the thread were alive. -/
theorem Mourned.send (h : Mourned r) (n : Nat) : Mourned (r.step (.send n)) := by
  obtain ⟨books, accepted, emptied⟩ := h
  show Mourned { r with line := r.line.sendStep n, entered := r.entered ++ r.line.joining n }
  rcases r.line.sendStep_cases n with ⟨e, none⟩ | ⟨before, p, after, split, e, joins⟩
  · rw [e, none, List.append_nil]
    exact ⟨books, accepted, emptied⟩
  · have move := sendStep_move r.line.stream p
    have frame := move.frame
    rw [e, joins]
    refine ⟨?_, ?_, fun ended => ?_⟩
    · rw [List.length_append]
      show (r.line.stream.sendStep p).1.mourned.Books _ _
      rw [frame]
      exact books.join _ _
    · simp only [LineRun.accepted, split, List.count_append, List.count_cons,
        List.length_append] at accepted ⊢
      have told := move.count_returned
      omega
    · show (r.line.stream.sendStep p).1.queue = []
      -- a send that comes too late joins nothing
      have ended' : r.line.stream.phase = .finished := by
        have here : (r.line.stream.sendStep p).1.phase = .finished := ended
        rwa [frame] at here
      have finished : r.line.stream.isFinished = true := by simp [isFinished, ended']
      rw [frame]
      simp [move.joined_of_isFinished finished, emptied ended']

theorem Mourned.trySend (h : Mourned r) (d : Decision) : Mourned (r.step (.trySend d)) := by
  obtain ⟨books, accepted, emptied⟩ := h
  rcases r.line.stream.trySend_cases d with ⟨e, -, running, -⟩ | ⟨refused, same⟩
  · simp only [LineRun.step, e, if_true]
    refine ⟨?_, ?_, fun ended => ?_⟩
    · rw [List.length_append]
      exact books.join [d] r.line.stream.inside
    · simp only [LineRun.accepted, List.count_append, List.count_singleton_self,
        List.length_append, List.length_singleton] at accepted ⊢
      omega
    · have here : r.line.stream.phase = .finished := ended
      simp [isFinished, here] at running
  · simp only [LineRun.step, same, if_neg refused]
    refine ⟨books, ?_, emptied⟩
    have none : [(r.line.stream.trySend d).1].count .accepted = 0 := by
      simpa [List.count_singleton] using refused
    simp only [LineRun.accepted, List.count_append, none] at accepted ⊢
    exact accepted

/-- **Each action keeps the mourned books**, whatever the ring answers. -/
theorem Mourned.step (h : Mourned r) (a : Action) : Mourned (r.step a) := by
  cases a with
  | flush answer => exact h.flush answer
  | beginSend d => exact ⟨h.books, (r.accepted_beginSend d).trans h.accepted, h.emptied⟩
  | send n => exact h.send n
  | trySend d => exact h.trySend d
  | close =>
    refine ⟨?_, h.accepted, ?_⟩
    · show r.line.stream.closeStep.mourned.Books r.entered.length r.drained
      rw [closeStep_frame]
      exact ⟨h.books.entered, h.books.settled⟩
    · show r.line.stream.closeStep.phase = .finished → r.line.stream.closeStep.queue = []
      rw [closeStep_frame]
      exact h.emptied

/-- After any actions the books balance but for one decision at most. -/
theorem Mourned.run (h : Mourned r) (actions : List Action) : Mourned (r.run actions) :=
  List.foldlRecOn actions LineRun.step h fun _ ih a _ => ih.step a

/-! ### After closing -/

/-- What the counters of a run say of the decisions it accepted. -/
structure Accounts (r : LineRun) : Prop where
  /-- At every moment an accepted decision is delivered, discarded, queued, held or lost. -/
  accepted : r.accepted =
    r.line.stream.counters.delivered + r.line.stream.counters.discarded +
      r.line.stream.queue.length + r.line.stream.phase.held.length + r.line.stream.phase.lost
  /-- When closing has returned, all of them are counted and none is queued just when the thread
  has not died. -/
  closed : r.line.stream.isClosed = true →
    (r.accepted = r.line.stream.counters.delivered + r.line.stream.counters.discarded ∧
        r.line.stream.queue = [] ↔
      r.line.stream.phase ≠ .dead)
  /-- If it has died, one decision is lost, and those that were queued still are. -/
  died : r.line.stream.phase = .dead →
    r.accepted = r.line.stream.counters.delivered + r.line.stream.counters.discarded +
      r.line.stream.queue.length + 1
  /-- It dies of nothing but a submission that panics. -/
  dies : ∀ a, r.line.stream.phase ≠ .dead → (r.step a).line.stream.phase = .dead →
    a = .flush .panicked ∧ ∃ d, r.line.stream.phase = .publishing d

/-- The accounts of a line are those of the books, with the loss made explicit. -/
theorem Mourned.accounts (h : Mourned r) : Accounts r := by
  obtain ⟨⟨entered, settled⟩, accepted, emptied⟩ := h
  simp only [mourned] at entered settled
  have total : r.accepted = r.line.stream.counters.delivered +
      r.line.stream.counters.discarded + r.line.stream.queue.length +
        r.line.stream.phase.held.length + r.line.stream.phase.lost := by
    omega
  refine ⟨total, fun returned => ?_, fun dead => ?_, fun a alive dies => ?_⟩
  · simp only [isClosed, Bool.and_eq_true] at returned
    rcases phase_of_isFinished returned.2 with here | here
    · have none := emptied here
      simp only [here, none, FlushPhase.held, FlushPhase.lost, List.length_nil] at total
      simp [here, none, total]
    · simp only [here, FlushPhase.held, FlushPhase.lost, List.length_nil] at total
      simp only [here, ne_eq, not_true_eq_false, iff_false, not_and]
      omega
  · simp only [dead, FlushPhase.held, FlushPhase.lost, List.length_nil] at total
    omega
  · cases a with
    | flush answer =>
      have move := flushStep_move answer r.line.stream
      rcases move.death_cases with ⟨d, here, panics, -⟩ | ⟨calm, quiet, move⟩
      · exact ⟨by rw [panics], d, here⟩
      · exact absurd dies (move.alive quiet alive)
    | beginSend => exact absurd dies alive
    | send n =>
      have same : (r.line.sendStep n).stream.phase = r.line.stream.phase := by
        rcases r.line.sendStep_cases n with ⟨e, -⟩ | ⟨before, p, after, -, e, -⟩
        · rw [e]
        · rw [e]
          show (r.line.stream.sendStep p).1.phase = r.line.stream.phase
          rw [(sendStep_move r.line.stream p).frame]
      exact absurd (same.symm.trans dies) alive
    | trySend d =>
      have same : (r.line.stream.trySend d).2.phase = r.line.stream.phase := by
        rw [trySend_frame]
      exact absurd (same.symm.trans dies) alive
    | close => exact absurd ((phase_closeStep _).symm.trans dies) alive

/-- **Accounting with a mortal flush thread.**  An accepted decision is delivered, discarded,
queued, in the hand of the thread, or the one that killed it.  After the close all of them are
counted and the queue is empty just if the thread has not died.  If it has, one decision is lost,
and those behind it stay in the queue.  Only a submission that panics kills it. -/
theorem closed_accounts (name map : String) (t : Tuning) (actions : List Action) :
    Accounts ((fresh name map t).run actions) :=
  ((mourned_fresh name map t).run actions).accounts

/-- One decision is delivered and another waits on a full ring; the one behind it is fatal, and
a fourth is queued when the thread dies and the stream is closed. -/
def closedAfterDeath : List Action :=
  [.trySend ⟨[1]⟩, .flush .full, .flush .full, .flush .published, .trySend ⟨[3]⟩,
    .trySend ⟨[186, 208]⟩, .trySend ⟨[4]⟩, .flush .full, .flush .full, .flush .full, .flush .full,
    .flush .published, .flush .full, .flush .full, .flush .panicked, .close, .close, .close]

/-- A decision is accepted and never counted, and another stays in the queue of a closed stream. -/
theorem closedAfterDeath_loses :
    ¬ ∀ actions : List Action,
      let r := (fresh "dispatched" "dispatched" ⟨1, 4⟩).run actions
      r.line.stream.isClosed = true →
        r.accepted = r.line.stream.counters.delivered + r.line.stream.counters.discarded ∧
          r.line.stream.stats.queued = 0 := by
  intro always
  have counted := (always closedAfterDeath (by decide +kernel)).1
  exact absurd counted (by decide +kernel)

end LineRun

end SchedPlane
