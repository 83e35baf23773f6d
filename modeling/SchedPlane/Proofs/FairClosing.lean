/-
SchedPlane/Proofs/FairClosing.lean

A close that has begun comes to its end under every fair schedule of the threads.

A schedule is fair if it gives each thread that the close depends on turn after turn (`Fair`).  The
argument is a measure and a notion of help.  `Deployment.distance` adds up what every part of a
close has still to do, and no turn of any thread raises it: a poll thread that was not asked to stop
yet may go round and round, but it is accounted for at the price of its end.  A thread that `Helps`
lowers the distance at its next turn, and nothing that others do takes this chance away from it.
As long as the close has not ended or a send has not returned, there is such a thread.

Neither a consumer nor the kernel takes part, and a wait that ends in vain is a turn like any
other, so full queues and rings delay nothing.

Threads that take turns in a circle are scheduled fairly, so from every moment of a close there is
a list of turns that ends it (`Closing.exists_end`).
-/
import Mathlib.Algebra.Order.BigOperators.Group.List
import Mathlib.Algebra.Order.Ring.Nat
import Mathlib.Data.List.GetD
import SchedPlane.Proofs.StoppedWorkers

namespace SchedPlane

open DispatchStream

/-! ### Fair schedules -/

/-- An endless schedule gives each of some threads turn after turn. -/
def Fair (threads : List Actor) (turn : Nat → Actor) : Prop :=
  ∀ a ∈ threads, ∀ n, ∃ m, n ≤ m ∧ turn m = a

/-- Taking turns in a circle is fair. -/
theorem fair_circle (a : Actor) (rest : List Actor) :
    Fair (a :: rest) fun n => (a :: rest).getD (n % (a :: rest).length) a := by
  intro b mem n
  obtain ⟨i, bound, at_⟩ := List.getElem_of_mem mem
  refine ⟨i + (a :: rest).length * n, ?_, ?_⟩
  · have once : n ≤ (a :: rest).length * n := Nat.le_mul_of_pos_left n (by simp)
    omega
  · have here : (i + (a :: rest).length * n) % (a :: rest).length = i := by
      rw [Nat.add_mul_mod_self_left, Nat.mod_eq_of_lt bound]
    show (a :: rest).getD ((i + (a :: rest).length * n) % (a :: rest).length) a = b
    rw [here, List.getD_eq_getElem _ _ bound, at_]

/-- The deployment after the first turns of an endless schedule. -/
def Deployment.upTo (d : Deployment) (turn : Nat → Actor) : Nat → Deployment
  | 0 => d
  | n + 1 => (d.upTo turn n).step (turn n)

/-- The first turns of an endless schedule, as a list. -/
theorem Deployment.after_range (d : Deployment) (turn : Nat → Actor) (n : Nat) :
    d.after ((List.range n).map turn) = d.upTo turn n := by
  induction n with
  | zero => rfl
  | succ n ih =>
    rw [List.range_succ, List.map_append, after, List.foldl_append]
    exact congrArg (·.step (turn n)) ih

section Fairness

variable {Good Goal : Deployment → Prop} {Helps : Deployment → Actor → Prop}
  {measure : Deployment → Nat} {threads : List Actor} {turn : Nat → Actor} {d : Deployment}

/-- What each turn keeps holds at every moment of a schedule. -/
theorem good_upTo (keeps : ∀ d a, Good d → Good (d.step a)) (good : Good d) (n : Nat) :
    Good (d.upTo turn n) := by
  induction n with
  | zero => exact good
  | succ n ih => exact keeps _ _ ih

/-- A thread that helps takes its turn in the end, and nothing is lost until then. -/
theorem exists_turn (keeps : ∀ d a, Good d → Good (d.step a))
    (falls : ∀ d a, Good d → measure (d.step a) ≤ measure d)
    (lasts : ∀ d a b, Good d → Helps d a → b ≠ a → Helps (d.step b) a) (good : Good d)
    {a : Actor} {n m : Nat} (helps : Helps (d.upTo turn n) a) (later : n ≤ m)
    (own : turn m = a) :
    ∃ j, turn j = a ∧ Helps (d.upTo turn j) a ∧
      measure (d.upTo turn j) ≤ measure (d.upTo turn n) := by
  -- by induction on the turns that are left until the one that is known
  generalize far : m - n = gap
  induction gap generalizing n with
  | zero =>
    obtain rfl : n = m := by omega
    exact ⟨n, own, helps, Nat.le_refl _⟩
  | succ gap ih =>
    by_cases now : turn n = a
    · exact ⟨n, now, helps, Nat.le_refl _⟩
    · have here : Good (d.upTo turn n) := good_upTo keeps good n
      obtain ⟨j, at_, still, lower⟩ :=
        ih (n := n + 1) (lasts _ a (turn n) here helps now) (by omega) (by omega)
      exact ⟨j, at_, still, Nat.le_trans lower (falls _ (turn n) here)⟩

/-- **A goal is reached under every fair schedule** if some measure is never raised, and if as long
as the goal is not reached some thread will lower it at its next turn, whenever that comes. -/
theorem Fair.reaches (fair : Fair threads turn) (keeps : ∀ d a, Good d → Good (d.step a))
    (falls : ∀ d a, Good d → measure (d.step a) ≤ measure d)
    (lasts : ∀ d a b, Good d → Helps d a → b ≠ a → Helps (d.step b) a)
    (lowers : ∀ d a, Good d → Helps d a → measure (d.step a) < measure d)
    (found : ∀ d, Good d → ¬ Goal d → ∃ a ∈ threads, Helps d a)
    (good : Good d) : ∃ n, Goal (d.upTo turn n) := by
  suffices descent : ∀ n, ∃ m, Goal (d.upTo turn m) from descent 0
  intro n
  generalize height : measure (d.upTo turn n) = w
  induction w using Nat.strongRecOn generalizing n with
  | ind w ih =>
    by_cases there : Goal (d.upTo turn n)
    · exact ⟨n, there⟩
    · obtain ⟨a, mem, helps⟩ := found _ (good_upTo keeps good n) there
      obtain ⟨m, later, own⟩ := fair a mem n
      obtain ⟨j, now, still, lower⟩ := exists_turn keeps falls lasts good helps later own
      have lowered : measure (d.upTo turn (j + 1)) < measure (d.upTo turn j) := by
        rw [Deployment.upTo, now]
        exact lowers _ a (good_upTo keeps good j) still
      exact ih _ (by omega) (j + 1) rfl

end Fairness

/-! ### The distance of a poll thread from its end -/

namespace EventStream

variable {α : Type} {k k' : Kernel} {s s' : EventStream α}

/-- What a poll thread has still to do.  One that was not asked to stop is accounted for with all
that it may be doing when it is. -/
def distance (k : Kernel) (s : EventStream α) : Nat :=
  if s.stop then s.remaining k else 6 * (k.waiting s.map).length + s.failingPolls + 6

theorem remaining_le_of_stop (stop : s.stop = true) :
    s.remaining k ≤ 6 * (k.waiting s.map).length + s.failingPolls + 5 := by
  have light : weight true s.phase ≤ 5 := by
    cases s.phase <;> simp [weight]
  simp only [remaining, stop]
  omega

/-- The request to stop costs a poll thread one unit, for which its round of polling was
accounted. -/
theorem distance_requestStop (running : s.stop = false) :
    s.requestStop.distance k < s.distance k := by
  have bound := remaining_le_of_stop (k := k) (s := s.requestStop) rfl
  simp only [distance, running, requestStop, if_true, Bool.false_eq_true, if_false] at bound ⊢
  omega

/-- What others do to a poll thread takes it no farther from its end. -/
theorem Aside.distance_le (a : s.Aside s') (waiting : k'.waiting s.map = k.waiting s.map) :
    s'.distance k' ≤ s.distance k := by
  cases stop : s.stop
  · have polls : s'.failingPolls = s.failingPolls := by rw [a.frame]
    simp only [distance, stop, Bool.false_eq_true, if_false]
    split
    · next asked =>
      have bound := remaining_le_of_stop (k := k') asked
      rw [a.map_eq, waiting, polls] at bound
      omega
    · rw [a.map_eq, waiting, polls]
  · simp only [distance, stop, a.stop stop, if_true, a.remaining_eq waiting stop]
    exact Nat.le_refl _

variable [EventRecord α]

/-- A poll fails no more often than it has to. -/
theorem failingPolls_pollStep (r : Ring) (s : EventStream α) :
    (s.pollStep r).2.failingPolls ≤ s.failingPolls := by
  unfold pollStep
  split
  · split
    · exact Nat.le_refl _
    · split
      · exact Nat.sub_le _ _
      · exact Nat.le_refl _
  · split
    · unfold accept
      split <;> exact Nat.le_refl _
    · exact Nat.le_refl _
  all_goals first | exact Nat.le_refl _ | (simp only; split <;> exact Nat.le_refl _)

theorem failingPolls_advance (k : Kernel) (s : EventStream α) :
    (s.advance k).2.failingPolls ≤ s.failingPolls := by
  rcases ring : k.rings.get? s.map with - | r
  · rw [advance_of_get?_none ring]
  · rw [(advance_of_get? ring).1]
    exact failingPolls_pollStep r s

/-- A poll thread takes records off its ring and puts none there. -/
theorem PollMove.length_le {pending pending' : List Bytes} (move : PollMove pending s pending' s') :
    pending'.length ≤ pending.length := by
  cases move with
  | read next | reject next => simp [next]
  | goOn | stall | deliver | discard => exact Nat.le_refl _

end EventStream

namespace Deployment

variable {d : Deployment}

namespace PollThread

variable {α : Type} [EventRecord α] {t : PollThread α}

/-- A turn of the thread itself takes it no farther, whether it was asked to stop or not. -/
theorem distance_own (s : d.handle.Staged) (m : d.Manned) :
    (t.stream (d.step t.actor)).distance (d.step t.actor).kernel ≤
      (t.stream d).distance d.kernel := by
  cases stop : (t.stream d).stop
  · have move := EventStream.advance_move d.kernel (t.stream d)
    have shorter := move.length_le
    have polls := EventStream.failingPolls_advance d.kernel (t.stream d)
    have map := move.map_eq
    have running := move.stop_eq.trans stop
    simp only [← t.own, ← t.ownKernel] at shorter polls map running
    simp only [EventStream.distance, stop, running, map, Bool.false_eq_true, if_false]
    omega
  · have w := winds_own s m stop
    have falls := w.falls
    simp only [EventStream.distance, stop, w.stop, if_true]
    omega

/-- No turn of any thread gets a poll thread farther from its end. -/
theorem distance_step (s : d.handle.Staged) (m : d.Manned) (a : Actor) :
    (t.stream (d.step a)).distance (d.step a).kernel ≤ (t.stream d).distance d.kernel := by
  by_cases own : a = t.actor
  · subst own
    exact distance_own s m
  · exact (t.aside d own).distance_le (t.waiting s own)

/-- A poll thread that was asked to stop gets nearer to its end at each of its turns. -/
theorem distance_own_lt (s : d.handle.Staged) (m : d.Manned) (stop : (t.stream d).stop = true)
    (runs : (t.stream d).isFinished = false) :
    (t.stream (d.step t.actor)).distance (d.step t.actor).kernel <
      (t.stream d).distance d.kernel := by
  have w := winds_own s m stop
  have falls := w.falls
  simp only [EventStream.distance, stop, w.stop, if_true]
  simp only [runs, Bool.false_eq_true, if_false] at falls
  omega

/-- The teardown is at the stage of the thread and need not wait for it: it will ask it to stop, or
the thread has ended. -/
def Ready (t : PollThread α) (d : Deployment) : Prop :=
  d.handle.teardown = t.stage ∧ ((t.stream d).stop = false ∨ (t.stream d).isFinished = true)

/-- The teardown waits for the end of the thread. -/
def Running (t : PollThread α) (d : Deployment) : Prop :=
  d.handle.teardown = t.stage ∧ (t.stream d).stop = true ∧ (t.stream d).isFinished = false

/-- A poll thread that has ended stays so. -/
theorem isFinished_step (ended : (t.stream d).isFinished = true) (a : Actor) :
    (t.stream (d.step a)).isFinished = true := by
  by_cases own : a = t.actor
  · subst own
    rw [t.own, EventStream.advance_of_finished (EventStream.phase_of_isFinished ended)]
    exact ended
  · rw [(t.aside d own).isFinished_eq]
    exact ended

end PollThread

end Deployment

/-! ### The distance of the dispatch stream from its end -/

namespace DispatchStream

variable {s s' : DispatchStream} {seats : Nat}

/-- What closing a dispatch stream has still to do, where at most `seats` sends get behind its
gate. -/
def distance (seats : Nat) (s : DispatchStream) : Nat :=
  match s.gate with
  | .unlocked => seats + 8
  | .requested => s.inside + 7
  | .closed => s.inside + if s.stop then flushWeight s.phase else 6

/-- Closing gets on, unless it waits for a send or for the flush thread. -/
theorem distance_closeStep (room : s.inside ≤ seats) (free : s.gate = .requested → s.inside = 0)
    (running : s.gate = .closed → s.stop = false) :
    s.closeStep.distance seats < s.distance seats := by
  have light := flushWeight_le s.phase
  rcases gate : s.gate with - | - | -
  · simp only [closeStep, distance, gate]
    omega
  · simp only [closeStep, distance, gate, free gate, if_true]
    split <;> omega
  · simp only [closeStep, distance, gate, running gate, if_true, Bool.false_eq_true, if_false]
    omega

/-- Closing gets the stream no farther from its end. -/
theorem distance_closeStep_le (room : s.inside ≤ seats) :
    s.closeStep.distance seats ≤ s.distance seats := by
  by_cases waits : s.gate = .requested ∧ s.inside ≠ 0
  · simp [closeStep, waits]
  · by_cases asked : s.gate = .closed ∧ s.stop = true
    · rw [closeStep_of_closed asked.1, ← asked.2]
    · refine Nat.le_of_lt (distance_closeStep room (fun gate => ?_) fun gate => ?_)
      · exact Classical.byContradiction fun none => waits ⟨gate, none⟩
      · exact Bool.eq_false_iff.mpr fun stop => asked ⟨gate, stop⟩

/-- The flush thread gets nearer to its end at each of its turns, once it was asked to stop. -/
theorem FlushMove.distance_lt {answer : Kernel.SubmitAnswer} (move : FlushMove answer s s')
    (gate : s.gate = .closed) (stop : s.stop = true) (runs : s.isFinished = false) :
    s'.distance seats < s.distance seats := by
  have falls := move.falls stop runs
  have inside : s'.inside = s.inside := by rw [move.frame]
  simp only [distance, move.gate_eq, move.stop_eq, gate, stop, inside, if_true]
  omega

/-- No thread gets the stream farther from its end. -/
theorem Turn.distance_le (turn : Turn s s') : s'.distance seats ≤ s.distance seats := by
  have gate_eq := turn.gate_eq
  have stop_eq := turn.stop_eq
  cases turn with
  | none => exact Nat.le_refl _
  | flush move =>
    have inside : s'.inside = s.inside := by rw [move.frame]
    simp only [distance, gate_eq, stop_eq, inside]
    -- the phase of the flush thread enters the distance after the stop flag only
    split
    · exact Nat.le_refl _
    · exact Nat.le_refl _
    · split
      · next stop =>
        cases ended : s.isFinished
        · have lower := move.falls stop ended
          omega
        · rcases phase_of_isFinished (move.isFinished ended) with here | here <;>
            simp [here, flushWeight]
      · exact Nat.le_refl _
  | send move =>
    cases move with
    | enter unlocked => simp [distance, unlocked]
    | kept | turnedAway | done => exact Nat.le_refl _
    | timeOut | lost | join =>
      simp only [distance]
      split <;> omega

/-- Whether a send has still to return. -/
def Sender.pends : Sender → Bool
  | .returned _ => false
  | _ => true

theorem Sender.behind_le (p : Sender) : p.behind ≤ 1 := by
  cases p <;> simp [Sender.behind]

/-- A send that is behind the gate leaves it in one step. -/
theorem sendStep_inside (s : DispatchStream) (d : Decision) :
    (s.sendStep (.inside d)).1 =
      { s with inside := s.inside - 1, queue := (s.sendStep (.inside d)).1.queue } := by
  simp only [sendStep]
  split
  · rfl
  · split <;> rfl

theorem SendMove.pends {p p' : Sender} (move : SendMove s p s' p') (pends : p'.pends = true) :
    p.pends = true := by
  cases move with
  | enter | kept | timeOut | turnedAway | lost | join => rfl
  | done => exact pends

end DispatchStream

theorem PlacePhase.behind_le (phase : PlacePhase) : phase.behind ≤ 1 := by
  cases phase with
  | sending p => exact p.behind_le
  | idle | readingExits | receiving | selecting | finished => exact Nat.zero_le 1

/-- If sends of a line are behind the gate, one of them is found there. -/
theorem Line.exists_inside (l : Line) (h : l.behind ≠ 0) :
    ∃ (n : Nat) (d : Decision), l.senders[n]? = some (.inside d) := by
  have found : ∃ p ∈ l.senders, p.behind ≠ 0 := by
    refine Classical.byContradiction fun none => h ?_
    simp only [not_exists, not_and, Classical.not_not] at none
    rw [behind, List.sum_eq_zero_iff_forall_eq_nat]
    simpa using none
  obtain ⟨p, mem, inside⟩ := found
  obtain ⟨n, at_⟩ := List.getElem?_of_mem mem
  cases p with
  | inside d => exact ⟨n, d, at_⟩
  | atGate | returned => exact absurd rfl inside

/-- A loop that is behind the gate is about to put its decision into the queue. -/
theorem PlacePhase.exists_inside (phase : PlacePhase) (h : phase.behind ≠ 0) :
    ∃ d, phase = .sending (.inside d) := by
  cases phase with
  | sending p =>
    cases p with
    | inside d => exact ⟨d, rfl⟩
    | atGate | returned => exact absurd rfl h
  | idle | readingExits | receiving | selecting | finished => exact absurd rfl h

/-! ### The distance of a close from its end -/

/-- The teardown proceeds. -/
theorem Handle.TeardownMove.rank_le {k k' : Kernel} {h h' : Handle}
    (move : h.TeardownMove k k' h') :
    h.teardown.rank ≤ h'.teardown.rank ∧ h'.probes.length ≤ h.probes.length := by
  cases move with
  | rest | askExits | closeDispatch | askQueued => exact ⟨Nat.le_refl _, Nat.le_refl _⟩
  | passExits here | passDispatch here | passQueued here | dropScheduler here | passProbes here
  | unload here => exact ⟨by simp [here, Teardown.rank], Nat.le_refl _⟩
  | dropProbe => exact ⟨Nat.le_refl _, by simp⟩

/-- Behind the streams the teardown waits for nobody. -/
theorem Handle.TeardownMove.releases {k k' : Kernel} {h h' : Handle}
    (move : h.TeardownMove k k' h') (late : 4 ≤ h.teardown.rank) (undone : h.teardown ≠ .done) :
    h.teardown.rank < h'.teardown.rank ∨ h'.probes.length < h.probes.length := by
  cases move with
  | rest here =>
    rcases here with here | here
    · simp [here, Teardown.rank] at late
    · exact absurd here undone
  | askExits here | passExits here | closeDispatch here | passDispatch here | askQueued here
  | passQueued here => simp [here, Teardown.rank] at late
  | dropScheduler here | passProbes here | unload here =>
    exact .inl (by simp [here, Teardown.rank])
  | dropProbe here last =>
    have some : h.probes ≠ [] := by
      rintro none
      simp [none] at last
    have shorter := List.length_pos_iff.mpr some
    refine .inr ?_
    simp only [List.length_dropLast]
    omega

theorem Teardown.rank_le (stage : Teardown) : stage.rank ≤ 7 := by
  cases stage <;> decide

namespace Deployment

variable {d d' : Deployment} {senders : Nat}

/-- The sends that have still to return. -/
def unanswered (d : Deployment) : Nat :=
  d.senders.countP Sender.pends

/-- What a close has still to do, and the sends that have still to return. -/
def distance (d : Deployment) : Nat :=
  d.handle.exits.distance d.kernel + d.handle.queued.distance d.kernel +
    d.handle.dispatch.distance (d.senders.length + 1) + d.handle.probes.length +
    (7 - d.handle.teardown.rank) + d.unanswered

/-- What the threads keep while a close is under way, among a number of sends. -/
structure Closing (senders : Nat) (d : Deployment) : Prop where
  staged : d.handle.Staged
  manned : d.Manned
  gated : d.handle.Gated
  fenced : d.handle.dispatch.Fenced
  begun : 1 ≤ d.handle.teardown.rank
  crowd : d.senders.length = senders

/-- Every part of a close stays where it is or gets nearer to its end. -/
structure Nears (d d' : Deployment) : Prop where
  exits : d'.handle.exits.distance d'.kernel ≤ d.handle.exits.distance d.kernel
  queued : d'.handle.queued.distance d'.kernel ≤ d.handle.queued.distance d.kernel
  dispatch : d'.handle.dispatch.distance (d'.senders.length + 1) ≤
    d.handle.dispatch.distance (d.senders.length + 1)
  probes : d'.handle.probes.length ≤ d.handle.probes.length
  rank : d.handle.teardown.rank ≤ d'.handle.teardown.rank
  unanswered : d'.unanswered ≤ d.unanswered

theorem Nears.distance_le (n : Nears d d') : d'.distance ≤ d.distance := by
  obtain ⟨exits, queued, dispatch, probes, rank, unanswered⟩ := n
  simp only [distance]
  omega

/-- A close gets nearer to its end if all parts stay and one of them does. -/
theorem Nears.distance_lt (n : Nears d d')
    (nearer : d'.handle.exits.distance d'.kernel < d.handle.exits.distance d.kernel ∨
      d'.handle.queued.distance d'.kernel < d.handle.queued.distance d.kernel ∨
      d'.handle.dispatch.distance (d'.senders.length + 1) <
        d.handle.dispatch.distance (d.senders.length + 1) ∨
      d'.handle.probes.length < d.handle.probes.length ∨
      d.handle.teardown.rank < d'.handle.teardown.rank ∨ d'.unanswered < d.unanswered) :
    d'.distance < d.distance := by
  obtain ⟨exits, queued, dispatch, probes, rank, unanswered⟩ := n
  have far := d'.handle.teardown.rank_le
  simp only [distance]
  omega

/-- A step of a send, and the number of those that have still to return. -/
theorem unanswered_send {n : Nat} {p : Sender} (at_ : d.senders[n]? = some p) :
    (d.step (.dispatch (.send n))).unanswered + (if p.pends then 1 else 0) =
      d.unanswered + if (d.handle.dispatch.sendStep p).2.pends then 1 else 0 := by
  obtain ⟨bound, rfl⟩ := List.getElem?_eq_some_iff.mp at_
  have stepped : (d.step (.dispatch (.send n))).senders =
      d.senders.set n (d.handle.dispatch.sendStep d.senders[n]).2 := by
    simp only [step, Line.advance, Line.sendStep, setLine, line, at_]
  have counted : (if d.senders[n].pends then 1 else 0) ≤ d.senders.countP Sender.pends :=
    List.boole_getElem_le_countP bound
  simp only [unanswered, stepped, List.countP_set bound]
  omega

/-- No thread but a send concerns the sends. -/
theorem senders_step (d : Deployment) {a : Actor} (other : ∀ n, a ≠ .dispatch (.send n)) :
    (d.step a).senders = d.senders := by
  cases a with
  | teardown | pollExits | pollQueued => rfl
  | dispatch a =>
    cases a with
    | flush => rfl
    | send n => exact absurd rfl (other n)
  | call n =>
    simp only [step]
    split <;> rfl
  | place =>
    simp only [step]
    split <;> rfl

theorem length_senders_step (d : Deployment) (a : Actor) :
    (d.step a).senders.length = d.senders.length := by
  by_cases send : ∃ n, a = .dispatch (.send n)
  · obtain ⟨n, rfl⟩ := send
    simp only [step, Line.advance, Line.sendStep, setLine, line]
    split <;> simp
  · rw [d.senders_step fun n own => send ⟨n, own⟩]

theorem unanswered_step (d : Deployment) (a : Actor) : (d.step a).unanswered ≤ d.unanswered := by
  by_cases send : ∃ n, a = .dispatch (.send n)
  · obtain ⟨n, rfl⟩ := send
    rcases at_ : d.senders[n]? with - | p
    · simp [step, Line.advance, Line.sendStep, setLine, line, unanswered, at_]
    · have counted := unanswered_send at_
      have fewer : (if (d.handle.dispatch.sendStep p).2.pends then 1 else 0) ≤
          if p.pends then 1 else 0 := by
        cases pends : (d.handle.dispatch.sendStep p).2.pends
        · simp
        · simp [(sendStep_move d.handle.dispatch p).pends pends]
      omega
  · rw [unanswered, d.senders_step fun n own => send ⟨n, own⟩]
    exact Nat.le_refl _

/-- The teardown goes on from stage to stage and releases probes, and nobody else moves it. -/
theorem rank_step (d : Deployment) (a : Actor) :
    d.handle.teardown.rank ≤ (d.step a).handle.teardown.rank ∧
      (d.step a).handle.probes.length ≤ d.handle.probes.length := by
  by_cases own : a = .teardown
  · subst own
    exact (d.handle.teardownStep_move d.kernel).rank_le
  · obtain ⟨teardown, probes⟩ := d.teardown_step own
    rw [teardown, probes]
    exact ⟨Nat.le_refl _, Nat.le_refl _⟩

/-- At most all sends are behind the gate, the loop's own included. -/
theorem Manned.inside_le (m : d.Manned) : d.handle.dispatch.inside ≤ d.senders.length + 1 := by
  have sends : d.line.behind ≤ d.senders.length := by
    have each : ∀ p ∈ d.senders.map Sender.behind, p ≤ 1 := by
      intro n mem
      obtain ⟨p, -, rfl⟩ := List.mem_map.mp mem
      exact p.behind_le
    simpa [Line.behind, line] using List.sum_le_card_nsmul _ 1 each
  have loop : (d.loop.map (·.phase.behind)).getD 0 ≤ 1 := by
    rcases d.loop with - | p
    · exact Nat.zero_le 1
    · exact p.phase.behind_le
  rw [m.inside, behind]
  omega

namespace Closing

theorem step (c : Closing senders d) (a : Actor) : Closing senders (d.step a) where
  staged := staged_step c.staged a
  manned := c.manned.step a
  gated := gated_step c.gated a
  fenced := fenced_step c.fenced a
  begun := Nat.le_trans c.begun (d.rank_step a).1
  crowd := (d.length_senders_step a).trans c.crowd

/-- **No turn of any thread takes a close back.** -/
theorem nears (c : Closing senders d) (a : Actor) : Nears d (d.step a) where
  exits := exitThread.distance_step c.staged c.manned a
  queued := queuedThread.distance_step c.staged c.manned a
  dispatch := by
    rw [d.length_senders_step a]
    by_cases own : a = .teardown
    · subst own
      rcases (d.handle.teardownStep_move d.kernel).dispatch_cases with same | closing
      · simp only [Deployment.step, same]
        exact Nat.le_refl _
      · simp only [Deployment.step, closing]
        exact distance_closeStep_le c.manned.inside_le
    · exact (d.turn_dispatch own).distance_le
  probes := (d.rank_step a).2
  rank := (d.rank_step a).1
  unanswered := d.unanswered_step a

end Closing

/-! ### Help -/

namespace PollThread

variable {α : Type} [EventRecord α] {t : PollThread α}

/-- Only the teardown makes use of its chance to go on. -/
theorem ready_step (ready : t.Ready d) {a : Actor} (other : a ≠ .teardown) :
    t.Ready (d.step a) := by
  obtain ⟨here, free⟩ := ready
  refine ⟨(d.teardown_step other).1.trans here, ?_⟩
  rw [t.stopped d other]
  exact free.imp_right fun ended => isFinished_step ended a

/-- As long as a thread runs, the teardown waits for it at its stage. -/
theorem running_step (running : t.Running d) {a : Actor} (other : a ≠ t.actor) :
    t.Running (d.step a) := by
  obtain ⟨here, stop, runs⟩ := running
  have aside := t.aside d other
  refine ⟨?_, aside.stop stop, aside.isFinished_eq.trans runs⟩
  by_cases own : a = .teardown
  · subst own
    exact (t.asked here (by simp [runs])).2.2
  · exact (d.teardown_step own).1.trans here

/-- At the stage of a thread for which it need not wait, the teardown gets on. -/
theorem ready_lowers (ready : t.Ready d) :
    d.handle.teardown.rank < (d.step .teardown).handle.teardown.rank ∨
      (t.stream (d.step .teardown)).distance (d.step .teardown).kernel <
        (t.stream d).distance d.kernel := by
  obtain ⟨here, free⟩ := ready
  cases ended : (t.stream d).stop && (t.stream d).isFinished
  · obtain ⟨asked, kernel, -⟩ := t.asked here ended
    have running : (t.stream d).stop = false := by
      rcases free with running | finished
      · exact running
      · simpa [finished] using ended
    rw [asked, kernel]
    exact .inr (EventStream.distance_requestStop running)
  · exact .inl (here ▸ t.passed here ended)

/-- At its stage of the teardown a poll thread helps, or the teardown does. -/
theorem ready_or_running (here : d.handle.teardown = t.stage) : t.Ready d ∨ t.Running d := by
  cases stop : (t.stream d).stop
  · exact .inl ⟨here, .inl stop⟩
  · cases ended : (t.stream d).isFinished
    · exact .inr ⟨here, stop, ended⟩
    · exact .inl ⟨here, .inr ended⟩

end PollThread

/-- A thread brings a close nearer to its end at its next turn. -/
inductive Helps (d : Deployment) : Actor → Prop
  | askExits (ready : exitThread.Ready d) : Helps d .teardown
  | askQueued (ready : queuedThread.Ready d) : Helps d .teardown
  | pollExits (running : exitThread.Running d) : Helps d .pollExits
  | pollQueued (running : queuedThread.Running d) : Helps d .pollQueued
  /-- The teardown closes the gate, sets the stop flag behind it, or finds that the flush thread has
  ended. -/
  | shut (here : d.handle.teardown = .dispatch)
      (free : d.handle.dispatch.gate = .requested → d.handle.dispatch.inside = 0)
      (ready : d.handle.dispatch.stop = true → d.handle.dispatch.isFinished = true) :
      Helps d .teardown
  /-- A send leaves the gate. -/
  | leave {n : Nat} {dec : Decision} (here : d.handle.teardown = .dispatch)
      (gate : d.handle.dispatch.gate = .requested) (found : d.senders[n]? = some (.inside dec)) :
      Helps d (.dispatch (.send n))
  /-- The send of the loop leaves the gate. -/
  | leaveLoop {p : PlacementLoop} {dec : Decision} (here : d.handle.teardown = .dispatch)
      (gate : d.handle.dispatch.gate = .requested) (loop : d.loop = some p)
      (found : p.phase = .sending (.inside dec)) : Helps d .place
  /-- The flush thread gets on. -/
  | flush (here : d.handle.teardown = .dispatch) (stop : d.handle.dispatch.stop = true)
      (runs : d.handle.dispatch.isFinished = false) : Helps d (.dispatch .flush)
  /-- The teardown releases something. -/
  | release (late : 4 ≤ d.handle.teardown.rank) (undone : d.handle.teardown ≠ .done) :
      Helps d .teardown
  /-- A send finds the gate closed. -/
  | answer {n : Nat} {p : Sender} (done : d.handle.teardown = .done)
      (found : d.senders[n]? = some p) (pends : p.pends = true) : Helps d (.dispatch (.send n))

/-- The threads that a close among a number of sends depends on. -/
def closers (senders : Nat) : List Actor :=
  [.teardown, .pollExits, .pollQueued, .place, .dispatch .flush] ++
    (List.range senders).map fun n => .dispatch (.send n)

/-- A close has ended and every send has returned. -/
def Settled (d : Deployment) : Prop :=
  d.handle.teardown = .done ∧ ∀ p ∈ d.senders, p.pends = false

/-- A send that is not at its turn stays where it is. -/
theorem sender_step {n : Nat} {p : Sender} (found : d.senders[n]? = some p) {a : Actor}
    (other : a ≠ .dispatch (.send n)) : (d.step a).senders[n]? = some p := by
  by_cases send : ∃ m, a = .dispatch (.send m)
  · obtain ⟨m, rfl⟩ := send
    have apart : m ≠ n := by
      rintro rfl
      exact other rfl
    simp only [step, Line.advance, Line.sendStep, setLine, line]
    split
    · exact found
    · rw [List.getElem?_set_ne apart]
      exact found
  · rw [d.senders_step fun m own => send ⟨m, own⟩]
    exact found

/-- A loop that is not at its turn stays where it is. -/
theorem loop_step (d : Deployment) {a : Actor} (other : a ≠ .place) :
    (d.step a).loop = d.loop := by
  cases a with
  | place => exact absurd rfl other
  | teardown | pollExits | pollQueued => rfl
  | dispatch a => cases a <;> rfl
  | call n =>
    simp only [step]
    split <;> rfl

/-- The stage of the dispatch stream is left by the teardown when the flush thread has ended. -/
theorem waits_dispatch (here : d.handle.teardown = .dispatch)
    (unclosed : d.handle.dispatch.isClosed = false) :
    (d.step .teardown).handle.teardown = .dispatch ∧
      (d.step .teardown).handle.dispatch = d.handle.dispatch.closeStep := by
  simp [step, Handle.teardownStep, here, unclosed]

/-- While a send is behind a gate that is asked for, everybody else leaves that so. -/
theorem kept_step (here : d.handle.teardown = .dispatch)
    (gate : d.handle.dispatch.gate = .requested) (waits : d.handle.dispatch.inside ≠ 0)
    (a : Actor) :
    (d.step a).handle.teardown = .dispatch ∧ (d.step a).handle.dispatch.gate = .requested := by
  by_cases own : a = .teardown
  · subst own
    have unclosed : d.handle.dispatch.isClosed = false := by simp [isClosed, gate]
    obtain ⟨there, closing⟩ := waits_dispatch here unclosed
    refine ⟨there, ?_⟩
    rw [closing]
    simp [closeStep, gate, waits]
  · exact ⟨(d.teardown_step own).1.trans here, (d.turn_dispatch own).gate_eq.trans gate⟩

/-- A send that is behind the gate is counted there. -/
theorem Manned.inside_ne (m : d.Manned) {n : Nat} {dec : Decision}
    (found : d.senders[n]? = some (.inside dec)) : d.handle.dispatch.inside ≠ 0 := by
  obtain ⟨before, after, split⟩ := List.append_of_mem (List.mem_of_getElem? found)
  have counted := Line.behind_split (l := d.line) split
  rw [m.inside, behind, counted, Sender.behind]
  omega

theorem Manned.inside_ne_loop (m : d.Manned) {p : PlacementLoop} {dec : Decision}
    (loop : d.loop = some p) (found : p.phase = .sending (.inside dec)) :
    d.handle.dispatch.inside ≠ 0 := by
  rw [m.inside, behind, loop]
  simp [found, PlacePhase.behind, Sender.behind]

namespace Closing

/-- **Nothing that others do takes its chance away from a thread that helps.** -/
theorem lasts (c : Closing senders d) {a b : Actor} (helps : Helps d a) (other : b ≠ a) :
    Helps (d.step b) a := by
  -- a thread helps by what its own stream is like, which others leave alone, and by the stage of
  -- the teardown, which only the teardown leaves
  cases helps with
  | askExits ready => exact .askExits (PollThread.ready_step ready other)
  | askQueued ready => exact .askQueued (PollThread.ready_step ready other)
  | pollExits running => exact .pollExits (PollThread.running_step running other)
  | pollQueued running => exact .pollQueued (PollThread.running_step running other)
  | shut here free ready =>
    have turn := d.turn_dispatch other
    refine .shut ((d.teardown_step other).1.trans here) ?_ ?_
    · intro gate
      rw [turn.gate_eq] at gate
      have fewer := turn.inside_le (by simp [gate])
      have none := free gate
      omega
    · rw [turn.stop_eq]
      exact fun stop => turn.isFinished (ready stop)
  | leave here gate found =>
    obtain ⟨here', gate'⟩ := kept_step here gate (c.manned.inside_ne found) b
    exact .leave here' gate' (sender_step found other)
  | leaveLoop here gate loop found =>
    obtain ⟨here', gate'⟩ := kept_step here gate (c.manned.inside_ne_loop loop found) b
    exact .leaveLoop here' gate' ((d.loop_step other).trans loop) found
  | flush here stop runs =>
    have same := dispatch_step c.manned c.gated c.fenced stop other
    refine .flush ?_ (same ▸ stop) (same ▸ runs)
    by_cases own : b = .teardown
    · subst own
      exact (waits_dispatch here (by simp [isClosed, runs])).1
    · exact (d.teardown_step own).1.trans here
  | release late undone =>
    have same := (d.teardown_step other).1
    exact .release (same ▸ late) (same ▸ undone)
  | answer done found pends =>
    refine .answer ?_ (sender_step found other) pends
    by_cases own : b = .teardown
    · subst own
      simp [Deployment.step, Handle.teardownStep, done]
    · exact (d.teardown_step own).1.trans done

/-- A send that leaves a gate that is asked for. -/
theorem leaves {a : Actor} (c : Closing senders d) (gate : d.handle.dispatch.gate = .requested)
    (waits : d.handle.dispatch.inside ≠ 0)
    (left : (d.step a).handle.dispatch =
      { d.handle.dispatch with
        inside := d.handle.dispatch.inside - 1
        queue := (d.step a).handle.dispatch.queue }) :
    (d.step a).distance < d.distance := by
  refine (c.nears a).distance_lt (.inr (.inr (.inl ?_)))
  rw [left, d.length_senders_step a]
  simp only [DispatchStream.distance, gate]
  omega

/-- **A thread that helps brings the close nearer to its end.** -/
theorem lowers (c : Closing senders d) {a : Actor} (helps : Helps d a) :
    (d.step a).distance < d.distance := by
  have nears := c.nears a
  have crowd := d.length_senders_step a
  cases helps with
  | askExits ready =>
    rcases PollThread.ready_lowers ready with later | nearer
    · exact nears.distance_lt (.inr (.inr (.inr (.inr (.inl later)))))
    · exact nears.distance_lt (.inl nearer)
  | askQueued ready =>
    rcases PollThread.ready_lowers ready with later | nearer
    · exact nears.distance_lt (.inr (.inr (.inr (.inr (.inl later)))))
    · exact nears.distance_lt (.inr (.inl nearer))
  | pollExits running =>
    exact nears.distance_lt
      (.inl (exitThread.distance_own_lt c.staged c.manned running.2.1 running.2.2))
  | pollQueued running =>
    exact nears.distance_lt
      (.inr (.inl (queuedThread.distance_own_lt c.staged c.manned running.2.1 running.2.2)))
  | shut here free ready =>
    -- the teardown closes the stream, unless it is closed already and the stage is left
    cases closed : d.handle.dispatch.isClosed
    · have unstopped : d.handle.dispatch.gate = .closed → d.handle.dispatch.stop = false := by
        intro gate
        cases stop : d.handle.dispatch.stop
        · rfl
        · simp [isClosed, gate, stop, ready stop] at closed
      refine nears.distance_lt (.inr (.inr (.inl ?_)))
      rw [(waits_dispatch here closed).2, crowd]
      exact distance_closeStep c.manned.inside_le free unstopped
    · refine nears.distance_lt (.inr (.inr (.inr (.inr (.inl ?_)))))
      simp [Deployment.step, Handle.teardownStep, here, closed, Teardown.rank]
  | @leave n dec here gate found =>
    refine c.leaves gate (c.manned.inside_ne found) ?_
    simp only [Deployment.step, Line.advance, Line.sendStep, setLine, line, found]
    exact sendStep_inside d.handle.dispatch dec
  | @leaveLoop p dec here gate loop found =>
    refine c.leaves gate (c.manned.inside_ne_loop loop found) ?_
    simp only [Deployment.step, loop, PlacementLoop.step, found]
    exact sendStep_inside d.handle.dispatch dec
  | flush here stop runs =>
    refine nears.distance_lt (.inr (.inr (.inl ?_)))
    rw [crowd]
    exact (d.handle.dispatch.advance_move d.kernel).distance_lt (c.fenced.stopped stop) stop runs
  | release late undone =>
    rcases (d.handle.teardownStep_move d.kernel).releases late undone with later | fewer
    · exact nears.distance_lt (.inr (.inr (.inr (.inr (.inl later)))))
    · exact nears.distance_lt (.inr (.inr (.inr (.inl fewer))))
  | @answer n p done found pends =>
    -- the gate is closed and nobody is behind it
    have gate := c.gated.shut (by simp [done, Teardown.rank])
    have outside : p.behind = 0 := by
      refine Classical.byContradiction fun inside => ?_
      cases p with
      | inside dec => exact c.manned.inside_ne found (c.gated.empty gate)
      | atGate | returned => exact inside rfl
    have counted := unanswered_send found
    refine nears.distance_lt (.inr (.inr (.inr (.inr (.inr ?_)))))
    rcases sendStep_of_closed gate outside with ⟨dec, rfl, turned⟩ | ⟨told, rfl, -⟩
    · simp [turned, Sender.pends] at counted
      omega
    · cases pends

/-- **As long as a close has not ended, or a send has not returned, some thread helps.** -/
theorem found (c : Closing senders d) (unsettled : ¬ d.Settled) :
    ∃ a ∈ closers senders, Helps d a := by
  have among {n : Nat} {p : Sender} (at_ : d.senders[n]? = some p) :
      Actor.dispatch (.send n) ∈ closers senders := by
    have bound := (List.getElem?_eq_some_iff.mp at_).1
    rw [c.crowd] at bound
    simp [closers, bound]
  have first : Actor.teardown ∈ closers senders := by simp [closers]
  -- in each stage: who is it that the teardown waits for?
  rcases here : d.handle.teardown with - | - | - | - | - | - | - | -
  case notBegun =>
    have begun := c.begun
    simp [here, Teardown.rank] at begun
  case exits =>
    rcases exitThread.ready_or_running here with ready | running
    · exact ⟨_, first, .askExits ready⟩
    · exact ⟨_, by simp [closers], .pollExits running⟩
  case dispatch =>
    by_cases waits : d.handle.dispatch.gate = .requested ∧ d.handle.dispatch.inside ≠ 0
    · -- a send is behind the gate, or the loop is
      by_cases others : d.line.behind = 0
      · have counted := c.manned.inside
        rcases loop : d.loop with - | p
        · simp [behind, loop, others] at counted
          exact absurd counted waits.2
        · obtain ⟨dec, sends⟩ := p.phase.exists_inside fun outside => waits.2 (by
            simp [counted, behind, loop, others, outside])
          exact ⟨_, by simp [closers], .leaveLoop here waits.1 loop sends⟩
      · obtain ⟨n, dec, at_⟩ := d.line.exists_inside others
        exact ⟨_, among at_, .leave here waits.1 at_⟩
    · -- nobody holds up the gate: the flush thread runs out, or the teardown goes on
      by_cases running : d.handle.dispatch.stop = true ∧ d.handle.dispatch.isFinished = false
      · exact ⟨_, by simp [closers], .flush here running.1 running.2⟩
      · refine ⟨_, first, .shut here (fun gate => ?_) fun stop => ?_⟩
        · exact Classical.byContradiction fun none => waits ⟨gate, none⟩
        · cases ended : d.handle.dispatch.isFinished
          · exact absurd ⟨stop, ended⟩ running
          · rfl
  case queued =>
    rcases queuedThread.ready_or_running here with ready | running
    · exact ⟨_, first, .askQueued ready⟩
    · exact ⟨_, by simp [closers], .pollQueued running⟩
  case done =>
    -- the close has ended, so some send has not returned, and the gate turns it away
    have pending : ∃ p ∈ d.senders, p.pends = true := by
      refine Classical.byContradiction fun none => unsettled ⟨here, fun p mem => ?_⟩
      cases pends : p.pends
      · rfl
      · exact absurd ⟨p, mem, pends⟩ none
    obtain ⟨p, mem, pends⟩ := pending
    obtain ⟨n, at_⟩ := List.getElem?_of_mem mem
    exact ⟨_, among at_, .answer here at_ pends⟩
  all_goals
    exact ⟨_, first, .release (by simp [here, Teardown.rank]) (by simp [here])⟩

/-- What has settled stays so. -/
theorem settled_step (c : Closing senders d) (settled : d.Settled) (a : Actor) :
    (d.step a).Settled := by
  have nears := c.nears a
  have none : d.unanswered = 0 := by
    simpa [unanswered, List.countP_eq_zero] using settled.2
  have none' : (d.step a).unanswered = 0 := by
    have fewer := nears.unanswered
    omega
  refine ⟨?_, by simpa [unanswered, List.countP_eq_zero] using none'⟩
  have later := nears.rank
  rw [settled.1] at later
  cases there : (d.step a).handle.teardown <;> simp [there, Teardown.rank] at later ⊢

theorem upTo (c : Closing senders d) (turn : Nat → Actor) (n : Nat) :
    Closing senders (d.upTo turn n) :=
  good_upTo (fun _ a closing => closing.step a) c n

/-- **Every fair schedule brings a close to its end and every send to its return.** -/
theorem settles (c : Closing senders d) {turn : Nat → Actor} (fair : Fair (closers senders) turn) :
    ∃ n, ∀ m, n ≤ m → (d.upTo turn m).Settled := by
  obtain ⟨n, settled⟩ : ∃ n, Settled (d.upTo turn n) :=
    fair.reaches (fun _ a (c : Closing senders _) => c.step a)
      (fun _ a c => (c.nears a).distance_le) (fun _ _ _ c helps other => c.lasts helps other)
      (fun _ _ c helps => c.lowers helps) (fun _ c unsettled => c.found unsettled) c
  refine ⟨n, fun m later => ?_⟩
  induction later with
  | refl => exact settled
  | step _ ih => exact (c.upTo turn _).settled_step ih _

/-- **A close that has begun can be brought to its end by the threads alone.** -/
theorem exists_end (c : Closing senders d) :
    ∃ turns : List Actor, (d.after turns).handle.teardown = .done := by
  obtain ⟨turn, fair⟩ : ∃ turn, Fair (closers senders) turn := ⟨_, fair_circle .teardown _⟩
  obtain ⟨n, settled⟩ := c.settles fair
  refine ⟨(List.range n).map turn, ?_⟩
  rw [after_range]
  exact (settled n (Nat.le_refl n)).1

end Closing

/-- Nothing of a close is left: the teardown is done, the three threads have ended, and every send
has its answer. -/
structure Over (d : Deployment) : Prop where
  done : d.handle.teardown = .done
  exits : d.handle.exits.isFinished = true
  queued : d.handle.queued.isFinished = true
  dispatch : d.handle.dispatch.isFinished = true
  answered : ∀ p ∈ d.senders, ∃ told, p = .returned told

/-- When a close has settled, all threads have ended: the teardown has left each of their stages. -/
theorem Closing.over_of_settled (c : Closing senders d) (settled : d.Settled) : Over d where
  done := settled.1
  exits := c.staged.exitsDone (by simp [settled.1, Teardown.rank])
  queued := c.staged.queuedDone (by simp [settled.1, Teardown.rank])
  dispatch := c.staged.dispatchDone (by simp [settled.1, Teardown.rank])
  answered p mem := by
    have answered := settled.2 p mem
    cases p with
    | returned told => exact ⟨told, rfl⟩
    | atGate | inside => cases answered

end Deployment

end SchedPlane
