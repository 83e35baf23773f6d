/-
SchedPlane/Proofs/StoppedWorkers.lean

What a worker still does once its stop flag is set.

A poll thread neither gains nor loses a record: what it has handled, what it holds and what waits
in its ring add up to the same number at each step.  When it was asked to stop, each of its own
steps lowers `EventStream.remaining` and none begins a wait for room, so both the number of its
steps and the number of its waits are bounded by where it was.  The flush thread has the same
two halves: what it has settled, what it holds and what is queued add up, and it passes the place
where it submits once at most.

The other threads matter little.  A poll thread loses only queued items and time to them
(`EventStream.Aside`), and a dispatch stream that is being stopped has its gate shut and nobody
behind it, so they do nothing to it at all.
-/
import SchedPlane.Proofs.KernelRuns
import SchedPlane.Proofs.ThreadSteps

namespace SchedPlane

open DispatchStream

/-! ### A poll thread -/

/-- Whether the thread is inside a wait for room, as a number. -/
def PollPhase.waits {α : Type} : PollPhase α → Nat
  | .awaiting _ => 1
  | _ => 0

namespace EventStream

variable {α : Type} {k k' : Kernel} {s s' : EventStream α}

/-- The records that the thread is done with. -/
def handled (s : EventStream α) : Nat :=
  s.counters.delivered + s.counters.malformed + s.counters.discarded

/-- The records that the thread has before it: the one that it holds and those in its ring. -/
def outstanding (k : Kernel) (s : EventStream α) : Nat :=
  s.phase.held.length + (k.waiting s.map).length

/-- What other threads do to a poll thread: they take from its queue and ask it to stop. -/
structure Aside (s s' : EventStream α) : Prop where
  frame : s' = { s with queue := s'.queue, stop := s'.stop }
  stop : s.stop = true → s'.stop = true

namespace Aside

theorem refl (s : EventStream α) : s.Aside s :=
  ⟨rfl, fun stop => stop⟩

theorem requestStop (s : EventStream α) : s.Aside s.requestStop :=
  ⟨rfl, fun _ => rfl⟩

theorem took (s : EventStream α) (queue : List α) : s.Aside { s with queue } :=
  ⟨rfl, fun stop => stop⟩

theorem map_eq (a : s.Aside s') : s'.map = s.map := by
  rw [a.frame]

theorem phase_eq (a : s.Aside s') : s'.phase = s.phase := by
  rw [a.frame]

theorem isFinished_eq (a : s.Aside s') : s'.isFinished = s.isFinished := by
  simp only [EventStream.isFinished, a.phase_eq]

/-- Others do not touch what a thread has handled or has before it. -/
theorem account (a : s.Aside s') (waiting : k'.waiting s.map = k.waiting s.map) :
    s'.handled + s'.outstanding k' = s.handled + s.outstanding k := by
  have counters : s'.counters = s.counters := by rw [a.frame]
  simp only [handled, outstanding, counters, a.phase_eq, a.map_eq, waiting]

theorem remaining_eq (a : s.Aside s') (waiting : k'.waiting s.map = k.waiting s.map)
    (stop : s.stop = true) : s'.remaining k' = s.remaining k := by
  have polls : s'.failingPolls = s.failingPolls := by rw [a.frame]
  simp only [remaining, a.map_eq, waiting, polls, a.phase_eq, stop, a.stop stop]

end Aside

/-- A thread with no step before it has ended. -/
theorem isFinished_of_remaining (none : s.remaining k = 0) : s.isFinished = true := by
  have weightless : weight s.stop s.phase = 0 := by
    simp only [remaining] at none
    omega
  rcases here : s.phase with - | - | item | item | item | - <;>
    cases stop : s.stop <;> simp [weight, isFinished, here, stop] at weightless ⊢

variable [EventRecord α]

/-- Each record is read once, and each one that was read is held or handled. -/
theorem PollMove.account {pending pending' : List Bytes} (move : PollMove pending s pending' s') :
    s'.handled + (s'.phase.held.length + pending'.length) =
      s.handled + (s.phase.held.length + pending.length) := by
  cases move with
  | goOn held =>
    rw [held]
    rfl
  | read next good free | reject next bad free =>
    rw [free, next]
    simp only [handled, PollPhase.held, List.length_nil, List.length_cons]
    omega
  | stall offers =>
    rw [offers]
    rfl
  | deliver holds =>
    rw [holds]
    simp only [EventStream.deliver, handled, PollPhase.held, List.length_nil, List.length_cons]
    omega
  | discard holds =>
    rw [holds]
    simp only [EventStream.discard, handled, PollPhase.held, List.length_nil, List.length_cons]
    omega

/-- A step of the thread handles the records that it takes off its ring, and no others. -/
theorem account_advance (k : Kernel) (s : EventStream α) :
    (s.advance k).2.handled + (s.advance k).2.outstanding (s.advance k).1 =
      s.handled + s.outstanding k := by
  have move := advance_move k s
  have account := move.account
  simp only [outstanding, move.map_eq]
  exact account

/-- A thread that was asked to stop gets nearer to its end by each step. -/
theorem remaining_lt_of_stop (ring : (k.rings.get? s.map).isSome) (stop : s.stop = true)
    (runs : s.isFinished = false) : (s.advance k).2.remaining (s.advance k).1 < s.remaining k := by
  refine remaining_advance ?_
  cases rests : s.restsOn k
  · rfl
  · cases runs.symm.trans (isFinished_of_restsOn ring stop rests)

/-- A thread that was asked to stop begins no wait for room. -/
theorem waits_pollStep (r : Ring) (stop : s.stop = true) : (s.pollStep r).2.phase.waits = 0 := by
  rcases here : s.phase with - | - | item | item | item | -
  case reading =>
    simp only [pollStep, here]
    split
    · unfold accept
      split <;> rfl
    · rfl
  case finished => simp [pollStep, here, PollPhase.waits]
  all_goals
    simp only [pollStep, here, stop, if_true]
    first | rfl | (split <;> rfl)

theorem waits_advance (ring : (k.rings.get? s.map).isSome) (stop : s.stop = true) :
    (s.advance k).2.phase.waits = 0 := by
  obtain ⟨r, at_⟩ := Option.isSome_iff_exists.mp ring
  simp only [advance, at_]
  exact waits_pollStep r stop

end EventStream

/-! ### What the other threads do to it -/

/-- The loop puts nothing on a ring and takes nothing off one. -/
theorem PlacementLoop.waiting_step (k : Kernel) (h : Handle) (p : PlacementLoop) (map : String) :
    (p.step k h).1.waiting map = k.waiting map := by
  have move := p.step_move k h
  generalize p.answers k h = told, p.step k h = out at move ⊢
  obtain ⟨k', h', p'⟩ := out
  cases move with
  | ask _ keeps | place _ keeps | giveUp _ keeps => exact keeps.waiting map
  | look | readExit | take | send | rest => rfl

theorem PlacementLoop.faults_step (k : Kernel) (h : Handle) (p : PlacementLoop) :
    (p.step k h).1.faults = k.faults := by
  have move := p.step_move k h
  generalize p.answers k h = told, p.step k h = out at move ⊢
  obtain ⟨k', h', p'⟩ := out
  cases move with
  | ask _ keeps | place _ keeps | giveUp _ keeps => exact keeps.faults
  | look | readExit | take | send | rest => rfl

/-- The loop takes exit events from their queue. -/
theorem PlacementLoop.exits_step (k : Kernel) (h : Handle) (p : PlacementLoop) :
    h.exits.Aside (p.step k h).2.1.exits := by
  have move := p.step_move k h
  generalize p.answers k h = told, p.step k h = out at move ⊢
  obtain ⟨k', h', p'⟩ := out
  cases move with
  | readExit here front =>
    unfold EventStream.take? at front
    split at front
    · cases front
    · cases front
      exact .took _ _
  | look | take | ask | place | giveUp | send | rest => exact .refl _

/-- The loop takes tasks from their queue. -/
theorem PlacementLoop.queued_step (k : Kernel) (h : Handle) (p : PlacementLoop) :
    h.queued.Aside (p.step k h).2.1.queued := by
  have move := p.step_move k h
  generalize p.answers k h = told, p.step k h = out at move ⊢
  obtain ⟨k', h', p'⟩ := out
  cases move with
  | take => exact .took _ _
  | look | readExit | ask | place | giveUp | send | rest => exact .refl _

/-- The teardown asks the poll threads to stop. -/
theorem Handle.TeardownMove.polls {k k' : Kernel} {h h' : Handle}
    (move : h.TeardownMove k k' h') :
    h.exits.Aside h'.exits ∧ h.queued.Aside h'.queued := by
  cases move with
  | askExits => exact ⟨.requestStop _, .refl _⟩
  | askQueued => exact ⟨.refl _, .requestStop _⟩
  | rest | passExits | closeDispatch | passDispatch | passQueued | dropScheduler | dropProbe
  | passProbes | unload => exact ⟨.refl _, .refl _⟩

namespace Deployment

variable {d : Deployment}

/-- Only the thread of a stream touches its ring. -/
theorem waiting_step (s : d.handle.Staged) {a : Actor} {map : String}
    (exits : a = .pollExits → Contract.exit ≠ map)
    (queued : a = .pollQueued → Contract.queued ≠ map)
    (flush : a = .dispatch .flush → Contract.dispatched ≠ map) :
    (d.step a).kernel.waiting map = d.kernel.waiting map := by
  cases a with
  | teardown => exact (d.handle.teardownStep_move d.kernel).keepsRings.waiting map
  | pollExits => exact EventStream.waiting_advance_of_ne (s.exitsMap ▸ exits rfl)
  | pollQueued => exact EventStream.waiting_advance_of_ne (s.queuedMap ▸ queued rfl)
  | dispatch a =>
    cases a with
    | flush => exact d.handle.dispatch.waiting_advance_of_ne (s.dispatchMap ▸ flush rfl)
    | send n => rfl
  | call n =>
    simp only [step]
    split
    · rfl
    · exact (Call.keepsRings_step _ _ _ _).waiting map
  | place =>
    simp only [step]
    split
    · rfl
    · next p _ => exact p.waiting_step d.kernel d.handle map

/-- Of the exit stream, others move nothing but the queue and the stop flag. -/
theorem aside_exits (d : Deployment) {a : Actor} (other : a ≠ .pollExits) :
    d.handle.exits.Aside (d.step a).handle.exits := by
  cases a with
  | teardown => exact (d.handle.teardownStep_move d.kernel).polls.1
  | pollExits => exact absurd rfl other
  | pollQueued => exact .refl _
  | dispatch a => cases a <;> exact .refl _
  | call n =>
    simp only [step]
    split <;> exact .refl _
  | place =>
    simp only [step]
    split
    · exact .refl _
    · next p _ => exact p.exits_step d.kernel d.handle

/-- Of the queued stream, others move nothing but the queue and the stop flag. -/
theorem aside_queued (d : Deployment) {a : Actor} (other : a ≠ .pollQueued) :
    d.handle.queued.Aside (d.step a).handle.queued := by
  cases a with
  | teardown => exact (d.handle.teardownStep_move d.kernel).polls.2
  | pollQueued => exact absurd rfl other
  | pollExits => exact .refl _
  | dispatch a => cases a <;> exact .refl _
  | call n =>
    simp only [step]
    split <;> exact .refl _
  | place =>
    simp only [step]
    split
    · exact .refl _
    · next p _ => exact p.queued_step d.kernel d.handle

/-- Only the teardown asks a poll thread to stop. -/
theorem stops_step (d : Deployment) {a : Actor} (other : a ≠ .teardown) :
    (d.step a).handle.exits.stop = d.handle.exits.stop ∧
      (d.step a).handle.queued.stop = d.handle.queued.stop := by
  cases a with
  | teardown => exact absurd rfl other
  | pollExits => exact ⟨(EventStream.advance_move d.kernel d.handle.exits).stop_eq, rfl⟩
  | pollQueued => exact ⟨rfl, (EventStream.advance_move d.kernel d.handle.queued).stop_eq⟩
  | dispatch a => cases a <;> exact ⟨rfl, rfl⟩
  | call n => exact ⟨(d.step_call n).2.exits.stop, (d.step_call n).2.queued.stop⟩
  | place => exact ⟨d.step_place.2.exits.stop, d.step_place.2.queued.stop⟩

/-- A poll thread of a deployment: the stream that it serves, whose ring nobody else touches and
with which the others do no more than `EventStream.Aside` says. -/
structure PollThread (α : Type) [EventRecord α] where
  actor : Actor
  stream : Deployment → EventStream α
  own : ∀ d : Deployment, stream (d.step actor) = ((stream d).advance d.kernel).2
  ownKernel : ∀ d : Deployment, (d.step actor).kernel = ((stream d).advance d.kernel).1
  aside : ∀ (d : Deployment) {a : Actor}, a ≠ actor → (stream d).Aside (stream (d.step a))
  waiting : ∀ {d : Deployment} {a : Actor}, d.handle.Staged → a ≠ actor →
    (d.step a).kernel.waiting (stream d).map = d.kernel.waiting (stream d).map
  ring : ∀ {d : Deployment}, d.handle.Staged → d.Manned →
    (d.kernel.rings.get? (stream d).map).isSome
  stopped : ∀ (d : Deployment) {a : Actor}, a ≠ .teardown →
    (stream (d.step a)).stop = (stream d).stop
  /-- The stage of the teardown that waits for the end of the thread. -/
  stage : Teardown
  asked : ∀ {d : Deployment}, d.handle.teardown = stage →
    ((stream d).stop && (stream d).isFinished) = false →
      stream (d.step .teardown) = (stream d).requestStop ∧
        (d.step .teardown).kernel = d.kernel ∧ (d.step .teardown).handle.teardown = stage
  passed : ∀ {d : Deployment}, d.handle.teardown = stage →
    ((stream d).stop && (stream d).isFinished) = true →
      stage.rank < (d.step .teardown).handle.teardown.rank

/-- The poll thread of the exit stream. -/
def exitThread : PollThread ExitEvent where
  actor := .pollExits
  stream d := d.handle.exits
  own _ := rfl
  ownKernel _ := rfl
  aside := aside_exits
  waiting s other := by
    rw [s.exitsMap]
    exact waiting_step s (fun own => absurd own other) (fun _ => by decide) (fun _ => by decide)
  ring s m := s.exitsMap ▸ m.exits
  stopped d _ other := (d.stops_step other).1
  stage := .exits
  asked here waits := by simp [step, Handle.teardownStep, here, waits]
  passed here ended := by simp [step, Handle.teardownStep, here, ended, Teardown.rank]

/-- The poll thread of the queued stream. -/
def queuedThread : PollThread Task where
  actor := .pollQueued
  stream d := d.handle.queued
  own _ := rfl
  ownKernel _ := rfl
  aside := aside_queued
  waiting s other := by
    rw [s.queuedMap]
    exact waiting_step s (fun _ => by decide) (fun own => absurd own other) (fun _ => by decide)
  ring s m := s.queuedMap ▸ m.queued
  stopped d _ other := (d.stops_step other).2
  stage := .queued
  asked here waits := by simp [step, Handle.teardownStep, here, waits]
  passed here ended := by simp [step, Handle.teardownStep, here, ended, Teardown.rank]

/-! ### What a poll thread still does -/

/-- What a thread spends at its turns in a list of turns. -/
def spent (cost : Deployment → Nat) (thread : Actor) : Deployment → List Actor → Nat
  | _, [] => 0
  | d, a :: rest => (if a = thread then cost d else 0) + spent cost thread (d.step a) rest

/-- The deployment after a list of turns. -/
def after (d : Deployment) (turns : List Actor) : Deployment :=
  turns.foldl step d

theorem after_cons (d : Deployment) (a : Actor) (rest : List Actor) :
    d.after (a :: rest) = (d.step a).after rest :=
  rfl

namespace PollThread

variable {α : Type} [EventRecord α] (t : PollThread α)

/-- The turns of the thread before its end. -/
def steps : Deployment → List Actor → Nat :=
  spent (fun d => if (t.stream d).isFinished then 0 else 1) t.actor

/-- The turns of the thread inside a wait for room. -/
def waits : Deployment → List Actor → Nat :=
  spent (fun d => (t.stream d).phase.waits) t.actor

/-- What has become of a poll thread that was asked to stop, and what it has spent. -/
structure Winds (d d' : Deployment) (turns steps waits : Nat) : Prop where
  stop : (t.stream d').stop = true
  account : (t.stream d').handled + (t.stream d').outstanding d'.kernel =
    (t.stream d).handled + (t.stream d).outstanding d.kernel
  falls : steps + (t.stream d').remaining d'.kernel ≤ (t.stream d).remaining d.kernel
  waited : waits + (t.stream d').phase.waits ≤ (t.stream d).phase.waits
  turned : (t.stream d').isFinished = true ∨ turns = steps
  ended : (t.stream d).isFinished = true → (t.stream d').isFinished = true

variable {t} {d' d'' : Deployment}

theorem Winds.refl (stop : (t.stream d).stop = true) : t.Winds d d 0 0 0 :=
  ⟨stop, rfl, by omega, by omega, .inr rfl, fun ended => ended⟩

/-- What two spells of turns spend adds up. -/
theorem Winds.trans {turns steps waits turns' steps' waits' : Nat}
    (first : t.Winds d d' turns steps waits) (next : t.Winds d' d'' turns' steps' waits') :
    t.Winds d d'' (turns + turns') (steps + steps') (waits + waits') where
  stop := next.stop
  account := next.account.trans first.account
  falls := by
    have before := first.falls
    have later := next.falls
    omega
  waited := by
    have before := first.waited
    have later := next.waited
    omega
  turned := by
    rcases first.turned with ended | before
    · exact .inl (next.ended ended)
    · exact next.turned.imp_right fun later => by rw [before, later]
  ended := next.ended ∘ first.ended

/-- A turn of the thread itself. -/
theorem winds_own (s : d.handle.Staged) (m : d.Manned) (stop : (t.stream d).stop = true) :
    t.Winds d (d.step t.actor) 1 (if (t.stream d).isFinished then 0 else 1)
      (t.stream d).phase.waits := by
  have ring := t.ring s m
  have move := EventStream.advance_move d.kernel (t.stream d)
  have account := EventStream.account_advance d.kernel (t.stream d)
  have waits := EventStream.waits_advance ring stop
  have nearer := EventStream.remaining_lt_of_stop ring stop
  have rests : (t.stream d).isFinished = true → ((t.stream d).advance d.kernel).2 = t.stream d :=
    fun ended => EventStream.advance_of_finished (EventStream.phase_of_isFinished ended)
  have stopped := move.stop_eq.trans stop
  simp only [← t.own, ← t.ownKernel] at account waits nearer rests stopped
  cases ended : (t.stream d).isFinished
  · have lower := nearer ended
    refine ⟨stopped, account, ?_, ?_, .inr rfl, fun e => ?_⟩
    · simp only [Bool.false_eq_true, if_false]
      omega
    · omega
    · cases ended.symm.trans e
  · -- it has ended, and the turn passes by
    have same := rests ended
    refine ⟨stopped, account, ?_, ?_, .inl (by rw [same]; exact ended), fun _ => ?_⟩
    · rw [same] at account ⊢
      simp only [EventStream.outstanding, EventStream.remaining, if_true] at account ⊢
      omega
    · omega
    · rw [same]
      exact ended

/-- A turn of another thread. -/
theorem winds_aside (s : d.handle.Staged) (stop : (t.stream d).stop = true) {a : Actor}
    (other : a ≠ t.actor) : t.Winds d (d.step a) 0 0 0 := by
  have aside := t.aside d other
  have waiting := t.waiting s other
  refine ⟨aside.stop stop, aside.account waiting, ?_, ?_, .inr rfl, ?_⟩
  · rw [aside.remaining_eq waiting stop]
    omega
  · rw [aside.phase_eq]
    omega
  · rw [aside.isFinished_eq]
    exact fun ended => ended

/-- **A poll thread that was asked to stop winds down**, whatever turns the threads get: each step
that it takes is paid from `EventStream.remaining`. -/
theorem winds (s : d.handle.Staged) (m : d.Manned) (stop : (t.stream d).stop = true)
    (turns : List Actor) :
    t.Winds d (d.after turns) (turns.count t.actor) (t.steps d turns) (t.waits d turns) := by
  induction turns generalizing d with
  | nil => exact .refl stop
  | cons a rest ih =>
    have later := fun stop => ih (d := d.step a) (staged_step s a) (m.step a) stop
    by_cases own : a = t.actor
    · subst own
      have first := winds_own s m stop
      have all := first.trans (later first.stop)
      rw [after_cons, List.count_cons_self, Nat.add_comm]
      simpa only [steps, waits, spent, if_true] using all
    · have first := winds_aside s stop own
      have all := first.trans (later first.stop)
      rw [after_cons, List.count_cons_of_ne own]
      simpa only [steps, waits, spent, own, if_false, Nat.zero_add] using all

/-- What is left to a poll thread that was asked to stop, whatever turns the threads get. -/
structure Ends (t : PollThread α) (d : Deployment) : Prop where
  /-- It takes finitely many steps. -/
  steps : ∀ turns, t.steps d turns ≤ (t.stream d).remaining d.kernel
  /-- So many turns of its own bring it to its end. -/
  finishes : ∀ turns, (t.stream d).remaining d.kernel ≤ turns.count t.actor →
    (t.stream (d.after turns)).isFinished = true
  /-- It handles no record but the one that it holds and those in its ring. -/
  handled : ∀ turns, (t.stream (d.after turns)).handled ≤
    (t.stream d).handled + (t.stream d).phase.held.length +
      (d.kernel.waiting (t.stream d).map).length
  /-- It waits for room once at most, namely when it is waiting already. -/
  waits : ∀ turns, t.waits d turns ≤ (t.stream d).phase.waits

variable (t) in
/-- What is left to a poll thread is read off its account, its measure and its waits. -/
theorem ends (s : d.handle.Staged) (m : d.Manned) (stop : (t.stream d).stop = true) :
    t.Ends d where
  steps turns := by
    have falls := (winds s m stop turns).falls
    omega
  finishes turns enough := by
    have w := winds s m stop turns
    rcases w.turned with ended | all
    · exact ended
    · have falls := w.falls
      exact EventStream.isFinished_of_remaining (k := (d.after turns).kernel) (by omega)
  handled turns := by
    have account := (winds s m stop turns).account
    simp only [EventStream.outstanding] at account
    omega
  waits turns := by
    have waited := (winds s m stop turns).waited
    omega

end PollThread

end Deployment

/-! ### The flush thread -/

/-- Whether the thread is about to submit, as a number. -/
def FlushPhase.submits : FlushPhase → Nat
  | .publishing _ => 1
  | _ => 0

/-- The submissions that the thread makes yet, once it was asked to stop. -/
def FlushPhase.submissions : FlushPhase → Nat
  | .waiting | .publishing _ => 1
  | _ => 0

theorem FlushPhase.submissions_le (phase : FlushPhase) : phase.submissions ≤ 1 := by
  cases phase <;> simp [submissions]

namespace DispatchStream

variable {s s' : DispatchStream} {answer : Kernel.SubmitAnswer}

/-- The decisions that are settled, under way or queued. -/
def accounted (s : DispatchStream) : Nat :=
  s.counters.delivered + s.counters.discarded + s.phase.held.length + s.phase.lost +
    s.queue.length

/-- No decision gets out of the account. -/
theorem FlushMove.account (move : FlushMove answer s s') : s'.accounted = s.accounted := by
  cases move with
  | look here | leave here | miss here | retry here =>
    simp [accounted, here, FlushPhase.held, FlushPhase.lost]
  | take here front =>
    simp only [accounted, here, front, FlushPhase.held, FlushPhase.lost, List.length_nil,
      List.length_cons]
    omega
  | submit here =>
    cases answer <;>
      simp only [accounted, answered, here, FlushPhase.held, FlushPhase.lost, List.length_nil,
        List.length_cons] <;> omega
  | giveUp here =>
    simp only [accounted, here, FlushPhase.held, FlushPhase.lost, List.length_nil,
      List.length_cons]
    omega
  | drain here =>
    simp only [accounted, here, FlushPhase.held, FlushPhase.lost, List.length_nil]
    omega
  | rest => rfl

/-- The steps of the flush thread to its end, once it was asked to stop. -/
def flushWeight : FlushPhase → Nat
  | .finished | .dead => 0
  | .draining => 1
  | .idle => 2
  | .stalled _ => 3
  | .publishing _ => 4
  | .waiting => 5

/-- A thread that was asked to stop gets nearer to its end by each step. -/
theorem FlushMove.falls (h : FlushMove answer s s') (stop : s.stop = true)
    (runs : s.isFinished = false) : flushWeight s'.phase < flushWeight s.phase := by
  cases h with
  | submit here => cases answer <;> simp [answered, flushWeight, here]
  | look _ running | retry _ running =>
    rw [stop] at running
    cases running
  | rest ended =>
    rw [runs] at ended
    cases ended
  | leave here | miss here | take here | giveUp here | drain here => simp [flushWeight, here]

theorem flushWeight_le (phase : FlushPhase) : flushWeight phase ≤ 5 := by
  cases phase <;> simp [flushWeight]

/-- A thread with no step before it has ended. -/
theorem isFinished_of_flushWeight (none : flushWeight s.phase = 0) : s.isFinished = true := by
  rcases here : s.phase with - | - | d | d | - | - | - <;>
    simp [flushWeight, isFinished, here] at none ⊢

/-- A thread that was asked to stop submits once at most. -/
theorem FlushMove.submits (move : FlushMove answer s s') (stop : s.stop = true) :
    s.phase.submits + s'.phase.submissions ≤ s.phase.submissions ∧
      s'.counters.delivered ≤ s.counters.delivered + s.phase.submits := by
  cases move with
  | submit here =>
    cases answer <;> simp [answered, here, FlushPhase.submits, FlushPhase.submissions]
  | look _ running | retry _ running =>
    rw [stop] at running
    cases running
  | rest ended =>
    rcases phase_of_isFinished ended with here | here <;>
      simp [here, FlushPhase.submits, FlushPhase.submissions]
  | leave here | miss here | take here | giveUp here | drain here =>
    simp [here, FlushPhase.submits, FlushPhase.submissions]

end DispatchStream

namespace Deployment

variable {d d' d'' : Deployment}

/-- No thread changes what the kernel fails at. -/
theorem faults_step (d : Deployment) (a : Actor) : (d.step a).kernel.faults = d.kernel.faults := by
  cases a with
  | teardown => exact (d.handle.teardownStep_move d.kernel).keepsRings.faults
  | pollExits | pollQueued => exact EventStream.faults_advance _ _
  | dispatch a =>
    cases a with
    | flush => exact DispatchStream.faults_advance _ _
    | send n => rfl
  | call n =>
    simp only [step]
    split
    · rfl
    · exact (Call.keepsRings_step _ _ _ _).faults
  | place =>
    simp only [step]
    split
    · rfl
    · next p _ => exact p.faults_step d.kernel d.handle

/-- The submissions of the flush thread. -/
def submissions : Deployment → List Actor → Nat :=
  spent (fun d => d.handle.dispatch.phase.submits) (.dispatch .flush)

/-- What has become of a flush thread that was asked to stop, after `turns` turns of its own and
with `submits` submissions. -/
structure FlushWinds (d d' : Deployment) (turns submits : Nat) : Prop where
  stop : d'.handle.dispatch.stop = true
  fenced : d'.handle.dispatch.Fenced
  faults : d'.kernel.faults = d.kernel.faults
  account : d'.handle.dispatch.accounted = d.handle.dispatch.accounted
  submitted : submits + d'.handle.dispatch.phase.submissions ≤ d.handle.dispatch.phase.submissions
  delivered : d'.handle.dispatch.counters.delivered ≤
    d.handle.dispatch.counters.delivered + submits
  falls : d'.handle.dispatch.isFinished = true ∨
    turns + flushWeight d'.handle.dispatch.phase ≤ flushWeight d.handle.dispatch.phase
  ended : d.handle.dispatch.isFinished = true → d'.handle.dispatch = d.handle.dispatch
  alive : d.kernel.faults.submitPanics = [] → d.handle.dispatch.phase ≠ .dead →
    d'.handle.dispatch.phase ≠ .dead

/-- A turn that leaves the stream alone costs the flush thread nothing. -/
theorem FlushWinds.aside (same : d'.handle.dispatch = d.handle.dispatch)
    (faults : d'.kernel.faults = d.kernel.faults) (f : d.handle.dispatch.Fenced)
    (stop : d.handle.dispatch.stop = true) : FlushWinds d d' 0 0 := by
  refine ⟨same ▸ stop, same ▸ f, faults, ?_, ?_, ?_, .inr ?_, fun _ => same, fun _ alive => ?_⟩ <;>
    rw [same]
  · omega
  · omega
  · omega
  · exact alive

theorem FlushWinds.own (f : d.handle.dispatch.Fenced) (stop : d.handle.dispatch.stop = true) :
    FlushWinds d (d.step (.dispatch .flush)) 1 d.handle.dispatch.phase.submits := by
  have move := d.handle.dispatch.advance_move d.kernel
  have submits := move.submits stop
  have rests := flushStep_of_isFinished (s := d.handle.dispatch)
  refine ⟨move.stop_eq.trans stop, f.turn (.flush move), d.faults_step _, move.account, submits.1,
    submits.2, ?_,
    fun ended => rests ended _, fun calm => ?_⟩
  · cases ended : d.handle.dispatch.isFinished
    · have falls := move.falls stop ended
      refine .inr ?_
      show 1 + flushWeight (d.handle.dispatch.advance d.kernel).2.phase ≤ _
      omega
    · exact .inl (move.isFinished ended)
  · exact move.alive (submitOn_ne_panicked calm _)

/-- What two spells of turns spend adds up. -/
theorem FlushWinds.trans {turns submits turns' submits' : Nat}
    (first : FlushWinds d d' turns submits) (next : FlushWinds d' d'' turns' submits') :
    FlushWinds d d'' (turns + turns') (submits + submits') where
  stop := next.stop
  fenced := next.fenced
  faults := next.faults.trans first.faults
  account := next.account.trans first.account
  submitted := by
    have before := first.submitted
    have later := next.submitted
    omega
  delivered := by
    have before := first.delivered
    have later := next.delivered
    omega
  falls := by
    rcases first.falls with ended | before
    · exact .inl (next.ended ended ▸ ended)
    · exact next.falls.imp_right fun later => by omega
  ended ended := by
    have same := first.ended ended
    exact (next.ended (same ▸ ended)).trans same
  alive calm alive := next.alive (first.faults ▸ calm) (first.alive calm alive)

/-- **A flush thread that was asked to stop winds down**, whatever turns the threads get: the
others leave its stream alone. -/
theorem flushWinds (m : d.Manned) (g : d.handle.Gated) (f : d.handle.dispatch.Fenced)
    (stop : d.handle.dispatch.stop = true) (turns : List Actor) :
    FlushWinds d (d.after turns) (turns.count (.dispatch .flush)) (d.submissions turns) := by
  induction turns generalizing d with
  | nil => exact .aside rfl rfl f stop
  | cons a rest ih =>
    have later := ih (m.step a) (gated_step g a) (fenced_step f a)
    by_cases own : a = .dispatch .flush
    · subst own
      have first := FlushWinds.own f stop
      have all := first.trans (later first.stop)
      rw [after_cons, List.count_cons_self, Nat.add_comm]
      simpa only [submissions, spent, if_true] using all
    · have first := FlushWinds.aside (dispatch_step m g f stop own) (d.faults_step a) f stop
      have all := first.trans (later first.stop)
      rw [after_cons, List.count_cons_of_ne own]
      simpa only [submissions, spent, own, if_false, Nat.zero_add] using all

/-- What is left to a flush thread that was asked to stop, whatever turns the threads get. -/
structure FlushEnds (d : Deployment) : Prop where
  /-- Five turns of its own bring it to its end. -/
  finishes : ∀ turns : List Actor, 5 ≤ turns.count (.dispatch .flush) →
    (d.after turns).handle.dispatch.isFinished = true
  /-- It submits once at most. -/
  submits : ∀ turns, d.submissions turns ≤ 1
  delivered : ∀ turns, (d.after turns).handle.dispatch.counters.delivered ≤
    d.handle.dispatch.counters.delivered + 1
  /-- At its end it has discarded what it held and what was queued, but for that one. -/
  settles : ∀ turns, (d.after turns).handle.dispatch.phase = .finished →
    (d.after turns).handle.dispatch.queue = [] ∧
      (d.after turns).handle.dispatch.counters.delivered +
          (d.after turns).handle.dispatch.counters.discarded =
        d.handle.dispatch.counters.delivered + d.handle.dispatch.counters.discarded +
          d.handle.dispatch.phase.held.length + d.handle.dispatch.queue.length
  /-- It dies only where a submission panics. -/
  alive : d.kernel.faults.submitPanics = [] → d.handle.dispatch.phase ≠ .dead →
    ∀ turns, (d.after turns).handle.dispatch.phase ≠ .dead

/-- **What is left to a flush thread that was asked to stop** is read off the same three quantities
as for a poll thread. -/
theorem flushEnds (m : d.Manned) (g : d.handle.Gated) (f : d.handle.dispatch.Fenced)
    (stop : d.handle.dispatch.stop = true) : d.FlushEnds where
  finishes turns enough := by
    rcases (flushWinds m g f stop turns).falls with ended | falls
    · exact ended
    · have light := flushWeight_le d.handle.dispatch.phase
      exact isFinished_of_flushWeight (by omega)
  submits turns := by
    have submitted := (flushWinds m g f stop turns).submitted
    have once := d.handle.dispatch.phase.submissions_le
    omega
  delivered turns := by
    have w := flushWinds m g f stop turns
    have delivered := w.delivered
    have submitted := w.submitted
    have once := d.handle.dispatch.phase.submissions_le
    omega
  settles turns ended := by
    have w := flushWinds m g f stop turns
    have emptied := w.fenced.emptied ended
    have account := w.account
    -- a thread that has come to its end by itself was not dead before
    have alive : d.handle.dispatch.phase.lost = 0 := by
      rcases here : d.handle.dispatch.phase with - | - | - | - | - | - | -
      case dead =>
        rw [w.ended (by simp [isFinished, here]), here] at ended
        cases ended
      all_goals rfl
    have free : FlushPhase.finished.held.length = 0 := rfl
    have whole : FlushPhase.finished.lost = 0 := rfl
    refine ⟨emptied, ?_⟩
    simp only [accounted, ended, emptied, alive, free, whole, List.length_nil] at account
    omega
  alive calm alive turns := (flushWinds m g f stop turns).alive calm alive

end Deployment

end SchedPlane
