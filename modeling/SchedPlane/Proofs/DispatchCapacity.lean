/-
SchedPlane/Proofs/DispatchCapacity.lean

How much a dispatch stream takes before it pushes back.

Between the senders and the kernel there are the queue, the flush thread, which holds one decision
at most, and the ring.  Where no submission fails, every decision that entered the queue and was
not consumed is in one of these places until the stop flag is set.  So there are never more of them
than the ring and the queue have room for, and one; and where the flush thread is stuck, they fill
the places from the kernel's end.

The invariant is `Contained`: no place is overfull, and the gate counts the clients behind it.  The
last matters once the stream is being closed: when the stop flag is set nobody is behind the gate,
and nothing enters any more.

Main result: `backpressure`.
-/
import Mathlib.Data.Finset.Card
import SchedPlane.Proofs.DispatchRuns

namespace SchedPlane

open DispatchStream Entry

namespace DispatchStream

variable {s s' : DispatchStream} {answer : Kernel.SubmitAnswer} {ring : List Bytes}
  {space behind : Nat}

/-! ### A stuck flush thread -/

/-- Nothing is held or queued, or a decision is held before a full ring. -/
def Stuck (space : Nat) (ring : List Bytes) (s : DispatchStream) : Prop :=
  s.phase.held = [] ∧ s.queue = [] ∨ s.phase.held ≠ [] ∧ space ≤ ring.length

theorem held_cases (phase : FlushPhase) : phase.held = [] ∨ ∃ d, phase.held = [d] := by
  cases phase with
  | idle | waiting | draining | finished | dead => exact .inl rfl
  | publishing d | stalled d => exact .inr ⟨d, rfl⟩

/-- Before the stop flag is set the flush thread is in its loop. -/
theorem Fence.isFinished (h : Fence behind s) (running : s.stop = false) :
    s.isFinished = false := by
  rcases ended : s.isFinished with - | -
  · rfl
  · have finished := (h.queue_of_isFinished ended).1
    rw [h.leaving (.inr finished)] at running
    cases running

/-- A thread that is stuck gets to another place of its loop, and that is all. -/
theorem FlushMove.still (move : FlushMove answer s s') (fence : Fence behind s)
    (running : s.stop = false) (stuck : s.Stuck space ring)
    (full : ∀ d, s.phase = .publishing d → space ≤ ring.length → answer = .full) :
    s'.phase.held = s.phase.held ∧ s'.queue = s.queue ∧ s.publishes answer = [] := by
  cases move with
  | look here | miss here => exact ⟨by rw [here]; rfl, rfl, by simp [publishes, here]⟩
  | take here front =>
    rcases stuck with ⟨-, none⟩ | ⟨holds, -⟩
    · rw [none] at front
      cases front
    · rw [here] at holds
      exact absurd rfl holds
  | submit here =>
    rcases stuck with ⟨free, -⟩ | ⟨-, filled⟩
    · rw [here] at free
      cases free
    · obtain rfl := full _ here filled
      exact ⟨by rw [here]; rfl, rfl, by simp [publishes, here]⟩
  | retry here => exact ⟨by rw [here]; rfl, rfl, by simp [publishes, here]⟩
  | leave _ stopped | giveUp _ stopped =>
    rw [running] at stopped
    cases stopped
  | drain here =>
    rw [fence.leaving (.inl here)] at running
    cases running
  | rest ended =>
    rw [fence.isFinished running] at ended
    cases ended

/-- The steps to the next decision, as far as the place of the thread tells them. -/
def weight : FlushPhase → Nat
  | .waiting => 1
  | .idle => 2
  | .publishing _ => 3
  | .stalled _ => 4
  | .draining | .finished | .dead => 0

/-- A bound of the steps that the thread can take until it is stuck. -/
def remaining (s : DispatchStream) : Nat :=
  4 * s.queue.length + weight s.phase

/-- A step of a thread that is not stuck brings it nearer to that. -/
theorem FlushMove.nears (move : FlushMove answer s s') (fence : Fence behind s)
    (running : s.stop = false) (busy : ¬ s.Stuck space ring)
    (room : ∀ d, s.phase = .publishing d → ring.length < space → answer = .published) :
    s'.remaining < s.remaining := by
  cases move with
  | look here => simp only [remaining, here, weight]; omega
  | miss here empty => exact absurd (.inl ⟨by rw [here]; rfl, empty⟩) busy
  | take here front =>
    -- a decision is worth more than any place
    simp only [remaining, here, front, weight, List.length_cons]
    omega
  | submit here =>
    have free : ring.length < space := by
      apply Nat.lt_of_not_le
      intro filled
      exact busy (.inr ⟨by rw [here]; exact List.cons_ne_nil _ _, filled⟩)
    obtain rfl := room _ here free
    simp only [remaining, here, answered, weight]
    omega
  | retry here => simp only [remaining, here, weight]; omega
  | leave _ stopped | giveUp _ stopped =>
    rw [running] at stopped
    cases stopped
  | drain here =>
    rw [fence.leaving (.inl here)] at running
    cases running
  | rest ended =>
    rw [fence.isFinished running] at ended
    cases ended

/-! ### What a step leaves as it is -/

theorem FlushMove.capacity_eq (move : FlushMove answer s s') : s'.capacity = s.capacity := by
  rw [move.frame]

theorem SendMove.capacity_eq {p p' : Sender} (move : SendMove s p s' p') :
    s'.capacity = s.capacity := by
  rw [move.frame]

theorem SendMove.stop_eq {p p' : Sender} (move : SendMove s p s' p') : s'.stop = s.stop := by
  rw [move.frame]

/-- A send puts a decision only where there is room. -/
theorem SendMove.queue_le {p p' : Sender} (move : SendMove s p s' p')
    (fits : s.queue.length ≤ s.capacity) : s'.queue.length ≤ s.capacity := by
  cases move with
  | join _ room =>
    simp only [List.length_append, List.length_singleton]
    omega
  | enter | kept | turnedAway | timeOut | lost | done => exact fits

/-- Through an open gate a send passes. -/
theorem sendStep_of_unlocked (unlocked : s.gate = .unlocked) (d : Decision) :
    s.sendStep (.atGate d) = ({ s with inside := s.inside + 1 }, .inside d) := by
  simp only [sendStep, unlocked]

/-- Behind the gate a send puts its decision where there is room. -/
theorem sendStep_of_room (running : s.isFinished = false) (room : s.isFull = false)
    (d : Decision) :
    s.sendStep (.inside d) =
      ({ s with inside := s.inside - 1, queue := s.queue ++ [d] }, .returned true) := by
  simp [sendStep, running, room]

/-- Before a full queue a send keeps its decision. -/
theorem sendStep_of_full {p : Sender} (unlocked : s.gate = .unlocked)
    (running : s.isFinished = false) (full : s.isFull = true) (busy : p.offer?.isSome = true) :
    ∃ inside p', s.sendStep p = ({ s with inside }, p') ∧ p'.offer?.isSome = true := by
  cases p with
  | atGate d => exact ⟨s.inside + 1, .inside d, sendStep_of_unlocked unlocked d, rfl⟩
  | inside d => exact ⟨s.inside - 1, .atGate d, by simp [sendStep, running, full], rfl⟩
  | returned => cases busy

theorem capacity_closeStep (s : DispatchStream) : s.closeStep.capacity = s.capacity := by
  rw [closeStep_frame]

theorem room_advance (k : Kernel) (s : DispatchStream) (other : String) :
    (s.advance k).1.room other = k.room other := by
  rw [(s.keepsRings_advance k).room, submitOn]
  split
  · exact k.room_submit s.map _ other
  · rfl

/-- Without faults the ring takes a decision just when it has room. -/
theorem submitOn_of_publishing {k : Kernel} (noPanics : k.faults.submitPanics = [])
    (noErrors : k.faults.submitErrors = []) (ring : k.room s.map = some space) {d : Decision}
    (here : s.phase = .publishing d) :
    (s.submitOn k).1 = if (k.waiting s.map).length < space then .published else .full := by
  have full := Kernel.submit_full_iff noPanics noErrors ring d.bytes
  have answers := Kernel.submit_answer noPanics noErrors s.map d.bytes
  simp only [submitOn, here]
  split
  · next free => exact answers.resolve_right fun e => Nat.not_le.mpr free (full.mp e)
  · next filled => exact full.mpr (Nat.le_of_not_lt filled)

end DispatchStream

namespace Client

/-- Whether a client is behind the gate, as a number. -/
def behind (c : Client) : Nat :=
  match c.sending with
  | some p => p.behind
  | none => 0

theorem behind_cases (c : Client) : c.behind = 0 ∨ c.behind = 1 := by
  unfold behind
  split
  · next p _ =>
    cases p with
    | inside => exact .inr rfl
    | atGate | returned => exact .inl rfl
  · exact .inl rfl

theorem behind_of_sending {c : Client} {p : Sender} (h : c.sending = some p) :
    c.behind = p.behind := by
  rw [behind, h]

/-- A client whose send has returned is not behind the gate. -/
theorem behind_move {c : Client} {s s' : DispatchStream} {p p' : Sender}
    (busy : p.offer?.isSome = true) (move : SendMove s p s' p') :
    (c.move p p').behind = p'.behind := by
  cases move with
  | done => cases busy
  | enter | kept | turnedAway | timeOut | lost | join => rfl

/-- A send that keeps its decision is still under way. -/
theorem sending_move {c : Client} {p p' : Sender} (busy : p'.offer?.isSome = true) :
    (c.move p p').sending = some p' := by
  cases p' with
  | atGate | inside => cases p <;> rfl
  | returned => cases busy

end Client

namespace DispatchRun

variable {r : DispatchRun} {leftover : List Bytes} {space : Nat}

/-! ### The gate -/

/-- The gate counts the clients behind it. -/
def Fenced (clients : Nat → Client) (s : DispatchStream) : Prop :=
  ∃ behind : Finset Nat, (∀ n, n ∈ behind ↔ (clients n).behind = 1) ∧ s.Fence behind.card

/-- One client goes on, and the fence with it. -/
theorem Fenced.goOn (h : Fenced r.clients r.stream) {client : Nat} {c : Client}
    {s' : DispatchStream}
    (goes : ∀ others, r.stream.Fence ((r.clients client).behind + others) →
      s'.Fence (c.behind + others)) :
    Fenced (r.setClient client c).clients s' := by
  obtain ⟨behind, mem, fence⟩ := h
  have count : behind.card = (r.clients client).behind + (behind.erase client).card := by
    rcases (r.clients client).behind_cases with out | inside
    · have absent : client ∉ behind := by rw [mem, out]; decide
      rw [out, Finset.erase_eq_of_notMem absent, Nat.zero_add]
    · have present : client ∈ behind := (mem client).mpr inside
      rw [inside, ← Finset.card_erase_add_one present, Nat.add_comm]
  have fence' := goes _ (count ▸ fence)
  rcases c.behind_cases with out | inside
  · refine ⟨behind.erase client, fun n => ?_, ?_⟩
    · by_cases same : n = client
      · simp [setClient, same, out]
      · simp [setClient, same, mem]
    · simpa [out] using fence'
  · refine ⟨insert client (behind.erase client), fun n => ?_, ?_⟩
    · by_cases same : n = client
      · simp [setClient, same, inside]
      · simp [setClient, same, mem]
    · rw [Finset.card_insert_of_notMem (Finset.notMem_erase client behind), Nat.add_comm]
      rwa [inside] at fence'

/-- One client goes on outside. -/
theorem Fenced.stay (h : Fenced r.clients r.stream) {client : Nat} {c : Client}
    (before : (r.clients client).behind = 0) (after : c.behind = 0) :
    Fenced (r.setClient client c).clients r.stream := by
  apply h.goOn
  intro others fence
  rw [after]
  rwa [before] at fence

/-! ### What every step keeps -/

/-- The records that waited at first, and those of the decisions that entered the queue. -/
def accepted (leftover : List Bytes) (r : DispatchRun) : List Bytes :=
  leftover ++ r.entered.map fun e => e.decision.bytes

/-- No submission fails, the gate counts, and neither the ring nor the queue is overfull. -/
structure Contained (space : Nat) (leftover : List Bytes) (r : DispatchRun) : Prop where
  sound : Sound leftover r
  noErrors : r.kernel.faults.submitErrors = []
  unfailed : ∀ e ∈ r.entered, e.failed = false
  fenced : Fenced r.clients r.stream
  room : r.kernel.room r.stream.map = some space
  ring : r.ring.length ≤ space
  queue : r.stream.queue.length ≤ r.stream.capacity

/-- Until the stop flag is set the accepted decisions are consumed or in one of the places. -/
theorem Contained.whole (h : Contained space leftover r) (running : r.stream.stop = false) :
    accepted leftover r =
      r.consumed ++ (r.ring ++ (r.stream.phase.held.map Decision.bytes ++
        r.stream.queue.map Decision.bytes)) := by
  have whole := h.sound.whole running
  rw [records_of_unfailed h.unfailed] at whole
  rw [accepted, ← whole, List.map_append, List.append_assoc]

/-- Where no submission fails, none is noted. -/
theorem Contained.noteFailure (h : Contained space leftover r) :
    r.stream.noteFailure (r.stream.submitOn r.kernel).1 r.entered = r.entered := by
  have calm := submitOn_answer h.sound.noPanics h.noErrors r.stream
  unfold DispatchStream.noteFailure
  split
  · next failed =>
    rw [failed] at calm
    rcases calm with e | e <;> cases e
  · rfl

/-- A flush that finds no room puts nothing on the ring. -/
theorem Contained.flush (h : Contained space leftover r) :
    Contained space leftover (r.step .flush) := by
  have move := r.stream.advance_move r.kernel
  have same := h.noteFailure
  obtain ⟨behind, mem, fence⟩ := h.fenced
  have calm := submitOn_ne_panicked h.sound.noPanics r.stream
  exact
    { sound := h.sound.step .flush
      noErrors := by
        show (r.stream.advance r.kernel).1.faults.submitErrors = []
        rw [r.stream.faults_advance]
        exact h.noErrors
      unfailed := by
        show ∀ e ∈ r.stream.noteFailure (r.stream.submitOn r.kernel).1 r.entered, e.failed = false
        rw [same]
        exact h.unfailed
      fenced := ⟨behind, mem, fence.flush move calm⟩
      room := by
        show (r.stream.advance r.kernel).1.room (r.stream.advance r.kernel).2.map = some space
        rw [move.map_eq, r.stream.room_advance]
        exact h.room
      ring := by
        show ((r.stream.advance r.kernel).1.waiting (r.stream.advance r.kernel).2.map).length ≤ _
        rw [move.map_eq, r.stream.waiting_advance, List.length_append, List.length_map]
        have ring : (r.kernel.waiting r.stream.map).length ≤ space := h.ring
        rcases here : r.stream.phase with - | - | d | d | - | - | -
        case publishing =>
          -- only a ring with room takes the decision
          have answer := submitOn_of_publishing h.sound.noPanics h.noErrors h.room here
          rw [answer]
          split <;> simp only [publishes, here, List.length_singleton, List.length_nil] <;> omega
        all_goals simpa [publishes, here] using ring
      queue := by
        show (r.stream.advance r.kernel).2.queue.length ≤ (r.stream.advance r.kernel).2.capacity
        rw [move.capacity_eq]
        exact move.queue_suffix.length_le.trans h.queue }

/-- A client goes on, and what enters the queue has room there. -/
theorem Contained.enter (h : Contained space leftover r) {client : Nat} {c : Client}
    (ds : List Decision) {inside : Nat}
    (sound : Sound leftover
      { r.setClient client c with
        stream := { r.stream with inside, queue := r.stream.queue ++ ds }
        entered := r.entered ++ ds.map fun d => { client, decision := d } })
    (goes : ∀ others, r.stream.Fence ((r.clients client).behind + others) →
      ({ r.stream with inside, queue := r.stream.queue ++ ds } : DispatchStream).Fence
        (c.behind + others))
    (fits : (r.stream.queue ++ ds).length ≤ r.stream.capacity) :
    Contained space leftover
      { r.setClient client c with
        stream := { r.stream with inside, queue := r.stream.queue ++ ds }
        entered := r.entered ++ ds.map fun d => { client, decision := d } } where
  sound := sound
  noErrors := h.noErrors
  unfailed := by
    intro e mem
    rcases List.mem_append.mp mem with old | new
    · exact h.unfailed e old
    · obtain ⟨d, -, rfl⟩ := List.mem_map.mp new
      rfl
  fenced := h.fenced.goOn goes
  room := h.room
  ring := h.ring
  queue := fits

/-- A send enters the queue only if that has room. -/
theorem Contained.send (h : Contained space leftover r) (client : Nat) :
    Contained space leftover (r.step (.send client)) := by
  have sound := h.sound.step (.send client)
  cases sending : (r.clients client).sending with
  | none => simpa only [step, sending] using h
  | some p =>
    have busy := (h.sound.tidy client).busy p sending
    have move := sendStep_move r.stream p
    simp only [step, sending] at sound ⊢
    rw [move.frame] at sound ⊢
    refine h.enter _ sound ?_ ?_
    · intro others fence
      rw [Client.behind_move busy move, ← move.frame]
      rw [Client.behind_of_sending sending] at fence
      exact fence.send move
    · have grown : (r.stream.sendStep p).1.queue = r.stream.queue ++ joined p _ :=
        congrArg DispatchStream.queue move.frame
      rw [← grown]
      exact move.queue_le h.queue

theorem Contained.trySend (h : Contained space leftover r) (client : Nat) (d : Decision) :
    Contained space leftover (r.step (.trySend client d)) := by
  have sound := h.sound.step (.trySend client d)
  cases sending : (r.clients client).sending with
  | some p => simpa only [step, sending] using h
  | none =>
    have out : (r.clients client).behind = 0 := by rw [Client.behind, sending]
    simp only [step, sending] at sound ⊢
    rcases r.stream.trySend_cases d with ⟨taken, -, running, room⟩ | ⟨refused, same⟩
    · rw [taken] at sound ⊢
      simp only [if_true] at sound ⊢
      refine h.enter [d] sound ?_ ?_
      · intro others fence
        rw [out] at fence
        exact fence.join running d
      · simp only [List.length_append, List.length_singleton]
        omega
    · rw [if_neg refused, same] at sound ⊢
      exact { h with sound, fenced := h.fenced.stay out rfl }

/-- The kernel makes room on the ring. -/
theorem Contained.consume (h : Contained space leftover r) :
    Contained space leftover (r.step .consume) := by
  have sound := h.sound.step .consume
  simp only [step] at sound ⊢
  split at sound
  · exact h
  · next b kernel taken =>
    obtain ⟨front, faults, apart⟩ := Kernel.waiting_takeDispatched taken
    have shorter : (kernel.waiting r.stream.map).length ≤ r.ring.length := by
      by_cases here : r.stream.map = Contract.dispatched
      · rw [DispatchRun.ring, here, front, List.length_cons]
        exact Nat.le_succ _
      · rw [DispatchRun.ring, apart _ (Ne.symm here)]
    exact
      { sound
        noErrors := (congrArg Faults.submitErrors faults).trans h.noErrors
        unfailed := h.unfailed
        fenced := h.fenced
        room := (Kernel.room_takeDispatched taken _).trans h.room
        ring := shorter.trans h.ring
        queue := h.queue }

/-- **Each action keeps the run contained**, as long as no submission is made to fail. -/
theorem Contained.step (h : Contained space leftover r) {a : Action}
    (calm : ∀ errors, a = .failSubmits errors → errors = []) :
    Contained space leftover (r.step a) := by
  cases a with
  | flush => exact h.flush
  | failSubmits errors => exact { h with sound := h.sound.step _, noErrors := calm errors rfl }
  | beginSend client d =>
    have sound := h.sound.step (.beginSend client d)
    cases sending : (r.clients client).sending with
    | some p => simpa only [DispatchRun.step, sending] using h
    | none =>
      -- a client that begins stands before the gate
      have out : (r.clients client).behind = 0 := by rw [Client.behind, sending]
      simp only [DispatchRun.step, sending] at sound ⊢
      exact { h with sound, fenced := h.fenced.stay out rfl }
  | send client => exact h.send client
  | trySend client d => exact h.trySend client d
  | consume => exact h.consume
  | close =>
    obtain ⟨behind, mem, fence⟩ := h.fenced
    exact
      { sound := h.sound.step .close
        noErrors := h.noErrors
        unfailed := h.unfailed
        fenced := ⟨behind, mem, fence.close⟩
        room := by
          show r.kernel.room r.stream.closeStep.map = some space
          rw [map_closeStep]
          exact h.room
        ring := by
          show (r.kernel.waiting r.stream.closeStep.map).length ≤ space
          rw [map_closeStep]
          exact h.ring
        queue := by
          show r.stream.closeStep.queue.length ≤ r.stream.closeStep.capacity
          rw [capacity_closeStep, closeStep_frame]
          exact h.queue }

/-- As long as no submission fails, every decision stays in its place and every place within its
bounds. -/
theorem Contained.run (h : Contained space leftover r) {actions : List Action}
    (calm : ∀ errors, .failSubmits errors ∈ actions → errors = []) :
    Contained space leftover (r.run actions) := by
  induction actions generalizing r with
  | nil => exact h
  | cons a rest ih =>
    have first : ∀ errors, a = .failSubmits errors → errors = [] := by
      intro errors e
      exact calm errors (by simp [e])
    exact ih (h.step first) fun errors mem => calm errors (List.mem_cons_of_mem _ mem)

theorem contained_starting {k k' : Kernel} {name map : String} {t : Tuning} {s : DispatchStream}
    (started : DispatchStream.start k name map t = .ok (k', s))
    (noPanics : k.faults.submitPanics = []) (noErrors : k.faults.submitErrors = [])
    (room : k.room map = some space) (ring : (k.waiting map).length ≤ space) :
    Contained space (k.waiting map) (starting k' s) := by
  have sound := sound_starting started noPanics
  obtain ⟨keeps, rfl⟩ := DispatchStream.start_eq_ok started
  refine ⟨sound, ?_, ?_, ?_, (keeps.room map).trans room, ?_, Nat.zero_le _⟩
  · show k'.faults.submitErrors = []
    rw [keeps.faults]
    exact noErrors
  · intro e mem
    cases mem
  · refine ⟨∅, ?_, .fresh name map t.room⟩
    intro n
    simp [starting, Client.behind]
  · show (k'.waiting map).length ≤ space
    rw [keeps.waiting]
    exact ring

/-! ### The bound -/

/-- As long as the stream was not asked to stop, an accepted decision is consumed, on the ring, in
the hand of the flush thread or queued. -/
theorem Contained.count (h : Contained space leftover r) (running : r.stream.stop = false) :
    (accepted leftover r).length =
      r.consumed.length +
        (r.ring.length + (r.stream.phase.held.length + r.stream.queue.length)) := by
  rw [h.whole running]
  simp only [List.length_append, List.length_map]

/-- Never more decisions are accepted and not consumed than the places have room for. -/
def Bounded (space : Nat) (leftover : List Bytes) (r : DispatchRun) : Prop :=
  (accepted leftover r).length ≤ r.consumed.length + (space + 1 + r.stream.capacity)

/-- The ring, the hand and the queue have room for so many, and there is no other place. -/
theorem Contained.bounded (h : Contained space leftover r) (running : r.stream.stop = false) :
    Bounded space leftover r := by
  have held : r.stream.phase.held.length ≤ 1 := by
    rcases held_cases r.stream.phase with e | ⟨d, e⟩ <;> simp [e]
  have ring := h.ring
  have queue := h.queue
  rw [Bounded, h.count running]
  omega

/-- Once the stop flag is set nothing enters the queue. -/
theorem Contained.entered_of_stop (h : Contained space leftover r) {a : Action}
    (stopped : (r.step a).stream.stop = true) : (r.step a).entered = r.entered := by
  obtain ⟨behind, mem, fence⟩ := h.fenced
  cases a with
  | flush => exact h.noteFailure
  | failSubmits | close => rfl
  | beginSend client d | consume =>
    simp only [DispatchRun.step]
    split <;> rfl
  | send client =>
    cases sending : (r.clients client).sending with
    | none => simp only [DispatchRun.step, sending]
    | some p =>
      have move := sendStep_move r.stream p
      simp only [DispatchRun.step, sending] at stopped ⊢
      rw [move.stop_eq] at stopped
      have empty := fence.closed (fence.stopped stopped)
      -- nobody is behind the gate
      have out : p.behind = 0 := by
        rcases (r.clients client).behind_cases with out | inside
        · rwa [← Client.behind_of_sending sending]
        · have present := Finset.card_pos.mpr ⟨client, (mem client).mpr inside⟩
          have none := fence.inside.symm.trans empty
          omega
      rw [joined_of_outside out, List.map_nil, List.append_nil]
  | trySend client d =>
    cases sending : (r.clients client).sending with
    | some p => simp only [DispatchRun.step, sending]
    | none =>
      simp only [DispatchRun.step, sending] at stopped ⊢
      rcases r.stream.trySend_cases d with ⟨taken, unlocked, -⟩ | ⟨refused, -⟩
      · rw [taken] at stopped
        rw [fence.stopped stopped] at unlocked
        cases unlocked
      · rw [if_neg refused]

/-- What was consumed stays so, and the capacity is fixed. -/
theorem consumed_step (r : DispatchRun) (a : Action) :
    r.consumed.length ≤ (r.step a).consumed.length ∧
      (r.step a).stream.capacity = r.stream.capacity := by
  cases a with
  | flush => exact ⟨Nat.le_refl _, (r.stream.advance_move r.kernel).capacity_eq⟩
  | failSubmits => exact ⟨Nat.le_refl _, rfl⟩
  | close => exact ⟨Nat.le_refl _, capacity_closeStep r.stream⟩
  | beginSend client d =>
    simp only [step]
    split <;> exact ⟨Nat.le_refl _, rfl⟩
  | send client =>
    simp only [step]
    split
    · exact ⟨Nat.le_refl _, rfl⟩
    · exact ⟨Nat.le_refl _, (sendStep_move r.stream _).capacity_eq⟩
  | trySend client d =>
    simp only [step]
    split
    · exact ⟨Nat.le_refl _, by rw [trySend_frame]⟩
    · exact ⟨Nat.le_refl _, rfl⟩
  | consume =>
    simp only [step]
    split
    · exact ⟨Nat.le_refl _, rfl⟩
    · refine ⟨?_, rfl⟩
      split
      · simp
      · exact Nat.le_refl _

theorem capacity_run (r : DispatchRun) (actions : List Action) :
    (r.run actions).stream.capacity = r.stream.capacity := by
  induction actions generalizing r with
  | nil => rfl
  | cons a rest ih => exact (ih (r.step a)).trans (r.consumed_step a).2

/-- The bound holds at each step, since what is consumed never falls. -/
theorem Bounded.step (bounded : Bounded space leftover r) (h : Contained space leftover r)
    {a : Action} (h' : Contained space leftover (r.step a)) :
    Bounded space leftover (r.step a) := by
  rcases running : (r.step a).stream.stop with - | -
  · exact h'.bounded running
  · obtain ⟨consumed, capacity⟩ := r.consumed_step a
    have entered := h.entered_of_stop running
    unfold Bounded accepted at bounded ⊢
    rw [entered, capacity]
    omega

/-- **The bound**: it holds at any time, also while the stream is closed. -/
theorem Contained.bounded_run (h : Contained space leftover r)
    (bounded : Bounded space leftover r) {actions : List Action}
    (calm : ∀ errors, .failSubmits errors ∈ actions → errors = []) :
    Bounded space leftover (r.run actions) := by
  induction actions generalizing r with
  | nil => exact bounded
  | cons a rest ih =>
    have h' : Contained space leftover (r.step a) := by
      apply h.step
      intro errors e
      exact calm errors (by simp [e])
    exact ih h' (bounded.step h h') fun errors mem => calm errors (List.mem_cons_of_mem _ mem)

/-! ### Stuck runs -/

/-- Where the accepted decisions are that were not consumed. -/
def places (r : DispatchRun) : List Bytes × List Decision × List Decision :=
  (r.ring, r.stream.phase.held, r.stream.queue)

/-- Whether the flush thread can do nothing more. -/
def Stuck (space : Nat) (r : DispatchRun) : Prop :=
  r.stream.Stuck space r.ring

/-- To be stuck is a matter of the places. -/
theorem stuck_of_places {r' : DispatchRun} (same : r'.places = r.places) (stuck : r'.Stuck space) :
    r.Stuck space := by
  have ring : r'.ring = r.ring := congrArg Prod.fst same
  have held : r'.stream.phase.held = r.stream.phase.held := congrArg (·.2.1) same
  have queue : r'.stream.queue = r.stream.queue := congrArg (·.2.2) same
  unfold Stuck DispatchStream.Stuck at stuck ⊢
  rwa [ring, held, queue] at stuck

theorem stop_step_flush (r : DispatchRun) : (r.step .flush).stream.stop = r.stream.stop :=
  (r.stream.advance_move r.kernel).stop_eq

/-- Steps of a thread that is stuck change no place. -/
theorem Contained.flush_still (h : Contained space leftover r) (running : r.stream.stop = false)
    (stuck : r.Stuck space) : (r.step .flush).places = r.places := by
  obtain ⟨behind, -, fence⟩ := h.fenced
  have move := r.stream.advance_move r.kernel
  have full : ∀ d, r.stream.phase = .publishing d → space ≤ r.ring.length →
      (r.stream.submitOn r.kernel).1 = .full := by
    intro d here filled
    rw [submitOn_of_publishing h.sound.noPanics h.noErrors h.room here]
    exact if_neg (Nat.not_lt.mpr filled)
  obtain ⟨held, queue, none⟩ := move.still fence running stuck full
  have ring : (r.step .flush).ring = r.ring := by
    show (r.stream.advance r.kernel).1.waiting (r.stream.advance r.kernel).2.map = _
    rw [move.map_eq, r.stream.waiting_advance, none]
    exact List.append_nil _
  exact Prod.ext ring (Prod.ext held queue)

/-- When ring, hand and queue are full, the flush thread may step as long as it likes. -/
theorem Contained.flushes_still (h : Contained space leftover r) (running : r.stream.stop = false)
    (stuck : r.Stuck space) (n : Nat) : (r.run (List.replicate n .flush)).places = r.places := by
  induction n generalizing r with
  | zero => rfl
  | succ n ih =>
    have same := h.flush_still running stuck
    have again := ih h.flush (r.stop_step_flush.trans running) (stuck_of_places same.symm stuck)
    exact again.trans same

/-- **The flush thread alone gets stuck**, after finitely many steps. -/
theorem Contained.exists_stuck (h : Contained space leftover r) (running : r.stream.stop = false) :
    ∃ n, (r.run (List.replicate n .flush)).Stuck space := by
  -- on the steps that are left for the thread
  generalize work : r.stream.remaining = m
  induction m using Nat.strongRecOn generalizing r with
  | ind m ih =>
    by_cases stuck : r.Stuck space
    · exact ⟨0, stuck⟩
    · obtain ⟨behind, -, fence⟩ := h.fenced
      have room : ∀ d, r.stream.phase = .publishing d → r.ring.length < space →
          (r.stream.submitOn r.kernel).1 = .published := by
        intro d here free
        rw [submitOn_of_publishing h.sound.noPanics h.noErrors h.room here]
        exact if_pos free
      have falls : (r.step .flush).stream.remaining < m :=
        work ▸ (r.stream.advance_move r.kernel).nears fence running stuck room
      obtain ⟨n, stuck⟩ := ih _ falls h.flush (r.stop_step_flush.trans running) rfl
      exact ⟨n + 1, stuck⟩

/-- **The closed form**: where the flush thread is stuck, what is not consumed fills the places
from the kernel's end. -/
theorem Contained.filled (h : Contained space leftover r) (running : r.stream.stop = false)
    (stuck : r.Stuck space) :
    r.ring = ((accepted leftover r).drop r.consumed.length).take space ∧
      r.stream.phase.held.map Decision.bytes =
        ((accepted leftover r).drop (r.consumed.length + space)).take 1 ∧
      r.stream.queue.map Decision.bytes =
        (accepted leftover r).drop (r.consumed.length + space + 1) := by
  have ring := h.ring
  rw [Nat.add_assoc, ← List.drop_drop, ← List.drop_drop, h.whole running, List.drop_left]
  rcases stuck with ⟨free, none⟩ | ⟨holds, filled⟩
  · -- all of it is in the ring
    rw [free, none, List.map_nil, List.nil_append, List.append_nil,
      List.take_of_length_le ring, List.drop_of_length_le ring,
      List.drop_of_length_le (Nat.le_succ_of_le ring)]
    exact ⟨rfl, rfl, rfl⟩
  · obtain ⟨d, held⟩ := (held_cases r.stream.phase).resolve_left holds
    obtain rfl : space = r.ring.length := Nat.le_antisymm filled ring
    rw [List.take_left, List.drop_left, ← List.drop_drop, List.drop_left, held]
    exact ⟨rfl, rfl, rfl⟩

/-- The queue of a stuck stream is full just when everything before it is. -/
theorem Contained.full_iff (h : Contained space leftover r) (some : 0 < r.stream.capacity)
    (running : r.stream.stop = false) (stuck : r.Stuck space) :
    r.stream.isFull = true ↔
      (accepted leftover r).length = r.consumed.length + (space + 1 + r.stream.capacity) := by
  have ring := h.ring
  have queue := h.queue
  rw [h.count running, isFull, decide_eq_true_eq]
  rcases stuck with ⟨free, none⟩ | ⟨holds, filled⟩
  · -- an empty queue is not full, and the ring alone does not reach the bound
    rw [free, none, List.length_nil]
    omega
  · obtain ⟨d, held⟩ := (held_cases r.stream.phase).resolve_left holds
    rw [held, List.length_singleton]
    omega

/-! ### Senders before a stuck stream -/

/-- However often the send of a client goes on, it does not return. -/
def Waits (r : DispatchRun) (client : Nat) : Prop :=
  ∀ n, ((r.run (List.replicate n (.send client))).clients client).sending.isSome = true

theorem step_send {client : Nat} {p p' : Sender} {s' : DispatchStream}
    (sending : (r.clients client).sending = some p) (goes : r.stream.sendStep p = (s', p')) :
    (r.step (.send client)).stream = s' ∧
      (r.step (.send client)).clients client = (r.clients client).move p p' := by
  simp [step, sending, setClient, goes]

/-- Before a full queue a send goes between the gate and its place behind it. -/
theorem waits_of_full {client : Nat} (unlocked : r.stream.gate = .unlocked)
    (running : r.stream.isFinished = false) (full : r.stream.isFull = true)
    {p : Sender} (sending : (r.clients client).sending = some p) (busy : p.offer?.isSome = true) :
    r.Waits client := by
  intro n
  induction n generalizing r p with
  | zero => exact Option.isSome_iff_exists.mpr ⟨p, sending⟩
  | succ n ih =>
    obtain ⟨inside, p', goes, busy'⟩ := sendStep_of_full unlocked running full busy
    obtain ⟨stream, own⟩ := step_send sending goes
    have gate : (r.step (.send client)).stream.gate = .unlocked := by rw [stream]; exact unlocked
    have alive : (r.step (.send client)).stream.isFinished = false := by rw [stream]; exact running
    have crowded : (r.step (.send client)).stream.isFull = true := by rw [stream]; exact full
    have going : ((r.step (.send client)).clients client).sending = some p' := by
      rw [own, Client.sending_move busy']
    exact ih gate alive crowded going busy'

/-- A send behind the gate returns when the queue has room. -/
theorem not_waits_inside {client : Nat} (running : r.stream.isFinished = false)
    (room : r.stream.isFull = false) {d : Decision}
    (sending : (r.clients client).sending = some (.inside d)) : ¬ r.Waits client := by
  intro waits
  have own := (step_send sending (sendStep_of_room running room d)).2
  have still : ((r.step (.send client)).clients client).sending.isSome = true := waits 1
  rw [own] at still
  cases still

theorem not_waits_of_room {client : Nat} (unlocked : r.stream.gate = .unlocked)
    (running : r.stream.isFinished = false) (room : r.stream.isFull = false)
    {p : Sender} (sending : (r.clients client).sending = some p) (busy : p.offer?.isSome = true) :
    ¬ r.Waits client := by
  cases p with
  | returned => cases busy
  | inside d => exact not_waits_inside running room sending
  | atGate d =>
    obtain ⟨stream, own⟩ := step_send sending (sendStep_of_unlocked unlocked d)
    have alive : (r.step (.send client)).stream.isFinished = false := by rw [stream]; exact running
    have free : (r.step (.send client)).stream.isFull = false := by rw [stream]; exact room
    intro waits
    have later : (r.step (.send client)).Waits client := fun n => waits (n + 1)
    exact not_waits_inside alive free (by rw [own]; rfl) later

/-! ### Backpressure -/

/-- How a dispatch stream pushes back; `t` is its tuning, its ring has room for `space` records,
and `leftover` are those that waited there at first. -/
structure Backpressure (t : Tuning) (space : Nat) (leftover : List Bytes) (r : DispatchRun) :
    Prop where
  /-- At any time so many decisions at most are accepted and not consumed. -/
  bound : (accepted leftover r).length ≤
    r.consumed.length + (space + 1 + max 1 t.capacity.toNat)
  /-- Before the stop flag is set, to be stuck means that the flush thread, left alone, changes
  nothing any more. -/
  still : r.stream.stop = false →
    (r.Stuck space ↔ ∀ n, (r.run (List.replicate n .flush)).places = r.places)
  /-- Left alone, the flush thread gets there. -/
  settles : r.stream.stop = false → ∃ n, (r.run (List.replicate n .flush)).Stuck space
  /-- All interleavings that lead there lead to the same places. -/
  filled : r.stream.stop = false → r.Stuck space →
    r.ring = ((accepted leftover r).drop r.consumed.length).take space ∧
      r.stream.phase.held.map Decision.bytes =
        ((accepted leftover r).drop (r.consumed.length + space)).take 1 ∧
      r.stream.queue.map Decision.bytes =
        (accepted leftover r).drop (r.consumed.length + space + 1)
  /-- A decision sent without waiting is refused there just when the bound is reached. -/
  refused : r.stream.gate = .unlocked → r.Stuck space → ∀ d,
    ((r.stream.trySend d).1 = .refused d ↔
      (accepted leftover r).length =
        r.consumed.length + (space + 1 + max 1 t.capacity.toNat))
  /-- A send that is under way there waits just when the bound is reached. -/
  blocked : r.stream.gate = .unlocked → r.Stuck space → ∀ client,
    (r.clients client).sending.isSome = true →
      (r.Waits client ↔
        (accepted leftover r).length =
          r.consumed.length + (space + 1 + max 1 t.capacity.toNat))

/-- When the flush thread is stuck, a send is refused just if all places are taken. -/
theorem Contained.refused_iff (h : Contained space leftover r) (some : 0 < r.stream.capacity)
    (unlocked : r.stream.gate = .unlocked) (running : r.stream.stop = false)
    (stuck : r.Stuck space) (d : Decision) :
    (r.stream.trySend d).1 = .refused d ↔
      (accepted leftover r).length = r.consumed.length + (space + 1 + r.stream.capacity) := by
  obtain ⟨behind, -, fence⟩ := h.fenced
  rw [← h.full_iff some running stuck, DispatchStream.trySend, unlocked, fence.isFinished running]
  rcases r.stream.isFull with - | - <;> simp

/-- When the flush thread is stuck, a send waits just if all places are taken. -/
theorem Contained.waits_iff (h : Contained space leftover r) (some : 0 < r.stream.capacity)
    (unlocked : r.stream.gate = .unlocked) (running : r.stream.stop = false)
    (stuck : r.Stuck space) {client : Nat}
    (sending : (r.clients client).sending.isSome = true) :
    r.Waits client ↔
      (accepted leftover r).length = r.consumed.length + (space + 1 + r.stream.capacity) := by
  obtain ⟨behind, -, fence⟩ := h.fenced
  obtain ⟨p, sending⟩ := Option.isSome_iff_exists.mp sending
  have busy := (h.sound.tidy client).busy p sending
  have alive := fence.isFinished running
  rw [← h.full_iff some running stuck]
  rcases full : r.stream.isFull with - | -
  · have returns := not_waits_of_room unlocked alive full sending busy
    simp [returns]
  · have waits := waits_of_full unlocked alive full sending busy
    simp [waits]

/-- An open gate was not asked for, so the stop flag is not set. -/
theorem Contained.running (h : Contained space leftover r)
    (unlocked : r.stream.gate = .unlocked) : r.stream.stop = false := by
  obtain ⟨behind, -, fence⟩ := h.fenced
  rcases stop : r.stream.stop with - | -
  · rfl
  · rw [fence.stopped stop] at unlocked
    cases unlocked

/-- **Backpressure.**  Where no submission fails, whatever senders, flush thread, kernel and
closing have done: the decisions that were accepted and not consumed are never more than the ring
and the queue have room for, and one.  Where the flush thread is stuck before the stop flag is set,
the ring has the first of them, the thread holds the next one, and the rest is queued; and sending
is refused, or does not return, just when the bound is reached. -/
theorem backpressure {k k' : Kernel} {name map : String} {t : Tuning} {s : DispatchStream}
    {space : Nat} (started : DispatchStream.start k name map t = .ok (k', s))
    (noPanics : k.faults.submitPanics = []) (noErrors : k.faults.submitErrors = [])
    (room : k.room map = some space) (ring : (k.waiting map).length ≤ space)
    (actions : List Action) (calm : ∀ errors, .failSubmits errors ∈ actions → errors = []) :
    Backpressure t space (k.waiting map) ((starting k' s).run actions) := by
  have start := contained_starting started noPanics noErrors room ring
  have contained := start.run calm
  have capacity : ((starting k' s).run actions).stream.capacity = max 1 t.capacity.toNat := by
    rw [capacity_run, (DispatchStream.start_eq_ok started).2]
    rfl
  -- a queue of no room at all is made one of room for one
  have some : 0 < ((starting k' s).run actions).stream.capacity := by
    rw [capacity]
    exact Nat.lt_of_lt_of_le Nat.zero_lt_one (Nat.le_max_left _ _)
  have running : (starting k' s).stream.stop = false := by
    rw [(DispatchStream.start_eq_ok started).2]
    rfl
  have bounded := start.bounded_run (start.bounded running) calm
  generalize (starting k' s).run actions = r at contained capacity some bounded ⊢
  exact
    { bound := capacity ▸ bounded
      still := by
        intro running
        constructor
        · intro stuck n
          exact contained.flushes_still running stuck n
        · -- some number of steps ends in a stuck state, and none of them has changed a place
          intro still
          obtain ⟨n, stuck⟩ := contained.exists_stuck running
          exact stuck_of_places (still n) stuck
      settles := contained.exists_stuck
      filled := contained.filled
      refused := by
        intro unlocked stuck d
        rw [← capacity]
        exact contained.refused_iff some unlocked (contained.running unlocked) stuck d
      blocked := by
        intro unlocked stuck client sending
        rw [← capacity]
        exact contained.waits_iff some unlocked (contained.running unlocked) stuck sending }

/-- A kernel whose rings have room for two records. -/
def twoSlots : Kernel :=
  (Blueprint.standard.withRingCapacity 2).build

theorem start_twoSlots :
    DispatchStream.start twoSlots Contract.dispatched Contract.dispatched ⟨1, 0⟩ =
      .ok (twoSlots.record (.opened Contract.dispatched), oneSlotStream) := rfl

/-- A first decision is consumed; two are in the ring, one is held and one is queued, and the send
of another does not return. -/
def filledUp : List Action :=
  [.trySend 0 ⟨[1]⟩, .flush, .flush, .flush, .trySend 1 ⟨[2]⟩, .flush, .flush, .flush,
    .trySend 0 ⟨[3]⟩, .flush, .flush, .flush, .flush, .consume, .flush, .flush, .flush,
    .failSubmits [], .trySend 2 ⟨[4]⟩, .flush, .flush, .flush, .flush, .flush, .trySend 0 ⟨[5]⟩,
    .beginSend 1 ⟨[6]⟩, .send 1]

/-- Two records on the ring, one in the hand and one in the queue are all that gets in: the next
send is refused, and one that is willing to wait waits. -/
theorem backpressure_filledUp :
    let r := (starting (twoSlots.record (.opened Contract.dispatched)) oneSlotStream).run filledUp
    Backpressure ⟨1, 0⟩ 2 [] r ∧ r.stream.gate = .unlocked ∧ r.Stuck 2 ∧ r.consumed = [[1]] ∧
      r.ring = [[2], [3]] ∧ r.stream.phase.held = [⟨[4]⟩] ∧ r.stream.queue = [⟨[5]⟩] ∧
      (r.stream.trySend ⟨[7]⟩).1 = .refused ⟨[7]⟩ ∧ r.Waits 1 := by
  have empty : twoSlots.waiting Contract.dispatched = [] := Kernel.waiting_build _ _ _
  have room : twoSlots.room Contract.dispatched = some 2 := by decide +kernel
  have calm : ∀ errors, .failSubmits errors ∈ filledUp → errors = [] := by
    intro errors mem
    simpa [filledUp] using mem
  have holds := backpressure start_twoSlots rfl rfl room (by rw [empty]; decide) filledUp calm
  rw [empty] at holds
  have unlocked : ((starting (twoSlots.record (.opened Contract.dispatched)) oneSlotStream).run
      filledUp).stream.gate = .unlocked := by decide +kernel
  have stuck : ((starting (twoSlots.record (.opened Contract.dispatched)) oneSlotStream).run
      filledUp).Stuck 2 := .inr ⟨by decide +kernel, by decide +kernel⟩
  refine ⟨holds, unlocked, stuck, by decide +kernel, by decide +kernel, by decide +kernel,
    by decide +kernel, by decide +kernel, ?_⟩
  exact (holds.blocked unlocked stuck 1 (by decide +kernel)).mpr (by decide +kernel)

end DispatchRun

end SchedPlane
