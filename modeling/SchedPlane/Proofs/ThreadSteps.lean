/-
SchedPlane/Proofs/ThreadSteps.lean

What the steps of the threads keep.

A thread of a deployment serves one stream, makes a call-out, sends a decision, runs the loop or
tears the handle down, and whichever it is, four things stay in order: the streams stand where the
stage of the teardown says (`Handle.Staged`); the rings of the poll threads are there and the gate
counts exactly the sends behind it (`Deployment.Manned`); nobody is behind a gate that is shut, and
it is shut beyond its stage (`Handle.Gated`); and the flush thread is stopped behind a shut gate
only (`DispatchStream.Fenced`).

The last two are read off `DispatchStream.Turn`, which says all that a thread other than the
teardown can do to the dispatch stream.
-/
import SchedPlane.Proofs.HandleLife
import SchedPlane.Proofs.LineLosses

namespace SchedPlane

open Kernel (Lived)
open DispatchStream

namespace Deployment

variable {d d' : Deployment}

/-! ### Steps that leave the life of the handle alone -/

/-- A send leaves the kernel alone, and of the handle it moves the gate count and the queue only. -/
theorem step_send (d : Deployment) (n : Nat) :
    (d.step (.dispatch (.send n))).kernel = d.kernel ∧
      d.handle.Still (d.step (.dispatch (.send n))).handle := by
  refine ⟨rfl, Handle.still_dispatch ?_⟩
  rcases d.line.sendStep_cases n with ⟨same, -⟩ | ⟨before, p, after, -, moved, -⟩
  · show d.handle.dispatch.Still (d.line.sendStep n).stream
    rw [same]
    exact still_refl _
  · show d.handle.dispatch.Still (d.line.sendStep n).stream
    rw [moved]
    exact still_sendStep _ p

/-- A call-out runs subprograms and counts. -/
theorem step_call (d : Deployment) (n : Nat) :
    Lived d.kernel [] (d.step (.call n)).kernel ∧
      d.handle.Still (d.step (.call n)).handle := by
  simp only [step]
  split
  · exact ⟨.refl _, .refl _⟩
  · exact ⟨Call.lived_step _ _ _ _, d.handle.still_invoker _⟩

/-- The loop takes from the queues, makes call-outs and sends, none of which moves the life of the
handle. -/
theorem step_place (d : Deployment) :
    Lived d.kernel [] (d.step .place).kernel ∧ d.handle.Still (d.step .place).handle := by
  simp only [step]
  split
  · exact ⟨.refl _, .refl _⟩
  · next p _ => exact ⟨p.lived_step d.kernel d.handle, p.still_step d.kernel d.handle⟩

/-- The streams stay in order at every step of a thread. -/
theorem staged_step (s : d.handle.Staged) (a : Actor) : (d.step a).handle.Staged := by
  cases a with
  | teardown => exact s.teardown (d.handle.teardownStep_move d.kernel)
  | pollExits => exact s.pollExits d.kernel
  | pollQueued => exact s.pollQueued d.kernel
  | dispatch a =>
    cases a with
    | flush => exact s.flush d.kernel
    | send n => exact s.still (d.step_send n).2
  | call n => exact s.still (d.step_call n).2
  | place => exact s.still d.step_place.2

/-- Only the teardown itself moves the teardown. -/
theorem teardown_step (d : Deployment) {a : Actor} (other : a ≠ .teardown) :
    (d.step a).handle.teardown = d.handle.teardown ∧
      (d.step a).handle.probes = d.handle.probes := by
  cases a with
  | teardown => exact absurd rfl other
  | pollExits | pollQueued => exact ⟨rfl, rfl⟩
  | dispatch a =>
    cases a with
    | flush => exact ⟨rfl, rfl⟩
    | send n => exact ⟨(d.step_send n).2.teardown, (d.step_send n).2.probes⟩
  | call n => exact ⟨(d.step_call n).2.teardown, (d.step_call n).2.probes⟩
  | place => exact ⟨d.step_place.2.teardown, d.step_place.2.probes⟩

/-! ### Rings and the gate -/

/-- The number of sends behind the gate of the dispatch stream, the loop's own included. -/
def behind (d : Deployment) : Nat :=
  d.line.behind + (d.loop.map (·.phase.behind)).getD 0

/-- The poll threads have their rings, and the gate counts the sends behind it. -/
structure Manned (d : Deployment) : Prop where
  exits : (d.kernel.rings.get? Contract.exit).isSome
  queued : (d.kernel.rings.get? Contract.queued).isSome
  inside : d.handle.dispatch.inside = d.behind

/-- What takes no ring away and concerns no send changes nothing. -/
theorem Manned.frame (m : d.Manned)
    (rings : ∀ map, (d.kernel.rings.get? map).isSome → (d'.kernel.rings.get? map).isSome)
    (inside : d'.handle.dispatch.inside = d.handle.dispatch.inside)
    (senders : d'.senders = d.senders) (loop : d'.loop = d.loop) : d'.Manned where
  exits := rings _ m.exits
  queued := rings _ m.queued
  inside := by
    rw [inside, m.inside, behind, behind, loop, Line.behind, Line.behind]
    simp only [line, senders]

end Deployment

/-- A step of the loop moves it past the gate or back, and moves no other send. -/
theorem PlacementLoop.inside_step {k : Kernel} {h : Handle} {p : PlacementLoop} {others : Nat}
    (count : h.dispatch.inside = p.phase.behind + others) :
    (p.step k h).2.1.dispatch.inside = (p.step k h).2.2.phase.behind + others := by
  have move := p.step_move k h
  generalize p.answers k h = told, p.step k h = out at move ⊢
  obtain ⟨k', h', p'⟩ := out
  cases move with
  | look here there =>
    have free := (PlacePhase.empty_of_isFree (.inl here)).behind
    have free' := (PlacePhase.empty_of_isFree there).behind
    simp only [free, free'] at count ⊢
    exact count
  | readExit here => exact count
  | take here | ask here | place here | giveUp here =>
    simpa [here, PlacePhase.behind, Sender.behind] using count
  | @send s s' dispatch here move =>
    rw [here] at count
    have moved : dispatch.inside = s'.behind + others := move.inside_eq count
    have after : (p.afterSend s').phase.behind = s'.behind := by
      rcases s' with d | d | (accepted | accepted) <;> rfl
    show dispatch.inside = (p.afterSend s').phase.behind + others
    rw [after]
    exact moved
  | rest => exact count

namespace Deployment

variable {d d' : Deployment}

/-- The rings and the gate stay in order at every step of a thread. -/
theorem Manned.step (m : d.Manned) (a : Actor) : (d.step a).Manned := by
  cases a with
  | teardown =>
    have move := d.handle.teardownStep_move d.kernel
    refine m.frame (fun map ring => ?_) move.inside_eq rfl rfl
    show ((d.handle.teardownStep d.kernel).1.rings.get? map).isSome
    rw [move.keepsRings.rings]
    exact ring
  | pollExits => exact m.frame (d.handle.exits.lived_advance d.kernel).rings rfl rfl rfl
  | pollQueued => exact m.frame (d.handle.queued.lived_advance d.kernel).rings rfl rfl rfl
  | dispatch a =>
    cases a with
    | flush =>
      refine m.frame (d.handle.dispatch.lived_advance d.kernel).rings ?_ rfl rfl
      show (d.handle.dispatch.advance d.kernel).2.inside = d.handle.dispatch.inside
      rw [(d.handle.dispatch.advance_move d.kernel).frame]
    | send n =>
      refine ⟨m.exits, m.queued, ?_⟩
      show (d.line.sendStep n).stream.inside =
        (d.line.sendStep n).behind + (d.loop.map (·.phase.behind)).getD 0
      rcases d.line.sendStep_cases n with ⟨same, -⟩ | ⟨before, p, after, split, moved, -⟩
      · rw [same]
        exact m.inside
      · rw [moved, Line.behind_split rfl, Nat.add_assoc]
        refine (sendStep_move d.line.stream p).inside_eq ?_
        rw [← Nat.add_assoc, ← Line.behind_split split]
        exact m.inside
  | call n =>
    have lived := (d.step_call n).1
    refine m.frame lived.rings ?_ ?_ ?_ <;> simp only [Deployment.step] <;> split <;> rfl
  | place =>
    rcases loop : d.loop with - | p
    · have same : d.step .place = d := by simp only [Deployment.step, loop]
      rw [same]
      exact m
    · have count : d.handle.dispatch.inside = p.phase.behind + d.line.behind := by
        rw [m.inside, behind, loop, Nat.add_comm]
        rfl
      have counted := PlacementLoop.inside_step (k := d.kernel) count
      have lived := d.step_place.1
      refine ⟨lived.rings _ m.exits, lived.rings _ m.queued, ?_⟩
      simp only [Deployment.step, loop, behind]
      rw [counted, Nat.add_comm]
      rfl

end Deployment

/-! ### What the threads do to the dispatch stream -/

namespace DispatchStream

variable {s s' : DispatchStream}

/-- Behind a closed gate a send that is outside does nothing to the stream. -/
theorem SendMove.eq_of_closed {p p' : Sender} (move : SendMove s p s' p')
    (closed : s.gate = .closed)
    (outside : p.behind = 0) : s' = s := by
  cases move with
  | enter unlocked =>
    rw [closed] at unlocked
    cases unlocked
  | kept | turnedAway | done => rfl
  | timeOut | lost | join => cases outside

/-- What the threads of a deployment do to the dispatch stream, but for the one that closes it. -/
inductive Turn (s : DispatchStream) : DispatchStream → Prop
  | none : Turn s s
  | flush {answer : Kernel.SubmitAnswer} {s' : DispatchStream} (move : FlushMove answer s s') :
      Turn s s'
  | send {p p' : Sender} {s' : DispatchStream} (move : SendMove s p s' p') : Turn s s'

namespace Turn

theorem gate_eq (turn : Turn s s') : s'.gate = s.gate := by
  cases turn with
  | none => rfl
  | flush move => exact move.gate_eq
  | send move => exact move.gate_eq

theorem stop_eq (turn : Turn s s') : s'.stop = s.stop := by
  cases turn with
  | none => rfl
  | flush move => exact move.stop_eq
  | send move => rw [move.frame]

theorem isFinished (turn : Turn s s') (ended : s.isFinished = true) : s'.isFinished = true := by
  cases turn with
  | none => exact ended
  | flush move => exact move.isFinished ended
  | send move =>
    rw [move.frame]
    exact ended

/-- Nobody gets behind a gate that is not open. -/
theorem inside_le (turn : Turn s s') (kept : s.gate ≠ .unlocked) : s'.inside ≤ s.inside := by
  cases turn with
  | none => exact Nat.le_refl _
  | flush move => exact Nat.le_of_eq (by rw [move.frame])
  | send move =>
    cases move with
    | enter unlocked => exact absurd unlocked kept
    | kept | turnedAway | done => exact Nat.le_refl _
    | timeOut | lost | join => exact Nat.sub_le _ _

end Turn

end DispatchStream

/-- No thread but the teardown does anything else to the dispatch stream. -/
theorem Deployment.turn_dispatch (d : Deployment) {a : Actor} (other : a ≠ .teardown) :
    Turn d.handle.dispatch (d.step a).handle.dispatch := by
  cases a with
  | teardown => exact absurd rfl other
  | pollExits | pollQueued => exact .none
  | dispatch a =>
    cases a with
    | flush => exact .flush (d.handle.dispatch.advance_move d.kernel)
    | send n =>
      show Turn d.handle.dispatch (d.line.sendStep n).stream
      rcases d.line.sendStep_cases n with ⟨same, -⟩ | ⟨before, p, after, -, moved, -⟩
      · rw [same]
        exact .none
      · rw [moved]
        exact .send (sendStep_move d.line.stream p)
  | call n =>
    simp only [step]
    split <;> exact .none
  | place =>
    simp only [step]
    split
    · exact .none
    · next p _ =>
      have move := p.step_move d.kernel d.handle
      generalize p.answers d.kernel d.handle = told, p.step d.kernel d.handle = out at move ⊢
      obtain ⟨k', h', p'⟩ := out
      cases move with
      | send _ move => exact .send move
      | look | readExit | take | ask | place | giveUp | rest => exact .none

/-! ### The gate during a close -/

namespace Handle

variable {k k' : Kernel} {h h' : Handle}

/-- Nobody is behind a shut gate, and beyond its stage of the teardown the gate is shut. -/
structure Gated (h : Handle) : Prop where
  empty : h.dispatch.gate = .closed → h.dispatch.inside = 0
  shut : 3 ≤ h.teardown.rank → h.dispatch.gate = .closed

/-- The gate of a handle that was just loaded is open, and nobody is behind it. -/
theorem Gated.fresh {c : Controller} (fresh : Fresh c h) : h.Gated := by
  obtain ⟨-, teardown, -, -, dispatch⟩ := fresh
  constructor <;> simp [teardown, dispatch, Teardown.rank]

/-- What changes neither the gate nor the stage changes nothing. -/
theorem Gated.frame (g : h.Gated) (gate : h'.dispatch.gate = h.dispatch.gate)
    (inside : h'.dispatch.inside = h.dispatch.inside) (teardown : h'.teardown = h.teardown) :
    h'.Gated where
  empty := by rw [gate, inside]; exact g.empty
  shut := by rw [gate, teardown]; exact g.shut

/-- Nobody gets behind a shut gate, and no thread but the teardown opens it or goes on to the next
stage. -/
theorem Gated.turn (g : h.Gated) (turn : Turn h.dispatch h'.dispatch)
    (teardown : h'.teardown = h.teardown) : h'.Gated where
  empty := by
    intro shut
    have gate : h.dispatch.gate = .closed := turn.gate_eq.symm.trans shut
    have fewer := turn.inside_le (by simp [gate])
    rw [g.empty gate] at fewer
    exact Nat.le_zero.mp fewer
  shut := by
    rw [turn.gate_eq, teardown]
    exact g.shut

theorem Gated.beginClose (g : h.Gated) : h.beginClose.Gated := by
  unfold Handle.beginClose
  split
  · exact g
  · refine ⟨g.empty, ?_⟩
    intro past
    simp [Teardown.rank] at past

/-- The teardown closes the gate when nobody is behind it, and goes on only then. -/
theorem Gated.teardown (g : h.Gated) (move : h.TeardownMove k k' h') : h'.Gated := by
  cases move with
  | rest => exact g
  | askExits | askQueued | dropProbe => exact g.frame rfl rfl rfl
  | passExits =>
    refine ⟨g.empty, ?_⟩
    intro past
    simp [Teardown.rank] at past
  | closeDispatch here =>
    refine ⟨?_, ?_⟩
    · show h.dispatch.closeStep.gate = .closed → h.dispatch.closeStep.inside = 0
      have move := h.dispatch.closeStep_move
      generalize h.dispatch.closeStep = s at move ⊢
      cases move with
      | request => exact fun shut => by cases shut
      | wait | stop => exact g.empty
      | shut _ none => exact fun _ => none
    · intro past
      simp [here, Teardown.rank] at past
  | passDispatch here closed =>
    -- the stage is left through a shut gate
    simp only [isClosed, Bool.and_eq_true, decide_eq_true_eq] at closed
    exact ⟨g.empty, fun _ => closed.1.1⟩
  | passQueued here | dropScheduler here | passProbes here | unload here =>
    have shut := g.shut (by simp [here, Teardown.rank])
    exact ⟨g.empty, fun _ => shut⟩

end Handle

namespace DispatchStream

variable {s s' : DispatchStream}

/-- The stop flag is set behind a closed gate only, and a thread that has come to its end by itself
has left nothing in the queue. -/
structure Fenced (s : DispatchStream) : Prop where
  stopped : s.stop = true → s.gate = .closed
  emptied : s.phase = .finished → s.queue = []

/-- No thread but the teardown sets the stop flag, and the queue of a flush thread that has ended
stays empty. -/
theorem Fenced.turn (f : s.Fenced) (turn : Turn s s') : s'.Fenced where
  stopped := by
    rw [turn.stop_eq, turn.gate_eq]
    exact f.stopped
  emptied ended := by
    cases turn with
    | none => exact f.emptied ended
    | flush move => exact move.emptied f.emptied ended
    | send move =>
      have frame := move.frame
      have here : s.phase = .finished := by
        rw [frame] at ended
        exact ended
      rw [frame, move.joined_of_isFinished (by simp [DispatchStream.isFinished, here]),
        f.emptied here]
      rfl

/-- Closing sets the stop flag behind the gate that it has closed. -/
theorem Fenced.close (f : s.Fenced) : s.closeStep.Fenced where
  stopped := by
    have move := s.closeStep_move
    generalize s.closeStep = s' at move ⊢
    cases move with
    | request gate =>
      intro stop
      cases gate.symm.trans (f.stopped stop)
    | wait => exact f.stopped
    | shut => exact fun _ => rfl
    | stop gate => exact fun _ => gate
  emptied := by
    rw [closeStep_frame]
    exact f.emptied

end DispatchStream

namespace Deployment

variable {d : Deployment}

/-- No thread gets behind a shut gate. -/
theorem gated_step (g : d.handle.Gated) (a : Actor) : (d.step a).handle.Gated := by
  by_cases own : a = .teardown
  · subst own
    exact g.teardown (d.handle.teardownStep_move d.kernel)
  · exact g.turn (d.turn_dispatch own) (d.teardown_step own).1

theorem fenced_step (f : d.handle.dispatch.Fenced) (a : Actor) :
    (d.step a).handle.dispatch.Fenced := by
  by_cases own : a = .teardown
  · subst own
    rcases (d.handle.teardownStep_move d.kernel).dispatch_cases with same | closing
    · exact same ▸ f
    · exact closing ▸ f.close
  · exact f.turn (d.turn_dispatch own)

/-- A dispatch stream that is being stopped is left alone by all but its flush thread. -/
theorem dispatch_step (m : d.Manned) (g : d.handle.Gated) (f : d.handle.dispatch.Fenced)
    (stop : d.handle.dispatch.stop = true) {a : Actor} (other : a ≠ .dispatch .flush) :
    (d.step a).handle.dispatch = d.handle.dispatch := by
  have gate := f.stopped stop
  have outside : d.behind = 0 := m.inside.symm.trans (g.empty gate)
  cases a with
  | teardown =>
    have same : d.handle.dispatch.closeStep = d.handle.dispatch := by
      rw [closeStep_of_closed gate, ← stop]
    rcases (d.handle.teardownStep_move d.kernel).dispatch_cases with left | closing
    · exact left
    · exact closing.trans same
  | pollExits | pollQueued => rfl
  | dispatch a =>
    cases a with
    | flush => exact absurd rfl other
    | send n =>
      show (d.line.sendStep n).stream = d.handle.dispatch
      rcases d.line.sendStep_cases n with ⟨same, -⟩ | ⟨before, p, after, split, moved, -⟩
      · rw [same]
        rfl
      · have none : d.line.behind = 0 := (Nat.add_eq_zero_iff.mp outside).1
        rw [Line.behind_split split] at none
        rw [moved]
        exact (sendStep_move d.line.stream p).eq_of_closed gate (by omega)
  | call n =>
    simp only [step]
    split <;> rfl
  | place =>
    rcases loop : d.loop with - | p
    · simp only [step, loop]
    · have none : p.phase.behind = 0 := by
        have counted := (Nat.add_eq_zero_iff.mp outside).2
        rwa [loop] at counted
      have move := p.step_move d.kernel d.handle
      simp only [step, loop]
      generalize p.answers d.kernel d.handle = told, p.step d.kernel d.handle = out at move ⊢
      obtain ⟨k', h', p'⟩ := out
      cases move with
      | send here move =>
        rw [here] at none
        exact move.eq_of_closed gate none
      | look | readExit | take | ask | place | giveUp | rest => rfl

end Deployment

end SchedPlane
