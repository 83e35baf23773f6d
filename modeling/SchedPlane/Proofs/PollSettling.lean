/-
SchedPlane/Proofs/PollSettling.lean

How a poll thread comes to rest, and how it ends.

`EventStream.remaining` bounds the steps that the thread can still take with nobody else acting:
every step that it takes when it is not at rest lowers it, so `settle` brings it to rest.  A
thread that was asked to stop rests only when it has ended, and its end is the one moment at
which it writes to the journal: it releases its ring.  Together, `close` ends the thread and
releases the ring exactly once, whatever the thread was doing and whatever waits in the ring.
-/
import SchedPlane.Proofs.EventFlow
import SchedPlane.Proofs.KernelLife

namespace SchedPlane

open Kernel (Lived)

namespace EventStream

variable {α : Type} {k k' : Kernel} {s s' : EventStream α}

/-! ### Coming to rest -/

/-- The steps to the next record, or to rest, as far as the place of the thread tells them. -/
def weight (stop : Bool) : PollPhase α → Nat
  | .idle => if stop then 1 else 3
  | .reading => 2
  | .offering _ => 5
  | .stalled _ => 4
  | .awaiting _ => if stop then 5 else 3
  | .finished => 0

/-- A bound of the steps that the thread can take by itself. -/
def remaining (k : Kernel) (s : EventStream α) : Nat :=
  6 * (k.waiting s.map).length + s.failingPolls + weight s.stop s.phase

theorem remaining_le_bound (k : Kernel) (s : EventStream α) : s.remaining k ≤ s.bound k := by
  have light : weight s.stop s.phase ≤ 5 := by
    unfold weight
    split <;> (try split) <;> omega
  simp only [remaining, bound]
  omega

variable [EventRecord α]

/-- A step that the thread takes when it is not at rest brings it nearer to rest. -/
theorem pollStep_falls {r : Ring} (busy : s.atRest r = false) :
    6 * (s.pollStep r).1.records.length + (s.pollStep r).2.failingPolls +
        weight (s.pollStep r).2.stop (s.pollStep r).2.phase <
      6 * r.records.length + s.failingPolls + weight s.stop s.phase := by
  rcases here : s.phase with - | - | item | item | item | -
  · -- idle
    simp only [pollStep, here]
    rcases stop : s.stop with - | -
    · split
      · next h => cases h
      · split
        · simp only [weight]
          omega
        · simp [weight]
    · simp [weight]
  · -- reading: a record is worth more than any place
    simp only [pollStep, here]
    split
    · next b r' front =>
      have shorter := congrArg List.length (Kernel.pop?_records front)
      rw [List.length_cons] at shorter
      unfold accept
      split <;> simp only [weight] <;> omega
    · next front =>
      have empty : r.records = [] := Kernel.empty_of_pop? front
      simp only [atRest, here, empty, List.isEmpty_nil, Bool.and_true, Bool.not_eq_false'] at busy
      simp [weight, busy]
  · -- offering
    simp only [pollStep, here]
    split <;> simp [stall, deliver, weight]
  · -- stalled
    simp only [pollStep, here]
    rcases stop : s.stop with - | - <;> simp [discard, weight, stop]
  · -- awaiting: with the queue full it rests until the stop flag is set
    simp only [pollStep, here]
    split
    · next full =>
      simp only [atRest, here, full, Bool.and_true, Bool.not_eq_false'] at busy
      simp [weight, busy]
    · simp only [deliver, weight]
      split <;> omega
  · -- finished
    simp [atRest, here] at busy

/-- A thread that is not at rest gets nearer to it by each step. -/
theorem remaining_advance (busy : s.restsOn k = false) :
    (s.advance k).2.remaining (s.advance k).1 < s.remaining k := by
  unfold restsOn at busy
  rcases ring : k.rings.get? s.map with - | r
  · simp [ring] at busy
  · simp only [ring] at busy
    obtain ⟨same, waiting⟩ := advance_of_get? ring
    have map := (pollStep_move r s).map_eq
    simp only [remaining, same, map, waiting, Kernel.waiting_of_get? ring]
    exact pollStep_falls busy

/-- **The poll thread comes to rest.** -/
theorem restsOn_settle (k : Kernel) (s : EventStream α) :
    (s.settle k).2.restsOn (s.settle k).1 = true :=
  atRest_untilRest (fun p => p.2.remaining p.1) (fun _ busy => remaining_advance busy)
    (s.remaining_le_bound k)

/-! ### Ending -/

/-- A poll thread writes to the journal only when it ends. -/
theorem lived_advance (k : Kernel) (s : EventStream α) :
    Lived k (if (s.advance k).2.isFinished && !s.isFinished then [.released s.map] else [])
      (s.advance k).1 := by
  unfold advance
  split
  · simpa using Lived.refl k
  · next r _ =>
    simp only
    split
    · exact (Kernel.lived_setRing k s.map _).trans (Kernel.lived_releaseRing _ s.map)
    · exact Kernel.lived_setRing k s.map _

omit [EventRecord α] in
/-- A thread that rests although it was asked to stop has ended. -/
theorem isFinished_of_restsOn (ring : (k.rings.get? s.map).isSome) (stop : s.stop = true)
    (rests : s.restsOn k = true) : s.isFinished = true := by
  obtain ⟨r, hr⟩ := Option.isSome_iff_exists.mp ring
  rw [restsOn, hr] at rests
  rcases here : s.phase with - | - | item | item | item | - <;>
    simp [atRest, isFinished, here, stop] at rests ⊢

/-- What `p` has become of a running thread, `s`: it has ended and released its ring, or
neither. -/
structure Watched (k : Kernel) (s : EventStream α) (p : Kernel × EventStream α) : Prop where
  map : p.2.map = s.map
  lived : Lived k (if p.2.isFinished then [.released s.map] else []) p.1

namespace Watched

variable {p : Kernel × EventStream α}

omit [EventRecord α] in
theorem refl (running : s.isFinished = false) : Watched k s (k, s) :=
  ⟨rfl, by simpa [running] using Lived.refl k⟩

/-- A step writes into the journal only that the ring is released, at the end of the thread. -/
theorem advance (w : Watched k s p) : Watched k s (p.2.advance p.1) where
  map := ((advance_move p.1 p.2).map_eq).trans w.map
  lived := by
    have step := w.lived.trans (lived_advance p.1 p.2)
    rcases ended : p.2.isFinished with - | -
    · -- it ends in this step, or it goes on
      simpa [ended, w.map] using step
    · -- it had ended, and nothing happens any more
      have still : (p.2.advance p.1).2 = p.2 := advance_of_finished (phase_of_isFinished ended)
      rw [still, ended] at step ⊢
      simpa using step

theorem settle (w : Watched k s p) : Watched k s (p.2.settle p.1) :=
  untilRest_keeps (fun _ keeps => keeps.advance) w _

omit [EventRecord α] in
theorem requestStop (w : Watched k s p) : Watched k s (p.1, p.2.requestStop) :=
  ⟨w.map, w.lived⟩

end Watched

theorem stop_settle (k : Kernel) (s : EventStream α) : (s.settle k).2.stop = s.stop :=
  untilRest_keeps (P := fun p : Kernel × EventStream α => p.2.stop = s.stop)
    (fun p keeps => (advance_move p.1 p.2).stop_eq.trans keeps) rfl _

/-- **Closing ends the thread**, whatever happened to it since it was started. -/
theorem Watched.isFinished_close {p : Kernel × EventStream α} (w : Watched k s p)
    (ring : (k.rings.get? s.map).isSome) : (p.2.close p.1).2.isFinished = true := by
  have after : Watched k s (p.2.close p.1) := w.requestStop.settle
  refine isFinished_of_restsOn ?_ (stop_settle p.1 p.2.requestStop)
    (restsOn_settle p.1 p.2.requestStop)
  exact after.map ▸ after.lived.rings s.map ring

end EventStream

end SchedPlane
