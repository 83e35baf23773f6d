/-
SchedPlane/Proofs/KernelRuns.lean

What runs the subprograms of an object, and what does not.

A subprogram runs in one step of a call-out, and nowhere else: attaching, the teardown and the
threads of the streams leave the subprograms and their run counts as they are (`KeepsRuns`), and so
does what the kernel does by itself, unless it replaces a body.  Attaching and closing leave the
invoker alone, too.

`CallMove` lists all that a step of a call-out can do.
-/
import SchedPlane.Proofs.HandleLife

namespace SchedPlane

namespace Kernel

variable {k k' k'' : Kernel} {map : String} {b : Bytes}

/-- The subprograms and their run counts have stayed as they were. -/
structure KeepsRuns (k k' : Kernel) : Prop where
  subprograms : k'.subprograms = k.subprograms
  runCounts : k'.runCounts = k.runCounts

theorem KeepsRuns.refl (k : Kernel) : KeepsRuns k k :=
  ⟨rfl, rfl⟩

theorem KeepsRuns.trans (h : KeepsRuns k k') (h' : KeepsRuns k' k'') : KeepsRuns k k'' :=
  ⟨h'.subprograms.trans h.subprograms, h'.runCounts.trans h.runCounts⟩

theorem keepsRuns_setRing (k : Kernel) (map : String) (r : Ring) : KeepsRuns k (k.setRing map r) :=
  ⟨rfl, rfl⟩

theorem keepsRuns_produce (k : Kernel) (map : String) (b : Bytes) :
    KeepsRuns k (k.produce map b).2 := by
  rcases produce_cases k map b with e | ⟨r, -, e⟩
  · rw [e]
    exact .refl k
  · rw [e]
    exact keepsRuns_setRing k map r

theorem keepsRuns_submit (k : Kernel) (map : String) (b : Bytes) :
    KeepsRuns k (k.submit map b).2 := by
  rcases submit_cases k map b with ⟨-, e⟩ | ⟨r, -, e⟩
  · rw [e]
    exact .refl k
  · rw [e]
    exact keepsRuns_setRing k map r

theorem keepsRuns_takeDispatched (h : k.takeDispatched = some (b, k')) : KeepsRuns k k' := by
  obtain ⟨_, r', -, -, rfl⟩ := takeDispatched_eq_some h
  exact keepsRuns_setRing k _ r'

theorem keepsRuns_releaseRing (k : Kernel) (map : String) : KeepsRuns k (k.releaseRing map) :=
  ⟨rfl, rfl⟩

theorem keepsRuns_detach (k : Kernel) (l : Link) : KeepsRuns k (k.detach l).2 := by
  rw [detach_snd]
  exact ⟨rfl, rfl⟩

theorem keepsRuns_close (k : Kernel) : KeepsRuns k k.close.2 := by
  unfold close
  split
  · exact .refl k
  · split <;> exact ⟨rfl, rfl⟩

/-- A run does not replace a body. -/
theorem subprograms_runLoaded (k : Kernel) (name : String) (context : Bytes) :
    (k.runLoaded name context).2.subprograms = k.subprograms := by
  unfold runLoaded
  split <;> rfl

/-- What a subprogram answers depends on its body alone. -/
theorem runLoaded_congr (same : k'.subprograms = k.subprograms) (name : String)
    (context : Bytes) : (k'.runLoaded name context).1 = (k.runLoaded name context).1 := by
  unfold runLoaded
  rw [same]
  split <;> rfl

end Kernel

open Kernel (KeepsRuns)

/-! ### Handles and streams -/

theorem Handle.keepsRuns_attach (k : Kernel) (h : Handle) : KeepsRuns k (h.attach k).2.1 := by
  cases asks : h.asks with
  | false =>
    rw [attach_of_not_asks asks]
    exact .refl k
  | true =>
    rcases attach_of_asks asks k with ⟨e, -, answer⟩ | ⟨l, k', -, rfl, answer⟩
    · rw [answer]
      exact .refl k
    · rw [answer]
      exact ⟨rfl, rfl⟩

theorem Handle.keepsRuns_detachAll (k : Kernel) (links : List Link) :
    KeepsRuns k (detachAll k links) := by
  induction links generalizing k with
  | nil => exact .refl k
  | cons l rest ih => exact (k.keepsRuns_detach l).trans (ih (k.detach l).2)

theorem Handle.TeardownMove.keepsRuns {h h' : Handle} (move : h.TeardownMove k k' h') :
    KeepsRuns k k' := by
  cases move with
  | dropScheduler => exact keepsRuns_detachAll k _
  | dropProbe => exact k.keepsRuns_detach _
  | unload => exact k.keepsRuns_close
  | rest | askExits | passExits | closeDispatch | passDispatch | askQueued | passQueued
  | passProbes => exact .refl k

theorem Handle.invoker_attach (k : Kernel) (h : Handle) :
    (h.attach k).2.2.invoker = h.invoker := by
  cases asks : h.asks with
  | false => rw [attach_of_not_asks asks]
  | true =>
    rcases attach_of_asks asks k with ⟨e, -, answer⟩ | ⟨l, k', -, -, answer⟩
    · rw [answer]
    · rw [answer]
      rfl

theorem Handle.invoker_beginClose (h : Handle) : h.beginClose.invoker = h.invoker := by
  rw [beginClose_frame]

theorem Handle.invoker_teardownStep (k : Kernel) (h : Handle) :
    (h.teardownStep k).2.invoker = h.invoker := by
  rw [(h.teardownStep_move k).frame]

theorem EventStream.keepsRuns_advance {α : Type} [EventRecord α] (k : Kernel) (s : EventStream α) :
    KeepsRuns k (s.advance k).1 := by
  unfold advance
  split
  · exact .refl k
  · next r _ =>
    have popped := k.keepsRuns_setRing s.map (s.pollStep r).1
    simp only
    split
    · exact popped.trans (Kernel.keepsRuns_releaseRing _ s.map)
    · exact popped

theorem DispatchStream.keepsRuns_advance (k : Kernel) (s : DispatchStream) :
    KeepsRuns k (s.advance k).1 := by
  have submitted : KeepsRuns k (s.submitOn k).2 := by
    unfold submitOn
    split
    · exact k.keepsRuns_submit s.map _
    · exact .refl k
  rw [advance_eq]
  simp only
  split
  · exact submitted.trans (Kernel.keepsRuns_releaseRing _ s.map)
  · exact submitted

/-! ### Moves of a call-out -/

/-- Whether a call has found the handle open and has not returned. -/
def CallPhase.admitted : CallPhase → Bool
  | .entering | .returned _ => false
  | _ => true

/-- What a step of a call-out can do. -/
inductive CallMove (closed : Bool) (k : Kernel) (i : Invoker) (q : CallRequest) :
    CallPhase → Kernel → Invoker → CallPhase → Prop
  /-- The handle is closed. -/
  | turnedAway (shut : closed = true) :
      CallMove closed k i q .entering k i (.returned (.failed .closed))
  | unbound (opened : closed = false) (none : q.callee i = none) :
      CallMove closed k i q .entering k i (.returned (.failed (.subprogramUnavailable q.role)))
  | enter {p : Callee} (opened : closed = false) (bound : q.callee i = some p) :
      CallMove closed k i q .entering k i .locking
  | wait {p : Callee} (bound : q.callee i = some p) (busy : p.busy = true) :
      CallMove closed k i q .locking k i .locking
  | lock {p : Callee} (bound : q.callee i = some p) (free : p.busy = false) :
      CallMove closed k i q .locking k (q.setCallee i { p with busy := true }) .counting
  | count {p : Callee} (bound : q.callee i = some p) :
      CallMove closed k i q .counting k (q.setCallee i p.count) .starting
  | start {p : Callee} (bound : q.callee i = some p) (loaded : k.unloaded = false) :
      CallMove closed k i q .starting k i .launching
  /-- The object is no longer loaded. -/
  | refuse {p : Callee} (bound : q.callee i = some p) (unloaded : k.unloaded = true) :
      CallMove closed k i q .starting k i (.failing .unloaded)
  | launch {p : Callee} (bound : q.callee i = some p) :
      CallMove closed k i q .launching (k.runLoaded p.name q.context).2 i
        (.running (k.runLoaded p.name q.context).1)
  | answer {p : Callee} {word : UInt32} (bound : q.callee i = some p) :
      CallMove closed k i q (.running (.ok word)) k (q.setCallee i p.unlock)
        (Call.afterWord word q)
  | stumble {p : Callee} {e : ObjectError} (bound : q.callee i = some p) :
      CallMove closed k i q (.running (.error e)) k i (.failing e)
  | fail {p : Callee} {e : ObjectError} (bound : q.callee i = some p) :
      CallMove closed k i q (.failing e) k (q.setCallee i p.fail.unlock)
        (.returned (.failed (p.failure e)))
  | reject {p : Callee} {code : UInt32} (bound : q.callee i = some p) :
      CallMove closed k i q (.rejected code) k (q.setCallee i p.fail)
        (.returned (.failed (.domainConfig code)))
  /-- A call cannot get here: its subprogram was bound when it entered. -/
  | astray {phase : CallPhase} (inside : phase.admitted = true) (none : q.callee i = none) :
      CallMove closed k i q phase k i (.returned (.failed (.subprogramUnavailable q.role)))
  | rest {r : CallResult} : CallMove closed k i q (.returned r) k i (.returned r)

/-- Every step of a call-out is a move. -/
theorem Call.step_move (closed : Bool) (k : Kernel) (i : Invoker) (q : CallRequest)
    (phase : CallPhase) :
    ∃ k' i' phase', step closed k i { request := q, phase } =
        (k', i', { request := q, phase := phase' }) ∧
      CallMove closed k i q phase k' i' phase' := by
  -- whether a subprogram is bound decides first, and then the place of the call
  rcases bound : q.callee i with - | p
  · cases phase with
    | entering =>
      cases closed with
      | true => exact ⟨_, _, _, by simp [step, Invoker.check, goto], .turnedAway rfl⟩
      | false => exact ⟨_, _, _, by simp [step, Invoker.check, bound, goto], .unbound rfl bound⟩
    | returned r => exact ⟨_, _, _, rfl, .rest⟩
    | locking | counting | starting | launching | running | failing | rejected =>
      exact ⟨_, _, _, by simp [step, bound, goto], .astray rfl bound⟩
  · cases phase with
    | entering =>
      cases closed with
      | true => exact ⟨_, _, _, by simp [step, Invoker.check, goto], .turnedAway rfl⟩
      | false =>
        exact ⟨_, _, _, by simp [step, Invoker.check, bound, stepOn, goto], .enter rfl bound⟩
    | locking =>
      cases busy : p.busy with
      | true => exact ⟨_, _, _, by simp [step, bound, stepOn, busy], .wait bound busy⟩
      | false => exact ⟨_, _, _, by simp [step, bound, stepOn, busy, goto], .lock bound busy⟩
    | counting => exact ⟨_, _, _, by simp [step, bound, stepOn, goto], .count bound⟩
    | starting =>
      cases loaded : k.unloaded with
      | true =>
        exact ⟨_, _, _, by simp [step, bound, stepOn, Kernel.ensureLoaded, loaded, goto],
          .refuse bound loaded⟩
      | false =>
        exact ⟨_, _, _, by simp [step, bound, stepOn, Kernel.ensureLoaded, loaded, goto],
          .start bound loaded⟩
    | launching => exact ⟨_, _, _, by simp [step, bound, stepOn, goto], .launch bound⟩
    | running outcome =>
      cases outcome with
      | ok word => exact ⟨_, _, _, by simp [step, bound, stepOn, goto], .answer bound⟩
      | error e => exact ⟨_, _, _, by simp [step, bound, stepOn, goto], .stumble bound⟩
    | failing e => exact ⟨_, _, _, by simp [step, bound, stepOn, goto], .fail bound⟩
    | rejected code => exact ⟨_, _, _, by simp [step, bound, stepOn, goto], .reject bound⟩
    | returned r => exact ⟨_, _, _, rfl, .rest⟩

end SchedPlane
