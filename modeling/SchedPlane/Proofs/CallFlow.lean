/-
SchedPlane/Proofs/CallFlow.lean

What a call-out carries, and what it does to its subprogram.

Looking at the closed flag, taking the lock, counting, looking whether the object is loaded, running
the body and counting a failure are steps of their own, and anything may happen between two of them.
Three things can be said of each step of a call:

* `Faithful` is kept: what the call has at hand is what it would have without a close, unless it has
  met the closed flag or the unloaded object, and then it says that the handle is closed;
* its subprogram `Follows`: the lock and the counters are as much further as the call is, and so the
  subprogram stays `Balanced`: the lock is taken just if one call is at a place where it holds it,
  and the two counters are the numbers of the calls that have come so far;
* the call comes nearer to its return (`CallPhase.rank`), unless it waits for the lock.
-/
import SchedPlane.Proofs.KernelRuns

namespace SchedPlane

/-! ### A call-out without a close -/

namespace Callee

variable {k : Kernel} {p : Callee} {context : Bytes}

/-- On a loaded object a body that answers counts an invocation and no failure. -/
theorem invoke_of_ok {word : UInt32} (loaded : k.unloaded = false)
    (answers : (k.runLoaded p.name context).1 = .ok word) :
    p.invoke k context = (.ok word, (k.runLoaded p.name context).2, p.count) := by
  have runs : k.run p.name context = (.ok word, (k.runLoaded p.name context).2) := by
    simp only [Kernel.run, Kernel.ensureLoaded, loaded, ← answers]
    rfl
  rw [invoke, runs]

/-- On a loaded object a body that fails counts an invocation and a failure. -/
theorem invoke_of_error {e : ObjectError} (loaded : k.unloaded = false)
    (answers : (k.runLoaded p.name context).1 = .error e) :
    p.invoke k context = (.error (p.failure e), (k.runLoaded p.name context).2, p.count.fail) := by
  have fails : k.run p.name context = (.error e, (k.runLoaded p.name context).2) := by
    simp only [Kernel.run, Kernel.ensureLoaded, loaded, ← answers]
    rfl
  rw [invoke, fails]

end Callee

namespace CallRequest

variable {k : Kernel} {i : Invoker} {p : Callee} {q r : CallRequest}

/-- What a call-out on an open handle comes to if nothing comes between its steps. -/
def alone (k : Kernel) (i : Invoker) : CallRequest → CallResult
  | .select t =>
    match (i.select false k t).1 with
    | .ok s => .selected s
    | .error e => .failed e
  | .enableSibling r =>
    match (i.enableSibling false k r).1 with
    | .ok () => .enabled
    | .error e => .failed e

theorem callee_setCallee (q : CallRequest) (i : Invoker) (p : Callee) :
    q.callee (q.setCallee i p) = some p := by
  cases q <;> rfl

/-- Calls of different roles run different subprograms. -/
theorem callee_setCallee_of_ne (apart : r.role ≠ q.role) (i : Invoker) (p : Callee) :
    r.callee (q.setCallee i p) = r.callee i := by
  cases r <;> cases q <;> first | rfl | exact absurd rfl apart

theorem callee_of_role (same : r.role = q.role) (i : Invoker) : r.callee i = q.callee i := by
  have different : Contract.selectCpu ≠ Contract.siblingCpu := by decide
  cases r <;> cases q
  · rfl
  · exact absurd same different
  · exact absurd same.symm different
  · rfl

/-- A subprogram is replaced by one of the same name only. -/
theorem name_setCallee {p' : Callee} (bound : q.callee i = some p) (name : p'.name = p.name)
    (r : CallRequest) :
    (r.callee (q.setCallee i p')).map Callee.name = (r.callee i).map Callee.name := by
  by_cases same : r.role = q.role
  · rw [callee_of_role same, callee_of_role same, callee_setCallee, bound]
    exact congrArg some name
  · rw [callee_setCallee_of_ne same]

theorem alone_of_unbound (none : q.callee i = none) (k : Kernel) :
    q.alone k i = .failed (.subprogramUnavailable q.role) := by
  cases q with
  | select t =>
    have none' : i.selectCpu = Option.none := none
    simp [alone, Invoker.select, Invoker.check, none', role]
  | enableSibling r =>
    have none' : i.siblingCpu = Option.none := none
    simp [alone, Invoker.enableSibling, Invoker.check, none', role]

theorem alone_of_error {e : ObjectError} (loaded : k.unloaded = false)
    (bound : q.callee i = some p) (answers : (k.runLoaded p.name q.context).1 = .error e) :
    q.alone k i = .failed (p.failure e) := by
  cases q with
  | select t =>
    have bound' : i.selectCpu = some p := bound
    have fails : p.invoke k t.encode = _ := Callee.invoke_of_error loaded answers
    simp [alone, Invoker.select, Invoker.check, bound', fails]
  | enableSibling r =>
    have bound' : i.siblingCpu = some p := bound
    have fails : p.invoke k r.encode = _ := Callee.invoke_of_error loaded answers
    simp [alone, Invoker.enableSibling, Invoker.check, bound', fails]

/-- The word of the body decides; a relation that is rejected is a failure yet to be counted. -/
theorem alone_of_word {word : UInt32} (loaded : k.unloaded = false) (bound : q.callee i = some p)
    (answers : (k.runLoaded p.name q.context).1 = .ok word) :
    Call.afterWord word q = .returned (q.alone k i) ∨
      Call.afterWord word q = .rejected word ∧
        q.alone k i = .failed (.domainConfig word) := by
  cases q with
  | select t =>
    have bound' : i.selectCpu = some p := bound
    have runs : p.invoke k t.encode = _ := Callee.invoke_of_ok loaded answers
    left
    simp [alone, Invoker.select, Invoker.check, bound', runs, Call.afterWord]
  | enableSibling r =>
    have bound' : i.siblingCpu = some p := bound
    have runs : p.invoke k r.encode = _ := Callee.invoke_of_ok loaded answers
    by_cases accepted : word = 0
    · left
      simp [alone, Invoker.enableSibling, Invoker.check, bound', runs, Call.afterWord, accepted]
    · right
      simp [alone, Invoker.enableSibling, Invoker.check, bound', runs, Call.afterWord, accepted]

end CallRequest

/-! ### Where a call is -/

namespace CallPhase

/-- Whether a call that is here holds the lock of its subprogram. -/
def holds : CallPhase → Bool
  | .counting | .starting | .launching | .running _ | .failing _ => true
  | _ => false

/-- Whether a call that is here was counted, if it found the handle open. -/
def counted : CallPhase → Bool
  | .entering | .locking | .counting => false
  | _ => true

/-- Whether a call has returned an error. -/
def failed : CallPhase → Bool
  | .returned (.failed _) => true
  | _ => false

/-- Whether the next step of a call that is here finds the handle open. -/
def passes (closed : Bool) : CallPhase → Bool
  | .entering => !closed
  | _ => false

end CallPhase

theorem CallPhase.counted_of_failed {phase : CallPhase} (failed : phase.failed = true) :
    phase.counted = true := by
  cases phase <;> first | rfl | cases failed

/-- A call that has returned is not to be counted any more. -/
theorem Call.counted_of_returned {call : Call} (returned : call.result?.isSome = true) :
    call.phase.counted = true := by
  obtain ⟨q, phase⟩ := call
  cases phase <;> first | rfl | cases returned

/-- A call that was answered has given the lock back, and its failure is not counted yet. -/
theorem Call.afterWord_settled (word : UInt32) (q : CallRequest) :
    (afterWord word q).holds = false ∧ (afterWord word q).counted = true ∧
      (afterWord word q).failed = false := by
  cases q with
  | select t => exact ⟨rfl, rfl, rfl⟩
  | enableSibling r =>
    by_cases accepted : word = 0
    · simp only [afterWord, accepted, if_true]
      exact ⟨rfl, rfl, rfl⟩
    · simp only [afterWord, accepted, if_false]
      exact ⟨rfl, rfl, rfl⟩

/-- What a call has at hand, when the handle was loaded with the kernel `k` and the invoker `i`;
`passed` says whether it has found the handle open. -/
inductive Faithful (k : Kernel) (i : Invoker) (closed : Bool) (q : CallRequest) :
    CallPhase → (passed : Bool) → Prop
  | entering : Faithful k i closed q .entering false
  | locking (bound : (q.callee i).isSome = true) : Faithful k i closed q .locking true
  | counting (bound : (q.callee i).isSome = true) : Faithful k i closed q .counting true
  | starting (bound : (q.callee i).isSome = true) : Faithful k i closed q .starting true
  | launching (bound : (q.callee i).isSome = true) : Faithful k i closed q .launching true
  | running {p : Callee} (bound : q.callee i = some p) :
      Faithful k i closed q (.running (k.runLoaded p.name q.context).1) true
  | failing {p : Callee} {e : ObjectError} (bound : q.callee i = some p)
      (answers : (k.runLoaded p.name q.context).1 = .error e) :
      Faithful k i closed q (.failing e) true
  /-- The object was not loaded any more. -/
  | refused (bound : (q.callee i).isSome = true) (shut : closed = true) :
      Faithful k i closed q (.failing .unloaded) true
  | rejected {code : UInt32} (bound : (q.callee i).isSome = true)
      (alone : q.alone k i = .failed (.domainConfig code)) :
      Faithful k i closed q (.rejected code) true
  | answered : Faithful k i closed q (.returned (q.alone k i)) true
  | turnedAway {passed : Bool} (shut : closed = true) :
      Faithful k i closed q (.returned (.failed .closed)) passed

namespace Faithful

variable {k₀ k k' : Kernel} {i₀ i i' : Invoker} {closed : Bool} {q : CallRequest}
  {phase phase' : CallPhase} {passed : Bool}

/-- A handle that is closed stays closed. -/
theorem mono {closed' : Bool} (h : Faithful k i closed q phase passed)
    (stays : closed = true → closed' = true) : Faithful k i closed' q phase passed := by
  cases h with
  | entering => exact .entering
  | locking bound => exact .locking bound
  | counting bound => exact .counting bound
  | starting bound => exact .starting bound
  | launching bound => exact .launching bound
  | running bound => exact .running bound
  | failing bound answers => exact .failing bound answers
  | refused bound shut => exact .refused bound (stays shut)
  | rejected bound alone => exact .rejected bound alone
  | answered => exact .answered
  | turnedAway shut => exact .turnedAway (stays shut)

/-- A call that was let in and has not returned runs a bound subprogram. -/
theorem bound_of_admitted (h : Faithful k i closed q phase passed)
    (inside : phase.admitted = true) : (q.callee i).isSome = true := by
  cases h with
  | locking bound | counting bound | starting bound | launching bound | refused bound
  | rejected bound => exact bound
  | running bound | failing bound => exact Option.isSome_iff_exists.mpr ⟨_, bound⟩
  | entering | answered | turnedAway => cases inside

/-- **Each step of a call keeps it faithful**: the invoker may have counted and the kernel may have
changed, but neither has another subprogram. -/
theorem step (h : Faithful k₀ i₀ closed q phase passed)
    (move : CallMove closed k i q phase k' i' phase') (loaded : k₀.unloaded = false)
    (bodies : k.subprograms = k₀.subprograms)
    (names : (q.callee i).map Callee.name = (q.callee i₀).map Callee.name)
    (ends : k.unloaded = true → closed = true) :
    Faithful k₀ i₀ closed q phase' (passed || phase.passes closed) := by
  have first {p : Callee} (bound : q.callee i = some p) :
      ∃ p₀, q.callee i₀ = some p₀ ∧ p₀.name = p.name := by
    rw [bound] at names
    exact Option.map_eq_some_iff.mp names.symm
  -- the subprogram that the call finds has the name that it had in the beginning, and that, with
  -- the body, is all that the answer depends on
  cases move with
  | turnedAway shut => exact .turnedAway shut
  | unbound opened none =>
    have none' : q.callee i₀ = Option.none := by
      rw [none] at names
      exact Option.map_eq_none_iff.mp names.symm
    rw [← CallRequest.alone_of_unbound none' k₀, opened]
    cases h
    exact .answered
  | enter opened bound =>
    obtain ⟨p₀, bound₀, -⟩ := first bound
    rw [opened]
    cases h
    exact .locking (Option.isSome_iff_exists.mpr ⟨p₀, bound₀⟩)
  | wait | rest => simpa [CallPhase.passes] using h
  | lock =>
    cases h with
    | locking bound => exact .counting bound
  | count =>
    cases h with
    | counting bound => exact .starting bound
  | start =>
    cases h with
    | starting bound => exact .launching bound
  | refuse _ unloaded =>
    -- the one place where a close that came meanwhile shows
    cases h with
    | starting bound => exact .refused bound (ends unloaded)
  | launch bound =>
    obtain ⟨p₀, bound₀, name⟩ := first bound
    rw [Kernel.runLoaded_congr bodies, ← name]
    cases h
    exact .running bound₀
  | @answer p word bound =>
    have inside := h.bound_of_admitted rfl
    generalize here : CallPhase.running (.ok word) = phase at h
    cases h with
    | running bound₀ =>
      have answers := (CallPhase.running.inj here).symm
      rcases CallRequest.alone_of_word loaded bound₀ answers with told | ⟨told, alone⟩
      · rw [told]
        exact .answered
      · rw [told]
        exact .rejected inside alone
    | _ => cases here
  | @stumble p e bound =>
    generalize here : CallPhase.running (.error e) = phase at h
    cases h with
    | running bound₀ => exact .failing bound₀ (CallPhase.running.inj here).symm
    | _ => cases here
  | @fail p e bound =>
    obtain ⟨p₀, bound₀, name⟩ := first bound
    have told : p.failure e = p₀.failure e := by
      cases e <;> simp only [Callee.failure, name]
    -- either the body has failed, which it would have done alone, or the object was unloaded
    cases h with
    | failing bound₁ answers =>
      rw [bound₀, Option.some.injEq] at bound₁
      subst bound₁
      rw [told, ← CallRequest.alone_of_error loaded bound₀ answers]
      exact .answered
    | refused _ shut => exact .turnedAway shut
  | reject =>
    cases h with
    | rejected _ alone =>
      rw [← alone]
      exact .answered
  | astray inside none =>
    -- its subprogram is bound, so it is not here
    have bound := h.bound_of_admitted inside
    rw [← Option.isSome_map, ← names, none] at bound
    cases bound

end Faithful

/-! ### The counters of a subprogram -/

/-- A call-out, and whether it has found the handle open. -/
structure Attempt where
  call : Call
  passed : Bool

namespace Attempt

variable (role : String) (a : Attempt)

/-- Whether the call holds the lock of the subprogram in a role. -/
def holds : Bool :=
  decide (a.call.request.role = role) && a.call.phase.holds

/-- Whether the subprogram in a role has counted the call. -/
def counted : Bool :=
  decide (a.call.request.role = role) && (a.passed && a.call.phase.counted)

/-- Whether the subprogram in a role has counted the call as a failure. -/
def failed : Bool :=
  decide (a.call.request.role = role) && (a.passed && a.call.phase.failed)

end Attempt

/-- The lock and the counters of a subprogram agree with the calls of its role. -/
structure Callee.Balanced (p : Callee) (role : String) (attempts : List Attempt) : Prop where
  lock : p.busy.toNat = attempts.countP (·.holds role)
  invocations : p.invocations = attempts.countP (·.counted role)
  failures : p.failures = attempts.countP (·.failed role)

/-- One call goes on, and its subprogram is as much further as it is. -/
structure Callee.Follows (p p' : Callee) (passed : Bool) (phase : CallPhase) (passed' : Bool)
    (phase' : CallPhase) : Prop where
  lock : p'.busy.toNat + phase.holds.toNat = p.busy.toNat + phase'.holds.toNat
  invocations : p'.invocations + (passed && phase.counted).toNat =
    p.invocations + (passed' && phase'.counted).toNat
  failures : p'.failures + (passed && phase.failed).toNat =
    p.failures + (passed' && phase'.failed).toNat

namespace CallMove

variable {k₀ k k' : Kernel} {i₀ i i' : Invoker} {closed : Bool} {q r : CallRequest}
  {phase phase' : CallPhase} {passed : Bool} {p : Callee}

/-- A step of a call changes the subprogram of its own role only. -/
theorem callee_of_ne (move : CallMove closed k i q phase k' i' phase') (apart : r.role ≠ q.role) :
    r.callee i' = r.callee i := by
  cases move with
  | lock | count | answer | fail | reject => exact CallRequest.callee_setCallee_of_ne apart _ _
  | turnedAway | unbound | enter | wait | start | refuse | launch | stumble | astray | rest => rfl

/-- No step of a call renames a subprogram. -/
theorem callee_name (move : CallMove closed k i q phase k' i' phase') (r : CallRequest) :
    (r.callee i').map Callee.name = (r.callee i).map Callee.name := by
  cases move with
  | lock bound | count bound | answer bound | fail bound | reject bound =>
    apply CallRequest.name_setCallee bound
    rfl
  | turnedAway | unbound | enter | wait | start | refuse | launch | stumble | astray | rest => rfl

/-- No step of a call replaces a body. -/
theorem subprograms (move : CallMove closed k i q phase k' i' phase') :
    k'.subprograms = k.subprograms := by
  cases move with
  | launch => exact Kernel.subprograms_runLoaded k _ _
  | turnedAway | unbound | enter | wait | lock | count | start | refuse | answer | stumble | fail
  | reject | astray | rest => rfl

/-- **What a step of a call does to its subprogram**, and what that does to the lock and to the
counters. -/
theorem follows (move : CallMove closed k i q phase k' i' phase') (bound : q.callee i = some p)
    (faithful : Faithful k₀ i₀ closed q phase passed)
    (locked : phase.holds = true → p.busy = true) :
    ∃ p', q.callee i' = some p' ∧
      p.Follows p' passed phase (passed || phase.passes closed) phase' := by
  have same {p' : Callee} (bound' : q.callee i = some p') : p' = p :=
    Option.some.inj (bound'.symm.trans bound)
  cases move with
  | turnedAway shut =>
    cases faithful
    refine ⟨p, bound, rfl, ?_, ?_⟩ <;> simp [CallPhase.passes, shut, CallPhase.counted]
  | unbound _ none | astray _ none =>
    rw [bound] at none
    cases none
  -- up to the lock, nothing but the history of the call changes
  | enter =>
    refine ⟨p, bound, rfl, ?_, ?_⟩ <;> simp [CallPhase.counted, CallPhase.failed]
  | wait | rest =>
    refine ⟨p, bound, rfl, ?_, ?_⟩ <;> simp [CallPhase.passes]
  | lock bound' free =>
    obtain rfl := same bound'
    refine ⟨_, q.callee_setCallee i _, ?_, ?_, ?_⟩
    · simp [free, CallPhase.holds]
    · simp [CallPhase.counted]
    · simp [CallPhase.failed]
  | count bound' =>
    obtain rfl := same bound'
    cases faithful
    refine ⟨_, q.callee_setCallee i _, ?_, ?_, ?_⟩
    · simp [Callee.count, CallPhase.holds]
    · simp [Callee.count, CallPhase.counted]
    · simp [Callee.count, CallPhase.failed]
  | start | refuse | launch | stumble =>
    refine ⟨p, bound, rfl, ?_, ?_⟩ <;>
      simp [CallPhase.passes, CallPhase.counted, CallPhase.failed]
  | @answer _ word bound' =>
    obtain rfl := same bound'
    have busy := locked rfl
    obtain ⟨free, counted, fine⟩ := Call.afterWord_settled word q
    refine ⟨_, q.callee_setCallee i _, ?_, ?_, ?_⟩
    · rw [free, busy]
      rfl
    · rw [counted]
      simp [CallPhase.counted, CallPhase.passes, Callee.unlock]
    · rw [fine]
      simp [CallPhase.failed, Callee.unlock]
  | fail bound' =>
    obtain rfl := same bound'
    have busy := locked rfl
    have was : passed = true := by cases faithful <;> rfl
    refine ⟨_, q.callee_setCallee i _, ?_, ?_, ?_⟩
    · simp [busy, Callee.unlock, CallPhase.holds]
    · simp [Callee.unlock, Callee.fail, CallPhase.counted, CallPhase.passes]
    · simp [was, Callee.unlock, Callee.fail, CallPhase.failed]
  | reject bound' =>
    -- the lock was given back before
    obtain rfl := same bound'
    have was : passed = true := by cases faithful; rfl
    refine ⟨_, q.callee_setCallee i _, ?_, ?_, ?_⟩
    · simp [Callee.fail, CallPhase.holds]
    · simp [Callee.fail, CallPhase.counted, CallPhase.passes]
    · simp [was, Callee.fail, CallPhase.failed]

end CallMove

/-! ### How far a call has to go -/

/-- The number of steps that a call may still take. -/
def CallPhase.rank : CallPhase → Nat
  | .entering => 8
  | .locking => 7
  | .counting => 6
  | .starting => 5
  | .launching => 4
  | .running _ => 3
  | .failing _ => 2
  | .rejected _ => 1
  | .returned _ => 0

theorem CallPhase.rank_of_holds {phase : CallPhase} (holds : phase.holds = true) :
    phase.rank ≠ 0 := by
  cases phase <;> first | exact Nat.succ_ne_zero _ | cases holds

theorem CallPhase.rank_afterWord (word : UInt32) (q : CallRequest) :
    (Call.afterWord word q).rank ≤ 1 := by
  cases q with
  | select t => exact Nat.zero_le _
  | enableSibling r =>
    simp only [Call.afterWord]
    split
    · exact Nat.zero_le _
    · exact Nat.le_refl _

/-- **A call that has not returned comes closer to that**, unless it waits for its lock. -/
theorem CallMove.nears {closed : Bool} {k k' : Kernel} {i i' : Invoker} {q : CallRequest}
    {phase phase' : CallPhase} (move : CallMove closed k i q phase k' i' phase')
    (under : phase.rank ≠ 0) :
    phase'.rank < phase.rank ∨
      phase = .locking ∧ ∃ p, q.callee i = some p ∧ p.busy = true := by
  cases move with
  | wait bound busy => exact .inr ⟨rfl, _, bound, busy⟩
  | @answer p word =>
    left
    have one := CallPhase.rank_afterWord word q
    show (Call.afterWord word q).rank < 3
    omega
  | astray => exact .inl (Nat.pos_of_ne_zero under)
  | rest => exact absurd rfl under
  | turnedAway | unbound | enter | lock | count | start | refuse | launch | stumble | fail
  | reject => exact .inl (by simp [CallPhase.rank])

/-! ### Counting in lists -/

/-- One member of a list is replaced, and a count changes by the difference. -/
theorem countP_set_add {α : Type} (f : α → Bool) {l : List α} {n : Nat} {a : α}
    (at_ : l[n]? = some a) (b : α) :
    (l.set n b).countP f + (f a).toNat = l.countP f + (f b).toNat := by
  obtain ⟨bound, rfl⟩ := List.getElem?_eq_some_iff.mp at_
  have counted : (f l[n]).toNat ≤ l.countP f := by
    cases here : f l[n] with
    | false => exact Nat.zero_le _
    | true => exact List.countP_pos_iff.mpr ⟨_, List.getElem_mem bound, here⟩
  have number (x : Bool) : (if x = true then 1 else 0) = x.toNat := by cases x <;> rfl
  rw [List.countP_set bound, number, number]
  omega

/-- Two members at different places count twice. -/
theorem two_le_countP {α : Type} {f : α → Bool} {l : List α} {m n : Nat} {a b : α}
    (first : l[m]? = some a) (second : l[n]? = some b) (apart : m ≠ n) (ha : f a = true)
    (hb : f b = true) : 2 ≤ l.countP f := by
  induction l generalizing m n with
  | nil => cases first
  | cons x rest ih =>
    rw [List.countP_cons]
    cases m with
    | zero =>
      cases n with
      | zero => exact absurd rfl apart
      | succ n =>
        obtain rfl : x = a := Option.some.inj first
        have another : b ∈ rest := List.mem_of_getElem? (i := n) second
        have some := List.countP_pos_iff.mpr ⟨b, another, hb⟩
        rw [if_pos ha]
        omega
    | succ m =>
      cases n with
      | zero =>
        obtain rfl : x = b := Option.some.inj second
        have another : a ∈ rest := List.mem_of_getElem? (i := m) first
        have some := List.countP_pos_iff.mpr ⟨a, another, ha⟩
        rw [if_pos hb]
        omega
      | succ n =>
        have two := ih (m := m) (n := n) first second (fun same => apart (congrArg _ same))
        omega

theorem zipWith_set {α β γ : Type} (f : α → β → γ) (l : List α) (l' : List β) (n : Nat) (a : α)
    (b : β) : List.zipWith f (l.set n a) (l'.set n b) = (List.zipWith f l l').set n (f a b) := by
  induction l generalizing l' n with
  | nil => rfl
  | cons x rest ih =>
    cases l' with
    | nil => cases n <;> rfl
    | cons y rest' =>
      cases n with
      | zero => rfl
      | succ n => exact congrArg (f x y :: ·) (ih rest' n)

namespace Callee.Balanced

variable {p p' : Callee} {role : String} {attempts : List Attempt} {n : Nat} {q : CallRequest}
  {phase phase' : CallPhase} {passed passed' : Bool}

/-- Whoever holds the lock has taken it. -/
theorem busy_of_holds {a : Attempt} (h : p.Balanced role attempts) (mem : a ∈ attempts)
    (holds : a.holds role = true) : p.busy = true := by
  have some : 0 < attempts.countP (·.holds role) := List.countP_pos_iff.mpr ⟨a, mem, holds⟩
  rw [← h.lock] at some
  cases busy : p.busy with
  | true => rfl
  | false =>
    rw [busy] at some
    cases some

/-- And a lock that is taken has a holder. -/
theorem exists_holder (h : p.Balanced role attempts) (busy : p.busy = true) :
    ∃ a ∈ attempts, a.holds role = true := by
  have some : 0 < attempts.countP (·.holds role) := by
    rw [← h.lock, busy]
    exact Nat.one_pos
  exact List.countP_pos_iff.mp some

/-- There is one holder at most. -/
theorem holds_of_ne {m n : Nat} {a b : Attempt} (h : p.Balanced role attempts)
    (first : attempts[m]? = some a) (second : attempts[n]? = some b) (apart : m ≠ n)
    (holds : a.holds role = true) : b.holds role = false := by
  cases held : b.holds role with
  | false => rfl
  | true =>
    have two : 2 ≤ attempts.countP (·.holds role) :=
      two_le_countP first second apart holds held
    rw [← h.lock] at two
    exact absurd (Nat.le_trans two p.busy.toNat_le) (by decide)

/-- A call of the role goes on. -/
theorem follow (h : p.Balanced role attempts)
    (at_ : attempts[n]? = some ⟨⟨q, phase⟩, passed⟩) (same : q.role = role)
    (follows : p.Follows p' passed phase passed' phase') :
    p'.Balanced role (attempts.set n ⟨⟨q, phase'⟩, passed'⟩) := by
  obtain ⟨lock, invocations, failures⟩ := h
  have locks := countP_set_add (·.holds role) at_ ⟨⟨q, phase'⟩, passed'⟩
  have counts := countP_set_add (·.counted role) at_ ⟨⟨q, phase'⟩, passed'⟩
  have fails := countP_set_add (·.failed role) at_ ⟨⟨q, phase'⟩, passed'⟩
  have lock' := follows.lock
  have invocations' := follows.invocations
  have failures' := follows.failures
  simp only [Attempt.holds, same, decide_true, Bool.true_and] at locks
  simp only [Attempt.counted, same, decide_true, Bool.true_and] at counts
  simp only [Attempt.failed, same, decide_true, Bool.true_and] at fails
  simp only [Attempt.holds, Attempt.counted, Attempt.failed] at lock invocations failures
  constructor <;> simp only [Attempt.holds, Attempt.counted, Attempt.failed] <;> omega

/-- A call of another role goes on. -/
theorem pass (h : p.Balanced role attempts)
    (at_ : attempts[n]? = some ⟨⟨q, phase⟩, passed⟩) (apart : q.role ≠ role) :
    p.Balanced role (attempts.set n ⟨⟨q, phase'⟩, passed'⟩) := by
  obtain ⟨lock, invocations, failures⟩ := h
  have locks := countP_set_add (·.holds role) at_ ⟨⟨q, phase'⟩, passed'⟩
  have counts := countP_set_add (·.counted role) at_ ⟨⟨q, phase'⟩, passed'⟩
  have fails := countP_set_add (·.failed role) at_ ⟨⟨q, phase'⟩, passed'⟩
  simp only [Attempt.holds, apart, decide_false, Bool.false_and] at locks
  simp only [Attempt.counted, apart, decide_false, Bool.false_and] at counts
  simp only [Attempt.failed, apart, decide_false, Bool.false_and] at fails
  simp only [Attempt.holds, Attempt.counted, Attempt.failed] at lock invocations failures
  constructor <;> simp only [Attempt.holds, Attempt.counted, Attempt.failed] <;> omega

/-- A call begins. -/
theorem begin (h : p.Balanced role attempts) (q : CallRequest) :
    p.Balanced role (attempts ++ [⟨{ request := q }, false⟩]) := by
  obtain ⟨lock, invocations, failures⟩ := h
  constructor
  · simpa [Attempt.holds, CallPhase.holds] using lock
  · simpa [Attempt.counted] using invocations
  · simpa [Attempt.failed] using failures

end Callee.Balanced

end SchedPlane
