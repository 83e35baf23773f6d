/-
SchedPlane/Proofs/CallRuns.lean

Call-outs that race with each other and with the close of their handle.

The calls, the close and everybody else take their steps in any order, and the run remembers which
calls have found the handle open.  Every call stays faithful to the kernel and the invoker that the
handle was loaded with, and the two subprograms stay balanced (`Kept`).  Whoever waits for a lock
waits for a call that holds it, so that some call can always go on, and all can return.

Main result: `callouts_race`.  Note what its hypothesis on the actions is for: a body that is
replaced would answer the calls that come later in another way, and a placement loop would be
counted besides the calls of the run.  What the bodies answer does not matter; one that reports an
unloaded object does so without a close, too.
-/
import Mathlib.Algebra.Order.BigOperators.Group.List
import Mathlib.Algebra.Order.Ring.Nat
import SchedPlane.Proofs.CallFlow
import SchedPlane.Proofs.HandleRuns

namespace SchedPlane

/-! ### Runs -/

/-- A run of a handle that remembers which call-outs have found the handle open, by their
numbers. -/
structure CallRun extends HandleRun where
  passed : List Bool := []

/-- Whether an action leaves the bodies of the subprograms as they are, and starts no placement
loop, which would make call-outs of its own. -/
def HandleRun.Action.keepsBodies : HandleRun.Action → Bool
  | .setSubprogram .. | .serve => false
  | _ => true

/-- A handle that is closed stays closed. -/
theorem HandleRun.closed_lasts (r : HandleRun) (a : HandleRun.Action)
    (closed : r.handle.closed = true) : (r.step a).handle.closed = true := by
  cases moves : a.moves with
  | false => exact (r.calm_step moves).still.closed.trans closed
  | true =>
    cases HandleRun.Action.mover moves with
    | attach =>
      obtain ⟨-, -, -, -, same, -⟩ := r.handle.attach_frame r.kernel
      exact same.trans closed
    | close =>
      show r.handle.beginClose.closed = true
      rw [Handle.beginClose_frame]
    | teardown =>
      show (r.handle.teardownStep r.kernel).2.closed = true
      rw [(r.handle.teardownStep_move r.kernel).frame]
      exact closed
    | pollExits | pollQueued | flush => exact closed

namespace CallRun

open HandleRun (Action)

/-- The run that begins with a handle. -/
def starting (h : Handle) (k : Kernel) : CallRun where
  toHandleRun := .starting h k

/-- The call-outs so far. -/
def attempts (c : CallRun) : List Attempt :=
  List.zipWith Attempt.mk c.deployment.calls c.passed

/-- Whether the next step of the call-out of a number finds the handle open. -/
def opens (c : CallRun) (n : Nat) : Bool :=
  match c.deployment.calls[n]? with
  | some call => call.phase.passes c.handle.closed
  | none => false

/-- The run after an action. -/
def step (c : CallRun) (a : Action) : CallRun where
  toHandleRun := c.toHandleRun.step a
  passed :=
    match a with
    | .beginCall _ => c.passed ++ [false]
    | .thread (.call n) => if c.opens n then c.passed.set n true else c.passed
    | _ => c.passed

/-- The run after a list of actions. -/
def run (c : CallRun) (actions : List Action) : CallRun :=
  actions.foldl step c

variable {c : CallRun} {k₀ : Kernel} {i₀ : Invoker}

/-! ### What every step keeps -/

/-- The attempts are the calls, each with what the run remembers of it. -/
theorem calls_attempts (paired : c.passed.length = c.deployment.calls.length) :
    c.attempts.map Attempt.call = c.deployment.calls := by
  rw [attempts, List.map_zipWith]
  exact (List.map_zip_eq_zipWith (f := Prod.fst)).symm.trans (List.map_fst_zip paired.ge)

theorem attempt_of_call (paired : c.passed.length = c.deployment.calls.length) {n : Nat}
    {call : Call} (at_ : c.deployment.calls[n]? = some call) :
    ∃ passed, c.passed[n]? = some passed ∧ c.attempts[n]? = some ⟨call, passed⟩ := by
  have inside : n < c.passed.length := paired ▸ (List.getElem?_eq_some_iff.mp at_).1
  refine ⟨c.passed[n], List.getElem?_eq_getElem inside, ?_⟩
  rw [attempts, List.getElem?_zipWith, at_, List.getElem?_eq_getElem inside]

/-- The life of the handle is in order, each call is faithful to the kernel and the invoker that
the handle was loaded with, and the subprograms are balanced. -/
structure Kept (k₀ : Kernel) (i₀ : Invoker) (c : CallRun) : Prop where
  sound : ∃ opening registry, HandleRun.Sound opening registry c.toHandleRun
  loop : c.deployment.loop = none
  bodies : c.kernel.subprograms = k₀.subprograms
  names : ∀ q : CallRequest,
    (q.callee c.handle.invoker).map Callee.name = (q.callee i₀).map Callee.name
  paired : c.passed.length = c.deployment.calls.length
  faithful : ∀ a ∈ c.attempts,
    Faithful k₀ i₀ c.handle.closed a.call.request a.call.phase a.passed
  balanced : ∀ (q : CallRequest) (p : Callee), q.callee c.handle.invoker = some p →
    p.Balanced q.role c.attempts

/-- The calls of a run do not disturb the life of its handle. -/
theorem Kept.sound_step (h : Kept k₀ i₀ c) (a : Action) :
    ∃ opening registry, HandleRun.Sound opening registry (c.step a).toHandleRun := by
  obtain ⟨opening, registry, sound⟩ := h.sound
  exact ⟨opening, registry, sound.step a⟩

/-- The object is unloaded only under a closed handle. -/
theorem Kept.closed_of_unloaded (h : Kept k₀ i₀ c) (unloaded : c.kernel.unloaded = true) :
    c.handle.closed = true := by
  obtain ⟨opening, registry, sound⟩ := h.sound
  have done := sound.flags.unloaded
  rw [unloaded] at done
  have done' : c.handle.teardown = .done := of_decide_eq_true done.symm
  have closed := sound.flags.closed
  rw [done'] at closed
  exact closed

/-- What concerns neither the calls nor the subprograms changes nothing. -/
theorem Kept.frame (h : Kept k₀ i₀ c) {a : Action} (passed : (c.step a).passed = c.passed)
    (calls : (c.step a).deployment.calls = c.deployment.calls)
    (loop : (c.step a).deployment.loop = c.deployment.loop)
    (invoker : (c.step a).handle.invoker = c.handle.invoker)
    (bodies : (c.step a).kernel.subprograms = c.kernel.subprograms) : Kept k₀ i₀ (c.step a) := by
  have attempts : (c.step a).attempts = c.attempts := by
    rw [CallRun.attempts, CallRun.attempts, passed, calls]
  exact
    { sound := h.sound_step a
      loop := loop.trans h.loop
      bodies := bodies.trans h.bodies
      names := by
        rw [invoker]
        exact h.names
      paired := by
        rw [passed, calls]
        exact h.paired
      faithful := by
        intro x mem
        rw [attempts] at mem
        exact (h.faithful x mem).mono (c.toHandleRun.closed_lasts a)
      balanced := by
        rw [invoker, attempts]
        exact h.balanced }

/-- A call-out begins. -/
theorem Kept.beginCall (h : Kept k₀ i₀ c) (q : CallRequest) :
    Kept k₀ i₀ (c.step (.beginCall q)) := by
  have attempts : (c.step (.beginCall q)).attempts = c.attempts ++ [⟨{ request := q }, false⟩] :=
    List.zipWith_append h.paired.symm
  exact
    { sound := h.sound_step _
      loop := h.loop
      bodies := h.bodies
      names := h.names
      paired := by
        show (c.passed ++ [_]).length = (c.deployment.calls ++ [_]).length
        rw [List.length_append, List.length_append, h.paired]
        rfl
      faithful := by
        intro x mem
        rw [attempts] at mem
        rcases List.mem_append.mp mem with old | new
        · exact h.faithful x old
        · obtain rfl := List.mem_singleton.mp new
          exact .entering
      balanced := by
        intro r p bound
        rw [attempts]
        exact (h.balanced r p bound).begin q }

/-- The call-out of a number goes on from one place to another. -/
structure Goes (c c' : CallRun) (n : Nat) (q : CallRequest) (phase : CallPhase) (passed : Bool)
    (phase' : CallPhase) : Prop where
  before : c.attempts[n]? = some ⟨⟨q, phase⟩, passed⟩
  move : CallMove c.handle.closed c.kernel c.handle.invoker q phase c'.kernel c'.handle.invoker
    phase'
  after : c'.attempts =
    c.attempts.set n ⟨⟨q, phase'⟩, passed || phase.passes c.handle.closed⟩
  paired : c'.passed.length = c'.deployment.calls.length

/-- The step of a call in the run is a step of the call by itself. -/
theorem goes_step {n : Nat} {q : CallRequest} {phase : CallPhase}
    (paired : c.passed.length = c.deployment.calls.length)
    (at_ : c.deployment.calls[n]? = some ⟨q, phase⟩) :
    ∃ passed phase', Goes c (c.step (.thread (.call n))) n q phase passed phase' := by
  obtain ⟨passed, told, before⟩ := attempt_of_call paired at_
  obtain ⟨k', i', phase', stepped, move⟩ :=
    Call.step_move c.deployment.handle.closed c.deployment.kernel
      c.deployment.handle.invoker q phase
  have deployment : (c.step (.thread (.call n))).deployment =
      { c.deployment with
        kernel := k'
        handle := { c.handle with invoker := i' }
        calls := c.deployment.calls.set n ⟨q, phase'⟩ } := by
    show c.deployment.step (.call n) = _
    simp only [Deployment.step, at_, stepped]
    rfl
  have opens : c.opens n = phase.passes c.handle.closed := by
    simp only [CallRun.opens, at_]
  -- the history of a call that does not look at the flag is set to what it is
  have history : (c.step (.thread (.call n))).passed =
      c.passed.set n (passed || phase.passes c.handle.closed) := by
    show (if c.opens n then c.passed.set n true else c.passed) = _
    rw [opens]
    cases phase.passes c.handle.closed with
    | true => rw [if_pos rfl, Bool.or_true]
    | false =>
      obtain ⟨inside, rfl⟩ := List.getElem?_eq_some_iff.mp told
      rw [if_neg Bool.false_ne_true, Bool.or_false, List.set_getElem_self]
  refine ⟨passed, phase', before, ?_, ?_, ?_⟩
  · rw [show (c.step (.thread (.call n))).kernel = k' from congrArg Deployment.kernel deployment,
      show (c.step (.thread (.call n))).handle.invoker = i' from
        congrArg (·.handle.invoker) deployment]
    exact move
  · rw [CallRun.attempts, deployment, history]
    exact zipWith_set Attempt.mk c.deployment.calls c.passed n _ _
  · rw [deployment, history, List.length_set, List.length_set]
    exact paired

theorem loop_call (c : CallRun) (n : Nat) :
    (c.step (.thread (.call n))).deployment.loop = c.deployment.loop := by
  show (c.deployment.step (.call n)).loop = c.deployment.loop
  simp only [Deployment.step]
  split <;> rfl

/-- A call-out goes on. -/
theorem Kept.goes (h : Kept k₀ i₀ c) (loaded : k₀.unloaded = false) {n : Nat} {q : CallRequest}
    {phase phase' : CallPhase} {passed : Bool}
    (goes : Goes c (c.step (.thread (.call n))) n q phase passed phase') :
    Kept k₀ i₀ (c.step (.thread (.call n))) := by
  obtain ⟨before, move, after, paired⟩ := goes
  have mem := List.mem_of_getElem? before
  have faithful := h.faithful _ mem
  have locked {p : Callee} (bound : q.callee c.handle.invoker = some p)
      (holds : phase.holds = true) : p.busy = true :=
    (h.balanced q p bound).busy_of_holds mem (by simp [Attempt.holds, holds])
  exact
    { sound := h.sound_step _
      loop := (loop_call c n).trans h.loop
      bodies := move.subprograms.trans h.bodies
      names := fun r => (move.callee_name r).trans (h.names r)
      paired
      faithful := by
        intro x mem
        rw [after] at mem
        rcases List.mem_or_eq_of_mem_set mem with old | rfl
        · exact (h.faithful x old).mono (c.toHandleRun.closed_lasts _)
        · exact (faithful.step move loaded h.bodies (h.names q) h.closed_of_unloaded).mono
            (c.toHandleRun.closed_lasts _)
      balanced := by
        intro r p' bound'
        rw [after]
        -- the call changes the subprogram of its own role, and counts for that one only
        by_cases same : q.role = r.role
        · rw [CallRequest.callee_of_role same.symm] at bound'
          rcases bound : q.callee c.handle.invoker with - | p
          · have name := move.callee_name q
            rw [bound, bound'] at name
            cases name
          · obtain ⟨p'', bound'', follows⟩ := move.follows bound faithful (locked bound)
            obtain rfl := Option.some.inj (bound'.symm.trans bound'')
            rw [← same]
            exact (h.balanced q p bound).follow before rfl follows
        · rw [move.callee_of_ne (Ne.symm same)] at bound'
          exact (h.balanced r p' bound').pass before same }

/-- **Each action keeps the calls faithful and the subprograms balanced.** -/
theorem Kept.step (h : Kept k₀ i₀ c) (loaded : k₀.unloaded = false) {a : Action}
    (fixed : a.keepsBodies = true) : Kept k₀ i₀ (c.step a) := by
  cases a with
  | setSubprogram | serve => cases fixed
  | produce map b => exact h.frame rfl rfl rfl rfl (Kernel.keepsRuns_produce _ map b).subprograms
  | consume =>
    refine h.frame rfl rfl rfl rfl ?_
    show ((c.kernel.takeDispatched.map Prod.snd).getD c.kernel).subprograms = _
    rcases taken : c.kernel.takeDispatched with - | ⟨b, k⟩
    · rfl
    · exact (Kernel.keepsRuns_takeDispatched taken).subprograms
  | setValue | setAttachFailure | receiveTask | receiveExit | beginSend | trySend | snapshot
  | stats => exact h.frame rfl rfl rfl rfl rfl
  | attach =>
    exact h.frame rfl rfl rfl (c.handle.invoker_attach c.kernel)
      (Handle.keepsRuns_attach c.kernel c.handle).subprograms
  | close => exact h.frame rfl rfl rfl c.handle.invoker_beginClose rfl
  | beginCall q => exact h.beginCall q
  | thread a =>
    cases a with
    | teardown =>
      exact h.frame rfl rfl rfl (c.handle.invoker_teardownStep c.kernel)
        (c.handle.teardownStep_move c.kernel).keepsRuns.subprograms
    | pollExits =>
      exact h.frame rfl rfl rfl rfl (c.handle.exits.keepsRuns_advance c.kernel).subprograms
    | pollQueued =>
      exact h.frame rfl rfl rfl rfl (c.handle.queued.keepsRuns_advance c.kernel).subprograms
    | dispatch a =>
      cases a with
      | flush =>
        exact h.frame rfl rfl rfl rfl (c.handle.dispatch.keepsRuns_advance c.kernel).subprograms
      | send n => exact h.frame rfl rfl rfl rfl rfl
    | call n =>
      rcases at_ : c.deployment.calls[n]? with - | ⟨q, phase⟩
      · -- there is no call of this number
        have same : (c.step (.thread (.call n))).deployment = c.deployment := by
          show c.deployment.step (.call n) = c.deployment
          simp only [Deployment.step, at_]
        have opens : c.opens n = false := by simp only [CallRun.opens, at_]
        have passed : (c.step (.thread (.call n))).passed = c.passed :=
          if_neg (opens ▸ Bool.false_ne_true)
        exact h.frame passed (congrArg _ same) (congrArg _ same) (congrArg (·.handle.invoker) same)
          (congrArg (·.kernel.subprograms) same)
      · obtain ⟨passed, phase', goes⟩ := goes_step h.paired at_
        exact h.goes loaded goes
    | place =>
      -- no loop serves the handle
      have same : (c.step (.thread .place)).deployment = c.deployment := by
        show c.deployment.step .place = c.deployment
        simp only [Deployment.step, h.loop]
      exact h.frame rfl (congrArg _ same) (congrArg _ same) (congrArg (·.handle.invoker) same)
        (congrArg (·.kernel.subprograms) same)

/-- Actions that replace no body and start no loop keep the calls faithful and the counters
balanced. -/
theorem Kept.run (h : Kept k₀ i₀ c) (loaded : k₀.unloaded = false) {actions : List Action}
    (fixed : ∀ a ∈ actions, a.keepsBodies = true) : Kept k₀ i₀ (c.run actions) :=
  List.foldlRecOn (motive := Kept k₀ i₀) actions CallRun.step h
    fun _ kept a mem => kept.step loaded (fixed a mem)

/-- The run of a handle that was just loaded. -/
theorem kept_starting {c : Controller} {k k' : Kernel} (intact : k.Intact) {artifact : Artifact}
    {h : Handle} (loaded : c.load k artifact = (.ok h, k')) :
    Kept k' h.invoker (starting h k') where
  sound := by
    obtain ⟨registry, -, complete, hosts⟩ := Controller.loaded_of_load intact loaded
    exact ⟨_, registry, HandleRun.sound_starting complete hosts⟩
  loop := rfl
  bodies := rfl
  names _ := rfl
  paired := rfl
  faithful := by
    intro a mem
    cases mem
  balanced := by
    intro q p bound
    have invoker : (starting h k').handle.invoker = _ := Controller.invoker_of_load loaded
    rw [invoker] at bound
    cases q <;> obtain rfl := Option.some.inj bound <;> exact ⟨rfl, rfl, rfl⟩

/-! ### Every call can return -/

/-- One member of a list is replaced, and a sum changes by the difference. -/
theorem sum_map_set {α : Type} (f : α → Nat) {l : List α} {n : Nat} {a : α}
    (at_ : l[n]? = some a) (b : α) :
    ((l.set n b).map f).sum + f a = (l.map f).sum + f b := by
  obtain ⟨bound, rfl⟩ := List.getElem?_eq_some_iff.mp at_
  obtain ⟨before, after, split, -, replaced⟩ :
      ∃ before after, l = before ++ l[n] :: after ∧ before.length = n ∧
        l.set n b = before ++ b :: after := List.exists_of_set bound
  have whole : (l.map f).sum = ((before ++ l[n] :: after).map f).sum := by rw [← split]
  rw [replaced, whole]
  simp only [List.map_append, List.map_cons, List.sum_append, List.sum_cons]
  omega

/-- The number of steps that the calls of a run may still take. -/
def rank (c : CallRun) : Nat :=
  (c.attempts.map (·.call.phase.rank)).sum

/-- A call goes on, unless it has returned or waits for a lock. -/
theorem rank_step (paired : c.passed.length = c.deployment.calls.length) {n : Nat} {a : Attempt}
    (at_ : c.attempts[n]? = some a) (under : a.call.phase.rank ≠ 0) :
    (c.step (.thread (.call n))).rank < c.rank ∨
      a.call.phase = .locking ∧
        ∃ p, a.call.request.callee c.handle.invoker = some p ∧ p.busy = true := by
  obtain ⟨⟨q, phase⟩, passed⟩ := a
  have call : c.deployment.calls[n]? = some ⟨q, phase⟩ := by
    rw [← calls_attempts paired, List.getElem?_map, at_]
    rfl
  obtain ⟨passed', phase', goes⟩ := goes_step paired call
  rcases goes.move.nears under with less | waits
  · left
    rw [rank, goes.after]
    have sum := sum_map_set (·.call.phase.rank) at_
      ⟨⟨q, phase'⟩, passed' || phase.passes c.handle.closed⟩
    simp only at sum
    show _ < (c.attempts.map (·.call.phase.rank)).sum
    omega
  · exact .inr waits

/-- **Unless all calls have returned, one of them can go on**: if one waits for a lock, then the one
that holds it. -/
theorem Kept.advances (h : Kept k₀ i₀ c) (under : c.rank ≠ 0) :
    ∃ n, (c.step (.thread (.call n))).rank < c.rank := by
  obtain ⟨a, mem, alive⟩ : ∃ a ∈ c.attempts, a.call.phase.rank ≠ 0 := by
    by_contra none
    push Not at none
    refine under (List.sum_eq_zero ?_)
    simpa using none
  obtain ⟨n, at_⟩ := List.getElem?_of_mem mem
  rcases rank_step h.paired at_ alive with less | ⟨-, p, bound, busy⟩
  · exact ⟨n, less⟩
  · obtain ⟨holder, mem', holds⟩ := (h.balanced _ p bound).exists_holder busy
    have holds' : holder.call.phase.holds = true := (Bool.and_eq_true_iff.mp holds).2
    obtain ⟨m, at_'⟩ := List.getElem?_of_mem mem'
    rcases rank_step h.paired at_' (CallPhase.rank_of_holds holds') with less | ⟨here, -⟩
    · exact ⟨m, less⟩
    · rw [here] at holds'
      cases holds'

/-- The calls alone can bring each other to their end. -/
theorem Kept.returns (h : Kept k₀ i₀ c) (loaded : k₀.unloaded = false) :
    ∃ numbers : List Nat, (c.run (numbers.map fun n => .thread (.call n))).rank = 0 := by
  -- on the number of steps that are left; `advances` finds who takes the next one
  induction size : c.rank using Nat.strongRecOn generalizing c with
  | ind size ih =>
    by_cases returned : c.rank = 0
    · exact ⟨[], returned⟩
    · obtain ⟨n, less⟩ := h.advances returned
      obtain ⟨numbers, returned'⟩ := ih _ (size ▸ less) (h.step loaded rfl) rfl
      exact ⟨n :: numbers, returned'⟩

/-- When no call may take a step any more, all have returned. -/
theorem returned_of_rank (paired : c.passed.length = c.deployment.calls.length)
    (none : c.rank = 0) : ∀ call ∈ c.deployment.calls, call.result?.isSome = true := by
  intro call mem
  rw [← calls_attempts paired] at mem
  obtain ⟨a, mem', rfl⟩ := List.mem_map.mp mem
  have zero : a.call.phase.rank = 0 :=
    List.sum_eq_zero_iff.mp none _ (List.mem_map_of_mem mem')
  rcases a with ⟨⟨q, phase⟩, passed⟩
  cases phase <;> first | rfl | cases zero

/-! ### The race -/

/-- What becomes of the call-outs on a handle that was loaded with the kernel `k` and the
invoker `i`. -/
structure Race (k : Kernel) (i : Invoker) (c : CallRun) : Prop where
  /-- A call that returns has got what it would have got alone, or it says that the handle is
  closed, and that is so. -/
  results : ∀ call ∈ c.deployment.calls, ∀ result, call.result? = some result →
    result = call.request.alone k i ∨ result = .failed .closed ∧ c.handle.closed = true
  /-- A call that looks at the flag after it was set returns, and nothing else changes. -/
  late : c.handle.closed = true → ∀ n q, c.deployment.calls[n]? = some { request := q } →
    (c.step (.thread (.call n))).deployment =
        { c.deployment with
          calls := c.deployment.calls.set n ⟨q, .returned (.failed .closed)⟩ } ∧
      (c.step (.thread (.call n))).passed = c.passed
  /-- The calls of a role run the subprogram that has its name. -/
  bound : ∀ q : CallRequest, ∃ p, q.callee c.handle.invoker = some p ∧ p.name = q.role
  /-- No two calls run a subprogram at one time. -/
  exclusive : ∀ (m n : Nat) (first second : Call), m ≠ n →
    c.deployment.calls[m]? = some first → c.deployment.calls[n]? = some second →
    first.request.role = second.request.role → first.phase.holds = true →
    second.phase.holds = false
  bounded : ∀ (q : CallRequest) (p : Callee), q.callee c.handle.invoker = some p →
    p.failures ≤ p.invocations
  /-- When all calls have returned, those that had found the handle open have been counted, and
  those of them that failed as failures. -/
  settled : (∀ call ∈ c.deployment.calls, call.result?.isSome = true) →
    ∀ (q : CallRequest) (p : Callee), q.callee c.handle.invoker = some p →
      p.invocations =
          c.attempts.countP (fun a => decide (a.call.request.role = q.role) && a.passed) ∧
        p.failures =
          c.attempts.countP
            (fun a => decide (a.call.request.role = q.role) && (a.passed && a.call.phase.failed))
  /-- Whatever is going on, the calls can bring themselves to their returns. -/
  returns : ∃ numbers : List Nat,
    ∀ call ∈ (c.run (numbers.map fun n => .thread (.call n))).deployment.calls,
      call.result?.isSome = true

/-- A call that looks at the flag of a closed handle. -/
theorem late_step (shut : c.handle.closed = true) {n : Nat} {q : CallRequest}
    (at_ : c.deployment.calls[n]? = some { request := q }) :
    (c.step (.thread (.call n))).deployment =
        { c.deployment with
          calls := c.deployment.calls.set n ⟨q, .returned (.failed .closed)⟩ } ∧
      (c.step (.thread (.call n))).passed = c.passed := by
  constructor
  · have told : Call.step c.deployment.handle.closed c.deployment.kernel
        c.deployment.handle.invoker { request := q } =
        (c.deployment.kernel, c.deployment.handle.invoker, ⟨q, .returned (.failed .closed)⟩) := by
      rw [show c.deployment.handle.closed = true from shut]
      rfl
    show c.deployment.step (.call n) = _
    simp only [Deployment.step, at_, told]
  · have opens : c.opens n = false := by
      simp only [CallRun.opens, at_, CallPhase.passes, shut]
      rfl
    exact if_neg (opens ▸ Bool.false_ne_true)

/-- When all bodies stay, what a run says of its calls is read off what it keeps. -/
theorem Kept.race (h : Kept k₀ i₀ c) (loaded : k₀.unloaded = false)
    (names : ∀ q : CallRequest, (q.callee i₀).map Callee.name = some q.role) : Race k₀ i₀ c where
  results := by
    intro call mem result told
    rw [← calls_attempts h.paired] at mem
    obtain ⟨⟨⟨q, phase⟩, passed⟩, mem', rfl⟩ := List.mem_map.mp mem
    have faithful : Faithful k₀ i₀ c.handle.closed q phase passed := h.faithful _ mem'
    cases phase with
    | returned r =>
      obtain rfl : r = result := Option.some.inj told
      -- a call that has returned was faithful in one of two ways
      generalize here : CallPhase.returned r = phase at faithful
      cases faithful with
      | answered => exact .inl (CallPhase.returned.inj here)
      | turnedAway shut => exact .inr ⟨CallPhase.returned.inj here, shut⟩
      | _ => cases here
    | _ => cases told
  late := fun shut _ _ at_ => late_step shut at_
  bound := by
    intro q
    have name := (h.names q).trans (names q)
    exact Option.map_eq_some_iff.mp name
  exclusive := by
    intro m n first second apart at_m at_n same holds
    -- the books of the subprogram have room for one holder
    obtain ⟨p, bound, -⟩ := Option.map_eq_some_iff.mp ((h.names first.request).trans (names _))
    obtain ⟨_, -, at_m'⟩ := attempt_of_call h.paired at_m
    obtain ⟨_, -, at_n'⟩ := attempt_of_call h.paired at_n
    have free := (h.balanced first.request p bound).holds_of_ne at_m' at_n' apart
      (by simp [Attempt.holds, holds])
    simpa [Attempt.holds, same] using free
  bounded := by
    intro q p bound
    -- a failure is counted after its invocation
    obtain ⟨-, invocations, failures⟩ := h.balanced q p bound
    rw [invocations, failures]
    refine List.countP_mono_left ?_
    intro a _ failed
    simp only [Attempt.failed, Attempt.counted, Bool.and_eq_true] at failed ⊢
    exact ⟨failed.1, failed.2.1, CallPhase.counted_of_failed failed.2.2⟩
  settled := by
    intro returned q p bound
    obtain ⟨-, invocations, failures⟩ := h.balanced q p bound
    -- with no call under way, those that were admitted are those that were counted
    refine ⟨invocations.trans (List.countP_congr ?_), failures⟩
    intro a mem
    have mem' : a.call ∈ c.deployment.calls := by
      rw [← calls_attempts h.paired]
      exact List.mem_map_of_mem mem
    simp only [Attempt.counted, Call.counted_of_returned (returned _ mem'), Bool.and_true]
  returns := by
    obtain ⟨numbers, none⟩ := h.returns loaded
    have fixed : ∀ a ∈ numbers.map fun n => Action.thread (.call n), a.keepsBodies = true := by
      intro a mem
      obtain ⟨n, -, rfl⟩ := List.mem_map.mp mem
      rfl
    exact ⟨numbers, returned_of_rank (h.run loaded fixed).paired none⟩

/-- **Call-outs that race with a close.**  Whatever the order in which the calls, the close and
everybody else take their steps, as long as no body is replaced: each call gets what it would have
got without the close, or it says that the handle is closed; calls of one subprogram run one after
the other; and its counters say in the end how many calls had found the handle open, and how many
of these have failed. -/
theorem callouts_race {c : Controller} {k k' : Kernel} (intact : k.Intact) {artifact : Artifact}
    {h : Handle} (loaded : c.load k artifact = (.ok h, k')) (actions : List Action)
    (fixed : ∀ a ∈ actions, a.keepsBodies = true) :
    Race k' h.invoker ((starting h k').run actions) := by
  obtain ⟨registry, -, -, hosts⟩ := Controller.loaded_of_load intact loaded
  refine ((kept_starting intact loaded).run hosts.unloaded fixed).race hosts.unloaded ?_
  intro q
  rw [Controller.invoker_of_load loaded]
  cases q <;> rfl

/-- An object that accepts no sibling relation. -/
def fussy : Load where
  controller := .plain
  object := (Blueprint.standard.subprogram Contract.siblingCpu fun _ => .ok 22).build
  succeeds := by decide +kernel

/-- Steps of the call-out of a number. -/
def callSteps (n steps : Nat) : List Action :=
  List.replicate steps (.thread (.call n))

/-- When the handle is closed, one call has seen that the object is loaded, one waits for the lock,
one has not looked at the flag, and a relation was rejected. -/
def racingCalls : List Action :=
  [Action.beginCall (.select ⟨3, 1, 0⟩), .beginCall (.select ⟨4, 2, 0⟩),
    .beginCall (.select ⟨5, 3, 0⟩), .beginCall (.enableSibling ⟨0, 1, 2⟩)] ++
  callSteps 0 4 ++ callSteps 1 2 ++ callSteps 3 8 ++ [Action.close] ++ callSteps 2 1 ++
  HandleRun.threadsRun ++ callSteps 0 3 ++ callSteps 1 6

/-- Of four calls two return late and say that the handle is closed, one because it waited for the
lock and one because it had not looked at the flag; the one that had seen the object loaded gets its
word. -/
theorem callouts_race_racingCalls :
    let c := (starting fussy.handle fussy.kernel).run racingCalls
    Race fussy.kernel fussy.handle.invoker c ∧ c.handle.teardown = .done ∧
      c.deployment.calls.map Call.result? =
        [some (.selected (.ofRaw 1)), some (.failed .closed), some (.failed .closed),
          some (.failed (.domainConfig 22))] ∧
      c.passed = [true, true, false, true] ∧
      c.handle.invoker.stats = ⟨⟨2, 1⟩, ⟨1, 1⟩⟩ :=
  ⟨callouts_race (Kernel.intact_build _ _) fussy.loaded racingCalls (by decide +kernel),
    by decide +kernel, by decide +kernel, by decide +kernel, by decide +kernel⟩

end CallRun

end SchedPlane
