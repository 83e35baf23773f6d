/-
SchedPlane/Proofs/DecisionFields.lean

What the bytes of a decision tell apart.

A decision carries the number and the flags of its task and one field for the selection: the number
of a CPU, or the sentinel `anyCpu` if the choice is left to the kernel program.  But the sentinel is
also a number that the selection subprogram may return, and then the field does not say whether the
selection was for any CPU or for the CPU of that number.  This is all that it hides
(`Selection.toKernel_eq_iff`).  A machine with no more CPUs than the sentinel has no such CPU, and
`Selection.isWithin` would say so; the placement loop does not ask it.

What the loop sends is read off its call-outs.  Each of them returns the selection of a word or
fails, whatever becomes of the kernel and the handle meanwhile (`LoopRun.answered_run`); it takes
nothing but that the loop never keeps a call-out that has returned (`PlacementLoop.Underway`).

Main result: `decisions_tell_apart`.
-/
import SchedPlane.Proofs.KernelRuns
import SchedPlane.Proofs.PlacementLosses
import SchedPlane.Proofs.RecordCodec

namespace SchedPlane

/-! ### Selections and their fields -/

namespace Selection

variable {word : UInt32} {s s' : Selection} {cpus : UInt32}

/-- One word names the CPU that has the sentinel for its number. -/
theorem ofRaw_eq_anyCpu_iff :
    ofRaw word.toUInt64 = .specific anyCpu ↔ word = anyCpu.toUInt32 := by
  have sentinel : anyCpu.toInt = anyCpu.toUInt32.toNat := rfl
  rw [ofRaw_eq_specific_iff, sentinel, UInt32.toNat_toUInt64, Nat.cast_inj, UInt32.toNat_inj,
    eq_comm]

/-- Two selections have the sentinel for their field: any CPU, and the CPU of its number. -/
theorem toKernel_eq_anyCpu_iff : s.toKernel = anyCpu ↔ s = .any ∨ s = .specific anyCpu := by
  cases s <;> simp [toKernel]

/-- **Two selections share a field** just if they are one, or if one is for any CPU and the other
for the CPU that has the sentinel for its number. -/
theorem toKernel_eq_iff : s.toKernel = s'.toKernel ↔
    s = s' ∨ s = .specific anyCpu ∧ s' = .any ∨ s = .any ∧ s' = .specific anyCpu := by
  cases s with
  | specific cpu =>
    cases s' with
    | specific cpu' => simp [toKernel]
    | any => simp [toKernel]
  | any =>
    cases s' with
    | specific cpu' => simp [toKernel, eq_comm]
    | any => simp [toKernel]

/-- Only a machine with more CPUs than the sentinel has a CPU of its number. -/
theorem isWithin_anyCpu_iff :
    (specific anyCpu).isWithin cpus = true ↔ anyCpu.toUInt32 < cpus := by
  have sentinel : anyCpu.toInt = anyCpu.toUInt32.toNat := rfl
  rw [isWithin, sentinel, Bool.and_eq_true, decide_eq_true_eq, decide_eq_true_eq, Nat.cast_lt,
    UInt32.lt_iff_toNat_lt]
  exact and_iff_right (Int.natCast_nonneg _)

/-- Where all CPUs lie below the sentinel, the field says which selection it was. -/
theorem eq_of_toKernel_eq (few : cpus ≤ anyCpu.toUInt32) (within : s.isWithin cpus = true)
    (within' : s'.isWithin cpus = true) (same : s.toKernel = s'.toKernel) : s = s' := by
  have absent : ¬ (specific anyCpu).isWithin cpus = true := by
    rw [isWithin_anyCpu_iff]
    exact UInt32.not_lt.mpr few
  rcases toKernel_eq_iff.mp same with same | ⟨rfl, -⟩ | ⟨-, rfl⟩
  · exact same
  · exact absurd within absent
  · exact absurd within' absent

end Selection

/-! ### Decisions -/

namespace Decision

variable {t t' : Task} {s s' : Selection}

/-- The CPU field of a decision, unless the decision is too short to have one. -/
def cpu? (d : Decision) : Option Int32 :=
  (Task.decode d.bytes).toOption.map Task.cpu

theorem cpu?_place (t : Task) (s : Selection) : (place t s).cpu? = some s.toKernel := by
  have read := Task.records.decode_encode ⟨t.pid, s.toKernel, t.flags⟩ []
  rw [List.append_nil] at read
  rw [cpu?, place, forTask, read]
  rfl

/-- Decisions are alike just if their tasks agree in number and flags and their selections share a
field: nothing else enters a decision, and nothing of these is left out. -/
theorem place_eq_iff :
    place t s = place t' s' ↔ t.pid = t'.pid ∧ t.flags = t'.flags ∧ s.toKernel = s'.toKernel := by
  rw [place, place, forTask, forTask, Decision.mk.injEq, Task.records.injective.eq_iff,
    Task.mk.injEq]
  tauto

end Decision

/-! ### Answers of the selection subprogram -/

/-- What a call-out for a task can bring back: the selection of a word, or a failure. -/
inductive CallResult.Answer : CallResult → Prop
  | word (word : UInt32) : Answer (.selected (.ofRaw word.toUInt64))
  | failure (e : ControlError) : Answer (.failed e)

/-- A call-out for a task that returns does so with an answer. -/
theorem CallMove.answer_of_returned {closed : Bool} {k k' : Kernel} {i i' : Invoker} {t : Task}
    {phase phase' : CallPhase} {r : CallResult}
    (move : CallMove closed k i (.select t) phase k' i' phase') (ends : phase' = .returned r)
    (underway : phase ≠ .returned r) : r.Answer := by
  cases move with
  | answer =>
    cases ends
    exact .word _
  | rest => exact absurd ends underway
  | turnedAway | unbound | fail | reject | astray =>
    -- whatever the reason, the loop is only told that the call-out failed
    cases ends
    exact .failure _
  | enter | wait | lock | count | start | refuse | launch | stumble => cases ends

theorem Call.phase_of_result? {c : Call} {r : CallResult} (ended : c.result? = some r) :
    c.phase = .returned r := by
  unfold Call.result? at ended
  split at ended
  · next here =>
    cases ended
    exact here
  · cases ended

theorem CallResult.choice_eq_specific_iff {r : CallResult} {cpu : Int32} :
    r.choice = .specific cpu ↔ r = .selected (.specific cpu) := by
  cases r <;> simp [choice]

namespace PlacementLoop

variable {k : Kernel} {h : Handle} {p : PlacementLoop}

/-- The word that the subprogram returns for a task goes into the decision that the loop sends. -/
theorem step_of_word {t : Task} {word : UInt32} {c : Callee} (bound : h.invoker.selectCpu = some c)
    (here : p.phase = .selecting t (.running (.ok word))) :
    (p.step k h).2.2.phase = .sending (.atGate (Decision.place t (.ofRaw word.toUInt64))) := by
  have bound' : (CallRequest.select t).callee h.invoker = some c := bound
  simp only [step, here, Call.step, bound', Call.stepOn, Call.goto, Call.afterWord, afterCall]
  rfl

/-- No call-out that has returned is kept. -/
def Underway (p : PlacementLoop) : Prop :=
  ∀ t phase, p.phase = .selecting t phase → ∀ r, phase ≠ .returned r

theorem underway_of_asking (none : p.phase.asking = []) : p.Underway := by
  intro t phase here
  rw [here] at none
  cases none

/-- A step begins a call-out or carries it on, and what has returned is made a decision of, or the
loop ends. -/
theorem underway_step (k : Kernel) (h : Handle) (p : PlacementLoop) :
    (p.step k h).2.2.Underway := by
  rcases here : p.phase with - | - | - | ⟨t, phase⟩ | s | -
  · -- idle
    apply underway_of_asking
    simp only [step, here]
    split <;> rfl
  · -- reading exit events
    apply underway_of_asking
    simp only [step, here]
    split
    · simp only [here]
      rfl
    · rfl
  · -- receiving
    simp only [step, here]
    split
    · -- a task is received, and its call-out begins
      intro t phase began r returned
      cases began
      cases returned
    · exact underway_of_asking rfl
    · exact underway_of_asking rfl
  · -- selecting
    simp only [step, here, afterCall]
    split
    · apply underway_of_asking
      unfold placeAfter
      split <;> rfl
    · next running =>
      -- the call-out has not returned, so nothing is to be shown of an answer
      intro t phase same
      cases same
      exact running
  · -- sending
    apply underway_of_asking
    simp only [step, here]
    unfold afterSend
    split <;> rfl
  · -- finished
    apply underway_of_asking
    simp only [step, here]
    rfl

/-- A call-out that ends in a step was answered by a word or has failed. -/
theorem answer_of_mem_answers (underway : p.Underway) {call : Task × CallResult}
    (mem : call ∈ p.answers k h) : call.2.Answer := by
  unfold answers at mem
  split at mem
  · next t phase here =>
    obtain ⟨k', i', phase', e, move⟩ := Call.step_move h.closed k h.invoker (.select t) phase
    rw [e] at mem
    split at mem
    · next r returned =>
      rw [List.mem_singleton] at mem
      subst mem
      exact move.answer_of_returned (Call.phase_of_result? returned) (underway t phase here r)
    · cases mem
  · cases mem

end PlacementLoop

/-! ### Runs of the loop -/

namespace LoopRun

variable {r : LoopRun}

/-- The call-outs of a run were answered. -/
structure Answered (r : LoopRun) : Prop where
  answers : ∀ call ∈ r.asked, call.2.Answer
  underway : r.loop.Underway

/-- Whatever happens meanwhile, a call-out that was answered stays so. -/
theorem Answered.step (answered : Answered r) (a : Action) : Answered (r.step a) := by
  cases a with
  | place =>
    refine ⟨fun call mem => ?_, r.loop.underway_step r.kernel r.handle⟩
    rcases List.mem_append.mp mem with before | new
    · exact answered.answers call before
    · exact PlacementLoop.answer_of_mem_answers answered.underway new
  | meanwhile kernel handle => exact ⟨answered.answers, answered.underway⟩

theorem answered_run (k : Kernel) (h : Handle) (actions : List Action) :
    Answered (run { kernel := k, handle := h } actions) :=
  List.foldlRecOn actions LoopRun.step ⟨by simp, PlacementLoop.underway_of_asking rfl⟩
    fun _ ih a _ => ih.step a

end LoopRun

/-! ### What decisions tell apart -/

/-- **What decisions tell apart.**  Two words place a task alike just if they stand for one
selection, or if one is the number of the sentinel and the other stands for any CPU; so a decision
has the sentinel for its CPU if any CPU will do or the word was the sentinel, and never else.  On a
machine with no more CPUs than the sentinel, and on no larger one, the selections that it can follow
are told apart.

The placement loop puts the word that the subprogram returns for a task into its decision.  In every
run of a loop, whatever happens between two of its steps, the decisions that the dispatch queue
accepts are those of its first call-outs, and each call-out was answered by a word or failed. -/
theorem decisions_tell_apart (t : Task) (a b : UInt32) :
    (Decision.place t (.ofRaw a.toUInt64) = Decision.place t (.ofRaw b.toUInt64) ↔
      Selection.ofRaw a.toUInt64 = .ofRaw b.toUInt64 ∨
        a = anyCpu.toUInt32 ∧ 2 ^ 31 ≤ b.toNat ∨ 2 ^ 31 ≤ a.toNat ∧ b = anyCpu.toUInt32) ∧
    ((Decision.place t (.ofRaw a.toUInt64)).cpu? = some anyCpu ↔
      Selection.ofRaw a.toUInt64 = .any ∨ a = anyCpu.toUInt32) ∧
    (∀ cpus : UInt32,
      (∀ x y : UInt32, (Selection.ofRaw x.toUInt64).isWithin cpus = true →
        (Selection.ofRaw y.toUInt64).isWithin cpus = true →
        Decision.place t (.ofRaw x.toUInt64) = Decision.place t (.ofRaw y.toUInt64) →
        Selection.ofRaw x.toUInt64 = .ofRaw y.toUInt64) ↔ cpus ≤ anyCpu.toUInt32) ∧
    (∀ (k : Kernel) (h : Handle) (p : PlacementLoop) (c : Callee),
      h.invoker.selectCpu = some c → p.phase = .selecting t (.running (.ok a)) →
      (p.step k h).2.2.phase = .sending (.atGate (Decision.place t (.ofRaw a.toUInt64)))) ∧
    ∀ (k : Kernel) (h : Handle) (actions : List LoopRun.Action),
      let r := LoopRun.run { kernel := k, handle := h } actions
      r.accepted = (r.asked.take r.loop.placed).map decisionFor ∧
        ∀ call ∈ r.asked, call.2.Answer ∧
          ((decisionFor call).cpu? = some anyCpu ↔
            call.2.choice = .any ∨ call.2 = .selected (.specific anyCpu)) := by
  refine ⟨?_, ?_, fun cpus => ⟨fun apart => ?_, fun few => ?_⟩,
    fun k h p c bound here => PlacementLoop.step_of_word bound here, ?_⟩
  · rw [Decision.place_eq_iff, Selection.toKernel_eq_iff]
    simp only [true_and, Selection.ofRaw_eq_anyCpu_iff, Selection.ofRaw_eq_any_iff,
      UInt32.toNat_toUInt64, Nat.reducePow]
  · rw [Decision.cpu?_place, Option.some.injEq, Selection.toKernel_eq_anyCpu_iff,
      Selection.ofRaw_eq_anyCpu_iff]
  · -- a larger machine has a CPU with the number of the sentinel
    by_contra many
    have within : (Selection.ofRaw anyCpu.toUInt32.toUInt64).isWithin cpus = true := by
      rw [Selection.ofRaw_eq_anyCpu_iff.mpr rfl, Selection.isWithin_anyCpu_iff]
      exact UInt32.not_le.mp many
    have confused := apart anyCpu.toUInt32 4294967295 within rfl rfl
    cases confused
  · intro x y within within' same
    exact Selection.eq_of_toKernel_eq few within within' (Decision.place_eq_iff.mp same).2.2
  · intro k h actions r
    -- the ledger says which decisions are accepted, and each call-out has ended in an `Answer`
    have answered := LoopRun.answered_run k h actions
    obtain ⟨_, _, _, ledger⟩ := LoopRun.ledger_run k h actions
    refine ⟨ledger.losesAtMostOne.accepted, fun call asked => ⟨answered.answers call asked, ?_⟩⟩
    rw [decisionFor, Decision.cpu?_place, Option.some.injEq, Selection.toKernel_eq_anyCpu_iff,
      CallResult.choice_eq_specific_iff]

/-- A loop that the subprogram has just told the last CPU below the sentinel. -/
def toldLastCpu : PlacementLoop where
  phase := .selecting ⟨1, 3, 7⟩ (.running (.ok 1048575))

/-- A kernel whose selection subprogram always names that CPU. -/
def lastCpuKernel : Kernel :=
  PlacementRun.narrowLoad.kernel.setSubprogram Contract.selectCpu fun _ => .ok 1048575

/-- The last CPU below the sentinel is not taken for any CPU, neither beside a word that means that
nor in a decision that a loop has sent. -/
theorem decisions_tell_apart_lastCpu :
    let t : Task := ⟨1, 3, 7⟩
    let call : Task × CallResult := (t, .selected (.specific 1048575))
    let r := LoopRun.run { kernel := lastCpuKernel, handle := LoopRun.twoWaiting.handle }
      (List.replicate 22 .place)
    (toldLastCpu.step lastCpuKernel PlacementRun.narrowLoad.handle).2.2.phase =
        .sending (.atGate (Decision.place t (.ofRaw (1048575 : UInt32).toUInt64))) ∧
      (Selection.ofRaw (1048575 : UInt32).toUInt64).isWithin 1048576 = true ∧
      (Selection.ofRaw (4294967295 : UInt32).toUInt64).isWithin 1048576 = true ∧
      Decision.place t (.ofRaw (1048575 : UInt32).toUInt64) ≠
        Decision.place t (.ofRaw (4294967295 : UInt32).toUInt64) ∧
      call ∈ r.asked ∧ call.2.Answer ∧ decisionFor call ∈ r.accepted ∧
      (decisionFor call).cpu? ≠ some anyCpu := by
  intro t call r
  obtain ⟨-, -, guarded, builds, runs⟩ := decisions_tell_apart t 1048575 4294967295
  have last : (Selection.ofRaw (1048575 : UInt32).toUInt64).isWithin 1048576 = true := by decide
  have free : (Selection.ofRaw (4294967295 : UInt32).toUInt64).isWithin 1048576 = true := by decide
  have asked : call ∈ r.asked := by decide +kernel
  obtain ⟨-, answers⟩ := runs lastCpuKernel LoopRun.twoWaiting.handle (List.replicate 22 .place)
  obtain ⟨answer, open_iff⟩ := answers call asked
  refine ⟨builds _ _ _ { name := Contract.selectCpu } (by decide +kernel) rfl, last, free,
    fun same => ?_, asked, answer, by decide +kernel, fun sentinel => ?_⟩
  · have one := (guarded 1048576).mpr (by decide) _ _ last free same
    cases one
  · rcases open_iff.mp sentinel with any | named
    · cases any
    · exact absurd named (by decide)

namespace PlacementRun

/-- The call-out for a task names the CPU of the sentinel; that for the same task, when it is
offered once more, is answered with -1. -/
def sentinelThenAny : List Action :=
  [Action.setSubprogram Contract.selectCpu fun _ => .ok 1048576] ++
    List.replicate 5 (Action.thread .pollQueued) ++ List.replicate 14 (Action.thread .place) ++
    List.replicate 4 (Action.thread (.dispatch .flush)) ++
    [.setSubprogram Contract.selectCpu fun _ => .ok 4294967295,
      .offer (Task.encode ⟨1, 3, 7⟩)] ++
    List.replicate 5 (Action.thread .pollQueued) ++ List.replicate 14 (Action.thread .place) ++
    List.replicate 4 (Action.thread (.dispatch .flush))

end PlacementRun

/-- The two words stand for different selections, but the kernel is given the same decision twice,
and both say that any CPU will do. -/
theorem decisions_tell_apart_sentinelCpu :
    let t : Task := ⟨1, 3, 7⟩
    let r := (PlacementRun.serving PlacementRun.narrowLoad.handle
      PlacementRun.narrowLoad.kernel).run PlacementRun.sentinelThenAny
    Selection.ofRaw (1048576 : UInt32).toUInt64 = .specific anyCpu ∧
      Selection.ofRaw (4294967295 : UInt32).toUInt64 = .any ∧
      Decision.place t (.ofRaw (1048576 : UInt32).toUInt64) =
        Decision.place t (.ofRaw (4294967295 : UInt32).toUInt64) ∧
      (Decision.place t (.ofRaw (1048576 : UInt32).toUInt64)).cpu? = some anyCpu ∧
      r.asked = [(t, .selected (.specific anyCpu)), (t, .selected .any)] ∧
      r.deployment.kernel.waiting Contract.dispatched =
        [Task.encode ⟨1, anyCpu, 7⟩, Task.encode ⟨1, anyCpu, 7⟩] :=
  ⟨by decide, by decide, by decide, by decide, by decide +kernel, by decide +kernel⟩

end SchedPlane
