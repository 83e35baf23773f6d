/-
SchedPlane/Proofs/CalloutRuns.lean

Whole call-outs, one after the other.

Somebody makes calls through the invoker of an open handle, and between them the bodies of
subprograms are replaced.  `Outcome` lists what a call can come to, with the kernel and the invoker
after it; every call has one (`outcome_whole`), and all else is read off it:

* the counters of a subprogram are the numbers of the calls in the log (`Accounted`), because each
  outcome adds to them what its own entry adds to the log;
* a call changes nothing but its own subprogram and the run count of that name
  (`Outcome.callee_of_ne`, `Outcome.runCount`), so what is done to one subprogram does not show at
  the other (`Secluded`).

Main result: `callout_semantics`.
-/
import SchedPlane.Proofs.CallFlow
import SchedPlane.Proofs.RecordCodec

namespace SchedPlane

/-- Whether a call has failed. -/
def CallResult.isFailure : CallResult → Bool
  | .failed _ => true
  | .selected _ | .enabled => false

/-- The kernel that has run a subprogram once more. -/
def Kernel.countRun (k : Kernel) (name : String) : Kernel :=
  { k with runCounts := k.runCounts.set name (k.runCount name + 1) }

/-- A run is counted under its own name only. -/
theorem Kernel.runCount_countRun (k : Kernel) (name other : String) :
    (k.countRun name).runCount other = k.runCount other + if name = other then 1 else 0 := by
  unfold countRun runCount
  by_cases same : name = other
  · subst same
    simp
  · simp [Table.get?_set_of_ne same, same]

namespace CallRequest

variable {k : Kernel} {i : Invoker} {p : Callee} {q r : CallRequest}

/-! ### What a call comes to -/

/-- The arguments of a call as the subprogram sees them: 16 bytes for a task, 12 for a relation. -/
def layout : CallRequest → Bytes
  | .select t => Bytes.digits 4 t.pid.toInt ++ Bytes.digits 4 t.cpu.toInt ++
      Bytes.digits 8 t.flags.toNat
  | .enableSibling r => Bytes.digits 4 r.level.toInt ++ Bytes.digits 4 r.cpu.toInt ++
      Bytes.digits 4 r.sibling.toInt

/-- What a call hands to the body is its arguments in their layout. -/
theorem context_eq_layout (q : CallRequest) : q.context = q.layout := by
  cases q with
  | select t => exact t.encode_eq_digits
  | enableSibling r => exact r.encode_eq_digits

/-- A whole call on an open handle: its result, and the kernel and the invoker after it. -/
def whole (k : Kernel) (i : Invoker) (q : CallRequest) : CallResult × Kernel × Invoker :=
  (q.alone k i,
    match q with
    | .select t => (i.select false k t).2
    | .enableSibling r => (i.enableSibling false k r).2)

/-- What a word that the body returns means to the caller. -/
inductive Means (word : UInt32) : CallRequest → CallResult → Prop
  | specific {t : Task} {cpu : Int32} (small : word.toNat < 2 ^ 31)
      (same : cpu.toInt = word.toNat) : Means word (.select t) (.selected (.specific cpu))
  | any {t : Task} (large : 2 ^ 31 ≤ word.toNat) : Means word (.select t) (.selected .any)
  | enabled {r : Relation} (zero : word = 0) : Means word (.enableSibling r) .enabled
  | rejected {r : Relation} (code : word ≠ 0) :
      Means word (.enableSibling r) (.failed (.domainConfig word))

/-- What a call can come to. -/
inductive Outcome (k : Kernel) (i : Invoker) (q : CallRequest) :
    CallResult × Kernel × Invoker → Prop
  | unbound (none : q.callee i = none) :
      Outcome k i q (.failed (.subprogramUnavailable q.role), k, i)
  /-- The subprogram has no body, so nothing is run. -/
  | missing {p : Callee} (bound : q.callee i = some p)
      (absent : k.subprograms.get? p.name = none) :
      Outcome k i q (.failed (.invocation p.name ("Program not found: " ++ p.name)), k,
        q.setCallee i p.count.fail)
  | failed {p : Callee} {body : Subprogram} {e : ObjectError} (bound : q.callee i = some p)
      (present : k.subprograms.get? p.name = some body) (fails : body q.layout = .error e)
      (regular : e ≠ .unloaded) :
      Outcome k i q (.failed (.invocation p.name e.message), k.countRun p.name,
        q.setCallee i p.count.fail)
  /-- The body says that the object is unloaded, and is believed. -/
  | gone {p : Callee} {body : Subprogram} (bound : q.callee i = some p)
      (present : k.subprograms.get? p.name = some body) (fails : body q.layout = .error .unloaded) :
      Outcome k i q (.failed .closed, k.countRun p.name, q.setCallee i p.count.fail)
  | answered {p : Callee} {body : Subprogram} {word : UInt32} {result : CallResult}
      (bound : q.callee i = some p) (present : k.subprograms.get? p.name = some body)
      (answers : body q.layout = .ok word) (means : Means word q result) :
      Outcome k i q (result, k.countRun p.name,
        q.setCallee i (if result.isFailure then p.count.fail else p.count))

/-- Without a subprogram a call fails and nothing else happens. -/
theorem whole_of_unbound (none : q.callee i = none) :
    q.whole k i = (.failed (.subprogramUnavailable q.role), k, i) := by
  have told := alone_of_unbound none k
  cases q with
  | select t =>
    have none' : i.selectCpu = Option.none := none
    simp [whole, told, Invoker.select, Invoker.check, none']
  | enableSibling r =>
    have none' : i.siblingCpu = Option.none := none
    simp [whole, told, Invoker.enableSibling, Invoker.check, none']

/-- A body that fails has run and is counted as a failure. -/
theorem whole_of_error {e : ObjectError} (loaded : k.unloaded = false)
    (bound : q.callee i = some p) (answers : (k.runLoaded p.name q.context).1 = .error e) :
    q.whole k i =
      (.failed (p.failure e), (k.runLoaded p.name q.context).2, q.setCallee i p.count.fail) := by
  have told := alone_of_error loaded bound answers
  cases q with
  | select t =>
    have bound' : i.selectCpu = some p := bound
    have fails : p.invoke k t.encode = _ := Callee.invoke_of_error loaded answers
    simp [whole, told, Invoker.select, Invoker.check, bound', fails, context, setCallee]
  | enableSibling r =>
    have bound' : i.siblingCpu = some p := bound
    have fails : p.invoke k r.encode = _ := Callee.invoke_of_error loaded answers
    simp [whole, told, Invoker.enableSibling, Invoker.check, bound', fails, context, setCallee]

theorem means_select (t : Task) (word : UInt32) :
    Means word (.select t) (.selected (.ofRaw word.toUInt64)) := by
  have raw : word.toUInt64.toNat = word.toNat := UInt32.toNat_toUInt64 word
  rcases chosen : Selection.ofRaw word.toUInt64 with cpu | -
  · have number := Selection.ofRaw_eq_specific_iff.mp chosen
    have bound : cpu.toInt < 2 ^ 31 := cpu.toInt_lt
    rw [raw] at number
    exact .specific (by omega) number
  · have large := Selection.ofRaw_eq_any_iff.mp chosen
    rw [raw] at large
    exact .any large

/-- A word is a selection or an answer to a relation, and only a relation can be rejected by it. -/
theorem whole_of_ok {word : UInt32} (loaded : k.unloaded = false) (bound : q.callee i = some p)
    (answers : (k.runLoaded p.name q.context).1 = .ok word) :
    ∃ result, Means word q result ∧ q.whole k i =
      (result, (k.runLoaded p.name q.context).2,
        q.setCallee i (if result.isFailure then p.count.fail else p.count)) := by
  cases q with
  | select t =>
    have bound' : i.selectCpu = some p := bound
    have runs : p.invoke k t.encode = _ := Callee.invoke_of_ok loaded answers
    refine ⟨_, means_select t word, ?_⟩
    simp [whole, alone, Invoker.select, Invoker.check, bound', runs, context, setCallee,
      CallResult.isFailure]
  | enableSibling r =>
    have bound' : i.siblingCpu = some p := bound
    have runs : p.invoke k r.encode = _ := Callee.invoke_of_ok loaded answers
    by_cases zero : word = 0
    · refine ⟨_, .enabled zero, ?_⟩
      simp [whole, alone, Invoker.enableSibling, Invoker.check, bound', runs, zero, context,
        setCallee, CallResult.isFailure]
    · refine ⟨_, .rejected zero, ?_⟩
      simp [whole, alone, Invoker.enableSibling, Invoker.check, bound', runs, zero, context,
        setCallee, CallResult.isFailure]

/-- **Every call on a loaded object has an outcome.** -/
theorem outcome_whole (loaded : k.unloaded = false) (i : Invoker) (q : CallRequest) :
    Outcome k i q (q.whole k i) := by
  -- is there a subprogram, has it a body, and what does the body answer
  rcases bound : q.callee i with - | p
  · rw [whole_of_unbound bound]
    exact .unbound bound
  · rcases here : k.subprograms.get? p.name with - | body
    · have run : k.runLoaded p.name q.context = (.error (.programNotFound p.name), k) := by
        simp only [Kernel.runLoaded, here]
      rw [whole_of_error loaded bound (congrArg Prod.fst run), run]
      exact .missing bound here
    · have run : k.runLoaded p.name q.context = (body q.layout, k.countRun p.name) := by
        rw [context_eq_layout]
        simp only [Kernel.runLoaded, here]
        rfl
      rcases told : body q.layout with e | word
      · rw [whole_of_error loaded bound ((congrArg Prod.fst run).trans told), run]
        by_cases gone : e = .unloaded
        · subst gone
          exact .gone bound here told
        · have wording : p.failure e = .invocation p.name e.message := by
            cases e <;> first | rfl | exact absurd rfl gone
          rw [wording]
          exact .failed bound here told gone
      · obtain ⟨result, means, whole⟩ :=
          whole_of_ok loaded bound ((congrArg Prod.fst run).trans told)
        rw [whole, run]
        exact .answered bound here told means

/-- A word means one thing only. -/
theorem Means.unique {word : UInt32} {result result' : CallResult} (h : Means word q result)
    (h' : Means word q result') : result = result' := by
  cases h with
  | specific small same =>
    cases h' with
    | specific _ same' =>
      have cpus := Int32.toInt_inj.mp (same.trans same'.symm)
      rw [cpus]
    | any large => exact absurd small (Nat.not_lt.mpr large)
  | any large =>
    cases h' with
    | specific small => exact absurd small (Nat.not_lt.mpr large)
    | any => rfl
  | enabled zero =>
    cases h' with
    | enabled => rfl
    | rejected code => exact absurd zero code
  | rejected code =>
    cases h' with
    | enabled zero => exact absurd zero code
    | rejected => rfl

/-- The result of a call depends on its arguments and on the body it finds, and on nothing else. -/
theorem alone_congr {k' : Kernel} {i' : Invoker} (loaded : k.unloaded = false)
    (loaded' : k'.unloaded = false)
    (names : (q.callee i').map Callee.name = (q.callee i).map Callee.name)
    (bodies : ∀ p, q.callee i = some p →
      k'.subprograms.get? p.name = k.subprograms.get? p.name) :
    q.alone k' i' = q.alone k i := by
  rcases bound : q.callee i with - | p
  · rw [bound] at names
    rw [alone_of_unbound bound, alone_of_unbound (Option.map_eq_none_iff.mp names)]
  · rw [bound] at names
    obtain ⟨p', bound', name⟩ := Option.map_eq_some_iff.mp names
    have same : (k'.runLoaded p'.name q.context).1 = (k.runLoaded p.name q.context).1 := by
      rw [name, Kernel.runLoaded, Kernel.runLoaded, bodies p bound]
      split <;> rfl
    rcases answers : (k.runLoaded p.name q.context).1 with e | word
    · rw [alone_of_error loaded bound answers, alone_of_error loaded' bound' (same.trans answers)]
      cases e <;> simp only [Callee.failure, name]
    · obtain ⟨result, means, whole⟩ := whole_of_ok loaded bound answers
      obtain ⟨result', means', whole'⟩ := whole_of_ok loaded' bound' (same.trans answers)
      have told : q.alone k i = result := congrArg Prod.fst whole
      have told' : q.alone k' i' = result' := congrArg Prod.fst whole'
      rw [told, told', means.unique means']

/-! ### What a call leaves alone -/

variable {call : CallResult × Kernel × Invoker}

/-- Whether the call finds a body to run. -/
def findsBody (k : Kernel) (i : Invoker) (q : CallRequest) : Bool :=
  ((q.callee i).bind fun p => k.subprograms.get? p.name).isSome

/-- Whether the call runs a subprogram of a name, should it have a body. -/
def addresses (i : Invoker) (name : String) (q : CallRequest) : Bool :=
  decide ((q.callee i).map Callee.name = some name)

namespace Outcome

/-- A call leaves the subprogram of the other role as it was. -/
theorem callee_of_ne (h : Outcome k i q call) (apart : r.role ≠ q.role) :
    r.callee call.2.2 = r.callee i := by
  cases h with
  | unbound => rfl
  | missing | failed | gone | answered => exact callee_setCallee_of_ne apart i _

/-- What a call counts at its own subprogram. -/
theorem callee (h : Outcome k i q call) (bound : q.callee i = some p) :
    ∃ p', q.callee call.2.2 = some p' ∧ p'.name = p.name ∧
      p'.invocations = p.invocations + 1 ∧
      p'.failures = p.failures + call.1.isFailure.toNat := by
  have same {p' : Callee} (bound' : q.callee i = some p') : p' = p :=
    Option.some.inj (bound'.symm.trans bound)
  cases h with
  | unbound none =>
    rw [none] at bound
    cases bound
  | missing bound' | failed bound' | gone bound' =>
    obtain rfl := same bound'
    exact ⟨_, callee_setCallee q i _, rfl, rfl, rfl⟩
  | @answered p' _ _ result bound' =>
    obtain rfl := same bound'
    refine ⟨_, callee_setCallee q i _, ?_, ?_, ?_⟩ <;> cases result.isFailure <;> rfl

/-- No call gives a subprogram another name, or binds one. -/
theorem callee_name (h : Outcome k i q call) (r : CallRequest) :
    (r.callee call.2.2).map Callee.name = (r.callee i).map Callee.name := by
  by_cases same : r.role = q.role
  · rw [callee_of_role same, callee_of_role same]
    rcases bound : q.callee i with - | p
    · cases h with
      | unbound none => rw [none]
      | missing bound' | failed bound' | gone bound' | answered bound' =>
        rw [bound] at bound'
        cases bound'
    · obtain ⟨p', bound', name, -⟩ := h.callee bound
      rw [bound', Option.map_some, name, Option.map_some]
  · rw [h.callee_of_ne same]

/-- **A call runs its subprogram once** if it finds a body, and no other. -/
theorem runCount (h : Outcome k i q call) (name : String) :
    call.2.1.runCount name =
      k.runCount name + (q.findsBody k i && q.addresses i name).toNat := by
  cases h with
  | unbound none => simp [findsBody, none]
  | missing bound absent => simp [findsBody, bound, absent]
  | @failed p _ _ bound present | @gone p _ bound present | @answered p _ _ _ bound present =>
    have found : q.findsBody k i = true := by simp [findsBody, bound, present]
    rw [Kernel.runCount_countRun, found]
    by_cases same : p.name = name <;> simp [addresses, bound, same]

/-- A call changes nothing of the kernel but the run counts. -/
theorem kernel_eq (h : Outcome k i q call) :
    call.2.1 = { k with runCounts := call.2.1.runCounts } := by
  cases h <;> rfl

end Outcome

end CallRequest

/-! ### Runs -/

/-- A call that was made. -/
structure CalloutRun.Entry where
  request : CallRequest
  /-- Whether it found a body to run. -/
  found : Bool
  result : CallResult

/-- A run of whole call-outs on an open handle, with its log. -/
structure CalloutRun where
  kernel : Kernel
  invoker : Invoker
  /-- The calls made, oldest first. -/
  log : List CalloutRun.Entry := []

namespace CalloutRun

/-- What can happen. -/
inductive Action where
  | call (q : CallRequest)
  /-- The body of a subprogram is replaced. -/
  | replace (name : String) (body : Subprogram)

/-- The call that is made, if one is. -/
def Action.request? : Action → Option CallRequest
  | .call q => some q
  | .replace .. => none

/-- The run that begins with an invoker of some subprograms of an object. -/
def starting (k : Kernel) (select sibling : Option String) : CalloutRun where
  kernel := k
  invoker := .new select sibling

/-- The run after an action. -/
def step (r : CalloutRun) : Action → CalloutRun
  | .call q =>
    let (result, kernel, invoker) := q.whole r.kernel r.invoker
    { kernel, invoker, log := r.log ++ [⟨q, q.findsBody r.kernel r.invoker, result⟩] }
  | .replace name body => { r with kernel := r.kernel.setSubprogram name body }

/-- The run after a list of actions. -/
def run (r : CalloutRun) (actions : List Action) : CalloutRun :=
  actions.foldl step r

/-- The calls of a role. -/
def calls (r : CalloutRun) (role : String) : Nat :=
  r.log.countP fun e => decide (e.request.role = role)

/-- The calls of a role that returned an error. -/
def failures (r : CalloutRun) (role : String) : Nat :=
  r.log.countP fun e => decide (e.request.role = role) && e.result.isFailure

/-- The calls that found a body of a subprogram of a name. -/
def runs (r : CalloutRun) (name : String) : Nat :=
  r.log.countP fun e => e.found && e.request.addresses r.invoker name

variable {k : Kernel} {i : Invoker} {r : CalloutRun} {q : CallRequest} {p : Callee}

/-- The counters agree with the log, and the subprograms are those of the beginning. -/
structure Accounted (k : Kernel) (i : Invoker) (r : CalloutRun) : Prop where
  loaded : r.kernel.unloaded = false
  names : ∀ q : CallRequest, (q.callee r.invoker).map Callee.name = (q.callee i).map Callee.name
  /-- Every call of a bound subprogram counts, a failed one twice. -/
  counters : ∀ (q : CallRequest) (p : Callee), q.callee r.invoker = some p →
    p.invocations = r.calls q.role ∧ p.failures = r.failures q.role
  /-- A subprogram has run once for each call of it that found a body. -/
  runCounts : ∀ name, r.kernel.runCount name = k.runCount name + r.runs name

theorem step_call (r : CalloutRun) (q : CallRequest) :
    r.step (.call q) =
      { kernel := (q.whole r.kernel r.invoker).2.1
        invoker := (q.whole r.kernel r.invoker).2.2
        log := r.log ++ [⟨q, q.findsBody r.kernel r.invoker, (q.whole r.kernel r.invoker).1⟩] } :=
  rfl

/-- The log has the calls that were made, in their order. -/
theorem requests_run (r : CalloutRun) (actions : List Action) :
    (r.run actions).log.map Entry.request =
      r.log.map Entry.request ++ actions.filterMap Action.request? := by
  induction actions generalizing r with
  | nil => exact (List.append_nil _).symm
  | cons a rest ih =>
    refine (ih (r.step a)).trans ?_
    cases a with
    | call q => simp [step_call, Action.request?]
    | replace name body => rfl

/-- Nothing but the names decides which subprogram a call addresses. -/
theorem addresses_of_names {i' : Invoker} (names : ∀ q : CallRequest,
    (q.callee i').map Callee.name = (q.callee i).map Callee.name) (q : CallRequest)
    (name : String) : q.addresses i' name = q.addresses i name := by
  rw [CallRequest.addresses, names, CallRequest.addresses]

/-- A call makes its entry, and counts as much. -/
theorem Accounted.call (h : Accounted k i r) (q : CallRequest) :
    Accounted k i (r.step (.call q)) := by
  have outcome := q.outcome_whole h.loaded r.invoker
  rw [step_call]
  -- from here on, all that is known of the call is its outcome
  generalize q.whole r.kernel r.invoker = call at outcome
  refine ⟨?_, ?_, ?_, ?_⟩
  · rw [outcome.kernel_eq]
    exact h.loaded
  · intro q'
    exact (outcome.callee_name q').trans (h.names q')
  · intro q' p' bound'
    simp only [calls, failures, List.countP_append, List.countP_singleton]
    by_cases same : q'.role = q.role
    · -- the subprogram that was called, which cannot have been bound by the call
      rw [CallRequest.callee_of_role same] at bound'
      rcases bound : q.callee r.invoker with - | p
      · have none := outcome.callee_name q
        rw [bound', bound] at none
        cases none
      · obtain ⟨p'', counted, -, invocations, failures⟩ := outcome.callee bound
        obtain rfl := Option.some.inj (counted.symm.trans bound')
        obtain ⟨before, failed⟩ := h.counters q p bound
        rw [invocations, failures, before, failed, same]
        cases call.1.isFailure <;> simp [calls, CalloutRun.failures]
    · rw [outcome.callee_of_ne same] at bound'
      have other : q.role ≠ q'.role := Ne.symm same
      simp only [other, decide_false, Bool.false_and, Bool.false_eq_true, if_false, Nat.add_zero]
      exact h.counters q' p' bound'
  · intro name
    have keeps (e : Entry) := addresses_of_names outcome.callee_name e.request name
    simp only [runs, List.countP_append, List.countP_singleton, keeps]
    rw [outcome.runCount, h.runCounts, Nat.add_assoc]
    cases q.findsBody r.kernel r.invoker && q.addresses r.invoker name <;> rfl

/-- Replacing a body counts nothing. -/
theorem Accounted.replace (h : Accounted k i r) (name : String) (body : Subprogram) :
    Accounted k i (r.step (.replace name body)) :=
  ⟨h.loaded, h.names, h.counters, h.runCounts⟩

theorem Accounted.step (h : Accounted k i r) (a : Action) : Accounted k i (r.step a) := by
  cases a with
  | call q => exact h.call q
  | replace name body => exact h.replace name body

theorem Accounted.run (h : Accounted k i r) (actions : List Action) :
    Accounted k i (r.run actions) :=
  List.foldlRecOn actions CalloutRun.step h fun _ ih a _ => ih.step a

theorem accounted_starting (loaded : k.unloaded = false) (select sibling : Option String) :
    Accounted k (.new select sibling) (starting k select sibling) where
  loaded := loaded
  names _ := rfl
  counters q p bound := by
    cases q with
    | select t =>
      obtain ⟨name, -, rfl⟩ := Option.map_eq_some_iff.mp bound
      exact ⟨rfl, rfl⟩
    | enableSibling r =>
      obtain ⟨name, -, rfl⟩ := Option.map_eq_some_iff.mp bound
      exact ⟨rfl, rfl⟩
  runCounts _ := rfl

/-! ### What does not show -/

variable {later : List Action}

/-- What none of the later actions changes in a run like this one stays as it is. -/
theorem Accounted.run_eq {β : Type} (f : CalloutRun → β) (h : Accounted k i r)
    (keeps : ∀ r' : CalloutRun, Accounted k i r' → ∀ a ∈ later, f (r'.step a) = f r') :
    f (r.run later) = f r := by
  suffices Accounted k i (r.run later) ∧ f (r.run later) = f r from this.2
  refine List.foldlRecOn (motive := fun r' => Accounted k i r' ∧ f r' = f r) later
    CalloutRun.step ⟨h, rfl⟩ ?_
  intro r' ⟨h', same⟩ a mem
  exact ⟨h'.step a, (keeps r' h' a mem).trans same⟩

/-- Calls of the other role and new bodies leave a subprogram and its counters as they were. -/
theorem Accounted.callee_run (h : Accounted k i r)
    (spared : ∀ c, Action.call c ∈ later → c.role ≠ q.role) :
    q.callee (r.run later).invoker = q.callee r.invoker := by
  apply h.run_eq fun r' => q.callee r'.invoker
  intro r' h' a mem
  cases a with
  | call c =>
    exact (c.outcome_whole h'.loaded r'.invoker).callee_of_ne (spared c mem).symm
  | replace => rfl

/-- A subprogram that no call addresses is not run, whatever becomes of its body. -/
theorem Accounted.runCount_run {name : String} (h : Accounted k i r)
    (spared : ∀ c, Action.call c ∈ later → c.addresses r.invoker name = false) :
    (r.run later).kernel.runCount name = r.kernel.runCount name := by
  apply h.run_eq fun r' => r'.kernel.runCount name
  intro r' h' a mem
  cases a with
  | call c =>
    have elsewhere : c.addresses r'.invoker name = false := by
      rw [addresses_of_names h'.names, ← addresses_of_names h.names]
      exact spared c mem
    have counted := (c.outcome_whole h'.loaded r'.invoker).runCount name
    rw [elsewhere, Bool.and_false] at counted
    exact counted
  | replace => rfl

/-- A body that is not replaced stays. -/
theorem Accounted.body_run {name : String} (h : Accounted k i r)
    (fixed : ∀ body, Action.replace name body ∉ later) :
    (r.run later).kernel.subprograms.get? name = r.kernel.subprograms.get? name := by
  apply h.run_eq fun r' => r'.kernel.subprograms.get? name
  intro r' h' a mem
  cases a with
  | call c =>
    show (c.whole r'.kernel r'.invoker).2.1.subprograms.get? name = _
    rw [(c.outcome_whole h'.loaded r'.invoker).kernel_eq]
  | replace other body =>
    have apart : other ≠ name := by
      rintro rfl
      exact fixed body mem
    exact Table.get?_set_of_ne apart body _

/-! ### Semantics -/

/-- A subprogram whose name the other does not share has run once for each call of its role that
found a body. -/
theorem Accounted.runCount_of_apart (h : Accounted k i r) (bound : q.callee r.invoker = some p)
    (apart : ∀ (q' : CallRequest) (p' : Callee), q'.role ≠ q.role →
      q'.callee r.invoker = some p' → p'.name ≠ p.name) :
    r.kernel.runCount p.name =
      k.runCount p.name + r.log.countP fun e => decide (e.request.role = q.role) && e.found := by
  rw [h.runCounts, runs]
  congr 1
  apply List.countP_congr
  intro e _
  have addressed : e.request.addresses r.invoker p.name = decide (e.request.role = q.role) := by
    rw [CallRequest.addresses, decide_eq_decide]
    constructor
    · intro name
      obtain ⟨p', bound', name'⟩ := Option.map_eq_some_iff.mp name
      by_contra other
      exact apart e.request p' other bound' name'
    · intro same
      rw [CallRequest.callee_of_role same, bound, Option.map_some]
  rw [addressed, Bool.and_comm]

/-- Later actions do not show at a subprogram that they have nothing to do with. -/
structure Secluded (r : CalloutRun) (later : List Action) : Prop where
  /-- Neither calls of the other role nor new bodies touch its counters. -/
  callee : ∀ q : CallRequest, (∀ c, Action.call c ∈ later → c.role ≠ q.role) →
    q.callee (r.run later).invoker = q.callee r.invoker
  /-- A subprogram that is not called is not run. -/
  runCount : ∀ name, (∀ c, Action.call c ∈ later → c.addresses r.invoker name = false) →
    (r.run later).kernel.runCount name = r.kernel.runCount name
  /-- A call gives the same result as long as the body stays. -/
  result : ∀ q : CallRequest,
    (∀ p, q.callee r.invoker = some p → ∀ body, Action.replace p.name body ∉ later) →
    (q.whole (r.run later).kernel (r.run later).invoker).1 = (q.whole r.kernel r.invoker).1

/-- What happens elsewhere does not show at a subprogram, as each action leaves it alone. -/
theorem Accounted.secluded (h : Accounted k i r) (later : List Action) : Secluded r later where
  callee _ spared := h.callee_run spared
  runCount _ spared := h.runCount_run spared
  result q fixed := by
    have after := h.run later
    apply CallRequest.alone_congr h.loaded after.loaded
    · rw [after.names, h.names]
    · intro p bound
      exact h.body_run (fixed p bound)

/-- **Call-outs on an open handle**, in any sequence and with any bodies put in between.  Each call
comes to what its outcome says, on the bytes of its arguments; the counters of both subprograms and
the run counts are those of the log; and what happens to one subprogram does not show at the other:
not in its counters, nor in its run count, nor in its results. -/
theorem callout_semantics {k : Kernel} (loaded : k.unloaded = false)
    (select sibling : Option String) (actions : List Action) :
    let r := (starting k select sibling).run actions
    (∀ q : CallRequest, q.Outcome r.kernel r.invoker (q.whole r.kernel r.invoker)) ∧
    (∀ t : Task, (CallRequest.select t).layout.length = 16) ∧
    (∀ s : Relation, (CallRequest.enableSibling s).layout.length = 12) ∧
    r.log.map Entry.request = actions.filterMap Action.request? ∧
    Accounted k (.new select sibling) r ∧
    (∀ (q : CallRequest) (p : Callee), q.callee r.invoker = some p →
      (∀ (q' : CallRequest) (p' : Callee), q'.role ≠ q.role →
        q'.callee r.invoker = some p' → p'.name ≠ p.name) →
      r.kernel.runCount p.name = k.runCount p.name +
        r.log.countP fun e => decide (e.request.role = q.role) && e.found) ∧
    ∀ later : List Action, Secluded r later := by
  intro r
  have accounted : Accounted k (.new select sibling) r :=
    (accounted_starting loaded select sibling).run actions
  refine ⟨fun q => q.outcome_whole accounted.loaded r.invoker, fun t => ?_, fun s => ?_,
    requests_run _ actions, accounted, fun q p => accounted.runCount_of_apart, accounted.secluded⟩
  · rw [← CallRequest.context_eq_layout]
    exact t.length_encode
  · rw [← CallRequest.context_eq_layout]
    exact s.length_encode

/-- Bodies on both sides of the boundary, one that fails, and a subprogram that has none. -/
def boundaryCalls : List Action :=
  [.call (.select ⟨7, 3, 0⟩), .replace Contract.selectCpu fun _ => .ok 2147483647,
    .call (.select ⟨7, -1, 1⟩), .replace Contract.selectCpu fun _ => .ok 2147483648,
    .call (.select ⟨-7, 0, 0⟩), .call (.enableSibling ⟨0, 2, 3⟩),
    .replace Contract.selectCpu fun _ => .error (.runFailed "EINVAL"),
    .call (.select ⟨1, 0, 0⟩)]

/-- A relation is accepted, the body is replaced, and the same relation is rejected. -/
def rejectedRelation : List Action :=
  [.call (.enableSibling ⟨0, 2, 3⟩), .replace Contract.siblingCpu fun _ => .ok 22,
    .call (.enableSibling ⟨0, 2, 3⟩)]

/-- A failure is counted where the subprogram does not run and where it rejects the relation, and a
rejection is a run all the same. -/
theorem callout_semantics_boundaryCalls :
    let k := Blueprint.standard.build
    let r := (starting k (some Contract.selectCpu) (some "absent")).run boundaryCalls
    let s := (starting k (some Contract.selectCpu) (some Contract.siblingCpu)).run rejectedRelation
    k.unloaded = false ∧
    (Accounted k (.new (some Contract.selectCpu) (some "absent")) r ∧
      r.log.map Entry.result =
        [.selected (.specific 3), .selected (.specific 2147483647), .selected .any,
          .failed (.invocation "absent" "Program not found: absent"),
          .failed (.invocation "rs_select_cpu" "Program run failed: EINVAL")] ∧
      r.invoker.stats = ⟨⟨4, 1⟩, ⟨1, 1⟩⟩ ∧ r.kernel.runCount Contract.selectCpu = 4 ∧
      r.kernel.runCount "absent" = 0) ∧
    Accounted k (.new (some Contract.selectCpu) (some Contract.siblingCpu)) s ∧
      s.log.map Entry.result = [.enabled, .failed (.domainConfig 22)] ∧
      s.invoker.stats = ⟨⟨0, 0⟩, ⟨2, 1⟩⟩ ∧ s.kernel.runCount Contract.siblingCpu = 2 := by
  have semantics := callout_semantics (k := Blueprint.standard.build) rfl (some Contract.selectCpu)
  obtain ⟨-, -, -, -, accounted, -⟩ := semantics (some "absent") boundaryCalls
  obtain ⟨-, -, -, -, accounted', -⟩ := semantics (some Contract.siblingCpu) rejectedRelation
  exact ⟨rfl, ⟨accounted, by decide +kernel, by decide +kernel, by decide +kernel,
    by decide +kernel⟩, accounted', by decide +kernel, by decide +kernel, by decide +kernel⟩

end CalloutRun

end SchedPlane
