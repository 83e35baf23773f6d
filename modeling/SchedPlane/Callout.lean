/-
SchedPlane/Callout.lean

Call-outs: single runs of the CPU selection and sibling subprograms of a loaded object.
A call looks at the closed flag and at whether its subprogram is bound, and then runs it on
the encoded arguments.  Every run is counted, a failed one also as a failure, and
nothing is tried twice.  `Invoker.select` and `Invoker.enableSibling` are whole calls.

Calls may come from many threads, so a call is also a machine (`Call.step`) whose steps
can be interleaved with other calls and with the closing of the handle: it takes the lock
of its subprogram, counts the run, looks whether the object is loaded, runs the body, and
gives the lock back.
-/
import SchedPlane.Kernel.Basic
import SchedPlane.Selection
import SchedPlane.Stats

namespace SchedPlane

/-! ### Subprograms -/

/-- A bound subprogram and the calls made of it. -/
structure Callee where
  name : String
  invocations : Nat := 0
  failures : Nat := 0
  /-- Whether a call holds its lock. -/
  busy : Bool := false
  deriving DecidableEq, Repr

namespace Callee

/-- The subprogram with one more call. -/
def count (c : Callee) : Callee :=
  { c with invocations := c.invocations + 1 }

/-- The subprogram with one more failed call. -/
def fail (c : Callee) : Callee :=
  { c with failures := c.failures + 1 }

/-- The subprogram with its lock given back. -/
def unlock (c : Callee) : Callee :=
  { c with busy := false }

/-- The statistics of a subprogram. -/
def stats (c : Callee) : CallStats where
  invocations := UInt64.ofNat c.invocations
  failures := UInt64.ofNat c.failures

/-- How the caller learns of a run that failed: an object already unloaded means that the
handle was closed meanwhile. -/
def failure (c : Callee) : ObjectError → ControlError
  | .unloaded => .closed
  | e => .invocation c.name e.message

/-- Runs the subprogram once on a context and counts the call. -/
def invoke (k : Kernel) (c : Callee) (context : Bytes) :
    Except ControlError UInt32 × Kernel × Callee :=
  match k.run c.name context with
  | (.ok word, k') => (.ok word, k', c.count)
  | (.error e, k') => (.error (c.failure e), k', c.count.fail)

end Callee

/-! ### The invoker -/

/-- The subprograms that call-outs reach; `none` marks one that was not bound. -/
structure Invoker where
  selectCpu : Option Callee
  siblingCpu : Option Callee
  deriving DecidableEq, Repr

namespace Invoker

/-- An invoker of the subprograms with the given names. -/
def new (selectCpu siblingCpu : Option String) : Invoker where
  selectCpu := selectCpu.map fun name => { name }
  siblingCpu := siblingCpu.map fun name => { name }

/-- Looks at the closed flag, then at whether the subprogram is bound. -/
def check (closed : Bool) (slot : Option Callee) (role : String) : Except ControlError Callee :=
  if closed then .error .closed
  else
    match slot with
    | some c => .ok c
    | none => .error (.subprogramUnavailable role)

/-- Asks the kernel program where a task should run. -/
def select (closed : Bool) (k : Kernel) (i : Invoker) (t : Task) :
    Except ControlError Selection × Kernel × Invoker :=
  match check closed i.selectCpu Contract.selectCpu with
  | .error e => (.error e, k, i)
  | .ok c =>
    match c.invoke k t.encode with
    | (.ok word, k', c') => (.ok (.ofRaw word.toUInt64), k', { i with selectCpu := some c' })
    | (.error e, k', c') => (.error e, k', { i with selectCpu := some c' })

/-- Declares a sibling relation; a word other than zero is its rejection, and a failure. -/
def enableSibling (closed : Bool) (k : Kernel) (i : Invoker) (r : Relation) :
    Except ControlError Unit × Kernel × Invoker :=
  match check closed i.siblingCpu Contract.siblingCpu with
  | .error e => (.error e, k, i)
  | .ok c =>
    match c.invoke k r.encode with
    | (.ok word, k', c') =>
      if word = 0 then (.ok (), k', { i with siblingCpu := some c' })
      else (.error (.domainConfig word), k', { i with siblingCpu := some c'.fail })
    | (.error e, k', c') => (.error e, k', { i with siblingCpu := some c' })

/-- The statistics of both subprograms. -/
def stats (i : Invoker) : CalloutStats where
  selectCpu := (i.selectCpu.map Callee.stats).getD {}
  siblingCpu := (i.siblingCpu.map Callee.stats).getD {}

end Invoker

/-! ### Calls as machines -/

/-- What a call asks of the kernel program. -/
inductive CallRequest where
  | select (t : Task)
  | enableSibling (r : Relation)
  deriving DecidableEq, Repr

namespace CallRequest

/-- The context that the subprogram runs on. -/
def context : CallRequest → Bytes
  | .select t => t.encode
  | .enableSibling r => r.encode

/-- The contract's name for the subprogram. -/
def role : CallRequest → String
  | .select _ => Contract.selectCpu
  | .enableSibling _ => Contract.siblingCpu

/-- The subprogram of an invoker that the call runs. -/
def callee (i : Invoker) : CallRequest → Option Callee
  | .select _ => i.selectCpu
  | .enableSibling _ => i.siblingCpu

/-- The invoker with that subprogram replaced. -/
def setCallee (i : Invoker) (c : Callee) : CallRequest → Invoker
  | .select _ => { i with selectCpu := some c }
  | .enableSibling _ => { i with siblingCpu := some c }

end CallRequest

/-- What a call brings back. -/
inductive CallResult where
  | selected (s : Selection)
  /-- The relation was accepted. -/
  | enabled
  | failed (e : ControlError)
  deriving DecidableEq, Repr

/-- Where a call is. -/
inductive CallPhase where
  /-- About to look at the closed flag. -/
  | entering
  /-- About to take the lock of the subprogram. -/
  | locking
  /-- Holding the lock, about to count the run. -/
  | counting
  /-- About to look whether the object is loaded. -/
  | starting
  /-- The object was loaded; about to start the body. -/
  | launching
  /-- The body runs. -/
  | running (outcome : Except ObjectError UInt32)
  /-- The run failed; about to count that and give the lock back. -/
  | failing (e : ObjectError)
  /-- The relation was rejected, the lock is given back; about to count the failure. -/
  | rejected (code : UInt32)
  | returned (r : CallResult)

/-- A call-out under way. -/
structure Call where
  request : CallRequest
  phase : CallPhase := .entering

namespace Call

/-- The result of a call that has returned. -/
def result? (c : Call) : Option CallResult :=
  match c.phase with
  | .returned r => some r
  | _ => none

/-- The call at a later point. -/
def goto (c : Call) (phase : CallPhase) : Call :=
  { c with phase }

/-- Where a call goes on after a word was returned. -/
def afterWord (word : UInt32) : CallRequest → CallPhase
  | .select _ => .returned (.selected (.ofRaw word.toUInt64))
  | .enableSibling _ => if word = 0 then .returned .enabled else .rejected word

/-- The next step of a call on a bound subprogram. -/
def stepOn (k : Kernel) (i : Invoker) (c : Call) (p : Callee) : Kernel × Invoker × Call :=
  let update (p : Callee) : Invoker := c.request.setCallee i p
  match c.phase with
  | .entering => (k, i, c.goto .locking)
  | .locking =>
    if p.busy then (k, i, c) else (k, update { p with busy := true }, c.goto .counting)
  | .counting => (k, update p.count, c.goto .starting)
  | .starting =>
    match k.ensureLoaded with
    | .ok () => (k, i, c.goto .launching)
    | .error e => (k, i, c.goto (.failing e))
  | .launching =>
    let (outcome, k') := k.runLoaded p.name c.request.context
    (k', i, c.goto (.running outcome))
  | .running (.ok word) => (k, update p.unlock, c.goto (afterWord word c.request))
  | .running (.error e) => (k, i, c.goto (.failing e))
  | .failing e => (k, update p.fail.unlock, c.goto (.returned (.failed (p.failure e))))
  | .rejected code => (k, update p.fail, c.goto (.returned (.failed (.domainConfig code))))
  | .returned r => (k, i, c.goto (.returned r))

/-- The next step of a call. -/
def step (closed : Bool) (k : Kernel) (i : Invoker) (c : Call) : Kernel × Invoker × Call :=
  match c.phase with
  | .returned _ => (k, i, c)
  | .entering =>
    match Invoker.check closed (c.request.callee i) c.request.role with
    | .error e => (k, i, c.goto (.returned (.failed e)))
    | .ok p => stepOn k i c p
  | _ =>
    match c.request.callee i with
    | some p => stepOn k i c p
    | none => (k, i, c.goto (.returned (.failed (.subprogramUnavailable c.request.role))))

/-- Whether the call can do nothing more by itself: it waits for a lock, or it is done. -/
def atRest (i : Invoker) (c : Call) : Bool :=
  match c.phase with
  | .locking => ((c.request.callee i).map Callee.busy).getD false
  | .returned _ => true
  | _ => false

end Call

end SchedPlane
