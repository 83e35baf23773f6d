/-
SchedPlane/Placement.lean

The placement loop: every queued task is sent to the CPU that the kernel program selects,
and anywhere if the selection fails.  The loop ends once the handle is closed, once the
queued stream has ended, or once a call-out or a send finds the handle closed; the task
at hand is then lost, and no other.

The loop is a machine.  It looks at the closed flag at the head of each round; its call-out
takes the steps of a `Call` and its send those of a blocking sender, so a close may come
between any two steps.
-/
import SchedPlane.Handle

namespace SchedPlane

/-- Where the placement loop is. -/
inductive PlacePhase where
  /-- About to look at the closed flag. -/
  | idle
  /-- Reading the exit events that have arrived. -/
  | readingExits
  /-- Waiting a limited time for a task. -/
  | receiving
  /-- Asking where a task should run. -/
  | selecting (t : Task) (phase : CallPhase)
  /-- Sending a decision. -/
  | sending (s : DispatchStream.Sender)
  | finished

/-- A placement loop and the decisions it has dispatched. -/
structure PlacementLoop where
  phase : PlacePhase := .idle
  placed : Nat := 0

namespace PlacementLoop

/-- Whether the loop has ended. -/
def isFinished (p : PlacementLoop) : Bool :=
  match p.phase with
  | .finished => true
  | _ => false

/-- The selection that the result of a call-out leads to: a failure leaves the choice to the
kernel program, and a closed handle leads to none. -/
def selection? : CallResult → Option Selection
  | .selected s => some s
  | .failed .closed => none
  | _ => some .any

/-- The loop after the result of a call-out for a task. -/
def placeAfter (p : PlacementLoop) (t : Task) (r : CallResult) : PlacementLoop :=
  match selection? r with
  | some s => { p with phase := .sending (.atGate (Decision.place t s)) }
  | none => { p with phase := .finished }

/-- The loop after a step of its send. -/
def afterSend (p : PlacementLoop) : DispatchStream.Sender → PlacementLoop
  | .returned true => { phase := .idle, placed := p.placed + 1 }
  | .returned false => { p with phase := .finished }
  | s => { p with phase := .sending s }

/-- The loop after a step of its call-out. -/
def afterCall (p : PlacementLoop) (t : Task) (c : Call) : PlacementLoop :=
  match c.phase with
  | .returned r => p.placeAfter t r
  | phase => { p with phase := .selecting t phase }

/-- The next step of the loop on the handle it serves. -/
def step (k : Kernel) (h : Handle) (p : PlacementLoop) : Kernel × Handle × PlacementLoop :=
  match p.phase with
  | .idle => (k, h, { p with phase := if h.closed then .finished else .readingExits })
  | .readingExits =>
    match h.exits.take? with
    | some (_, exits) => (k, { h with exits }, p)
    | none => (k, h, { p with phase := .receiving })
  | .receiving =>
    match h.queued.receive with
    | (.item t, queued) => (k, { h with queued }, { p with phase := .selecting t .entering })
    | (.disconnected, _) => (k, h, { p with phase := .finished })
    | (.empty, _) => (k, h, { p with phase := .idle })
  | .selecting t phase =>
    let (k', invoker, c) := Call.step h.closed k h.invoker { request := .select t, phase }
    (k', { h with invoker }, p.afterCall t c)
  | .sending s =>
    let (dispatch, s') := h.dispatch.sendStep s
    (k, { h with dispatch }, p.afterSend s')
  | .finished => (k, h, p)

/-- Whether the loop can do nothing more by itself. -/
def atRest (h : Handle) (p : PlacementLoop) : Bool :=
  match p.phase with
  | .idle | .readingExits | .receiving =>
    !h.closed && h.exits.queue.isEmpty && h.queued.queue.isEmpty && !h.queued.isFinished
  | .selecting t phase => Call.atRest h.invoker { request := .select t, phase }
  | .sending s => h.dispatch.senderAtRest s
  | .finished => true

end PlacementLoop

end SchedPlane
