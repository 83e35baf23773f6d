/-
SchedPlane/Proofs/PlacementLosses.lean

What a placement loop may lose, whatever happens around it.

A run lets the loop take its steps one by one, and between two of them anything may become of the
kernel and the handle: tasks and exit events arrive, subprograms change or fail, the dispatch
queue fills up, its thread dies, the handle is closed.  The history of a run is read off from what
the loop's own steps change: the tasks that leave the queued stream, the call-outs that return,
the decisions that enter the dispatch queue and those that are turned away.

A task that was taken is placed, or it is at hand; `AtHand` lists the places where it can be then,
and the two ends at which the loop leaves it.  `Ledger` is kept by every move of the loop and does
not mention the kernel or the handle, which is why the rest of the world is free.

Main result, `loses_at_most_one`.  The runs of a whole deployment are such runs,
`PlacementRun.followed_run`.
-/
import SchedPlane.Proofs.PlacementRuns

namespace SchedPlane

open DispatchStream

/-- A run of a placement loop, with its history. -/
structure LoopRun where
  kernel : Kernel
  handle : Handle
  loop : PlacementLoop := {}
  /-- The tasks the loop has taken from the queued stream, oldest first. -/
  taken : List Task := []
  /-- The tasks of its call-outs and their results, oldest first. -/
  asked : List (Task × CallResult) := []
  /-- The decisions the dispatch queue has accepted from it, oldest first. -/
  accepted : List Decision := []
  /-- The decisions whose send came back closed. -/
  refused : List Decision := []

namespace LoopRun

/-! ### Steps -/

/-- What can happen next. -/
inductive Action where
  /-- The loop takes a step. -/
  | place
  /-- Anything else happens to the kernel and the handle. -/
  | meanwhile (kernel : Kernel) (handle : Handle)

/-- The decision whose send ends the loop, if one does. -/
def turnedAway (before after : PlacementLoop) : List Decision :=
  match after.phase with
  | .finished => before.phase.unsent
  | _ => []

theorem turnedAway_of_unsent {before : PlacementLoop} (none : before.phase.unsent = [])
    (after : PlacementLoop) : turnedAway before after = [] := by
  unfold turnedAway
  split
  · exact none
  · rfl

/-- A loop that goes on has not been turned away. -/
theorem turnedAway_of_running {after : PlacementLoop} (running : after.phase ≠ .finished)
    (before : PlacementLoop) : turnedAway before after = [] := by
  unfold turnedAway
  split
  · next ended => exact absurd ended running
  · rfl

/-- The run after a step of the loop that has led to a kernel, a handle and a loop, and in which
call-outs were answered. -/
def after (r : LoopRun) (answers : List (Task × CallResult)) (kernel : Kernel) (handle : Handle)
    (loop : PlacementLoop) : LoopRun where
  kernel
  handle
  loop
  taken :=
    r.taken ++ r.handle.queued.queue.take
      (r.handle.queued.queue.length - handle.queued.queue.length)
  asked := r.asked ++ answers
  accepted := r.accepted ++ handle.dispatch.queue.drop r.handle.dispatch.queue.length
  refused := r.refused ++ turnedAway r.loop loop

/-- The run after an action. -/
def step (r : LoopRun) : Action → LoopRun
  | .place =>
    let (kernel, handle, loop) := r.loop.step r.kernel r.handle
    r.after (r.loop.answers r.kernel r.handle) kernel handle loop
  | .meanwhile kernel handle => { r with kernel, handle }

/-- The run after a list of actions. -/
def run (r : LoopRun) (actions : List Action) : LoopRun :=
  actions.foldl step r

/-! ### What is at hand -/

/-- Where the task is that was taken and not placed: `tasks` is that task, `calls` its call-out if
that has returned, and `refused` its decision if that was turned away. -/
inductive AtHand : PlacePhase → List Task → List (Task × CallResult) → List Decision → Prop
  | nothing {phase : PlacePhase} (free : phase.isFree = true ∨ phase = .finished) :
      AtHand phase [] [] []
  | asking {t : Task} {phase : CallPhase} : AtHand (.selecting t phase) [t] [] []
  | sending {call : Task × CallResult} {s : Sender} (opened : call.2 ≠ .failed .closed)
      (own : (PlacePhase.sending s).unsent = [decisionFor call]) :
      AtHand (.sending s) [call.1] [call] []
  /-- The call-out found the handle closed, and the loop has ended. -/
  | unanswered {t : Task} : AtHand .finished [t] [(t, .failed .closed)] []
  /-- The send found the handle closed, and the loop has ended. -/
  | unsent {call : Task × CallResult} (opened : call.2 ≠ .failed .closed) :
      AtHand .finished [call.1] [call] [decisionFor call]

namespace AtHand

variable {phase : PlacePhase} {tasks : List Task} {calls : List (Task × CallResult)}
  {refused : List Decision}

/-- A loop that is free has nothing at hand. -/
theorem of_isFree (h : AtHand phase tasks calls refused) (free : phase.isFree = true) :
    tasks = [] ∧ calls = [] ∧ refused = [] := by
  cases h with
  | nothing => exact ⟨rfl, rfl, rfl⟩
  | asking | sending | unanswered | unsent => cases free

/-- While it is asked for, a task is all that is at hand. -/
theorem of_selecting {t : Task} {callPhase : CallPhase}
    (h : AtHand (.selecting t callPhase) tasks calls refused) :
    tasks = [t] ∧ calls = [] ∧ refused = [] := by
  cases h with
  | nothing free => simp [PlacePhase.isFree] at free
  | asking => exact ⟨rfl, rfl, rfl⟩

/-- While it is sent, a decision is all that is at hand. -/
theorem of_sending {s : Sender} (h : AtHand (.sending s) tasks calls refused) :
    ∃ call : Task × CallResult, call.2 ≠ .failed .closed ∧
      (PlacePhase.sending s).unsent = [decisionFor call] ∧
      tasks = [call.1] ∧ calls = [call] ∧ refused = [] := by
  cases h with
  | nothing free => simp [PlacePhase.isFree] at free
  | sending opened own => exact ⟨_, opened, own, rfl, rfl, rfl⟩

/-- There is a call-out for the task at hand, under way or returned. -/
theorem called (h : AtHand phase tasks calls refused) :
    calls.map Prod.fst ++ phase.asking = tasks := by
  cases h with
  | nothing free => exact (PlacePhase.empty_of_isFree free).asking
  | asking | sending | unanswered | unsent => rfl

/-- At hand is one task at most. -/
theorem length_le (h : AtHand phase tasks calls refused) : tasks.length ≤ 1 := by
  cases h <;> simp

/-- When the loop has ended, a task at hand is lost to a closed call-out or a closed send. -/
theorem lost (h : AtHand .finished tasks calls refused) (one : tasks.length = 1) :
    ∃ call : Task × CallResult, tasks = [call.1] ∧ calls = [call] ∧
      (call.2 = .failed .closed ∧ refused = [] ∨
        call.2 ≠ .failed .closed ∧ refused = [decisionFor call]) := by
  cases h with
  | nothing => cases one
  | @unanswered t => exact ⟨(t, .failed .closed), rfl, rfl, .inl ⟨rfl, rfl⟩⟩
  | unsent opened => exact ⟨_, rfl, rfl, .inr ⟨opened, rfl⟩⟩

/-- A closed call-out or a closed send has ended the loop. -/
theorem ends (h : AtHand phase tasks calls refused)
    (closed : (∃ call ∈ calls, call.2 = .failed .closed) ∨ refused ≠ []) : phase = .finished := by
  cases h with
  | nothing | asking => simp at closed
  | sending opened => simp [opened] at closed
  | unanswered | unsent => rfl

end AtHand

/-- The history of a run: `done` are the call-outs whose tasks were placed. -/
structure Ledger (r : LoopRun) (done : List (Task × CallResult)) (tasks : List Task)
    (calls : List (Task × CallResult)) : Prop where
  opened : ∀ call ∈ done, call.2 ≠ .failed .closed
  placed : r.loop.placed = done.length
  taken : r.taken = done.map Prod.fst ++ tasks
  asked : r.asked = done ++ calls
  accepted : r.accepted = done.map decisionFor
  atHand : AtHand r.loop.phase tasks calls r.refused

/-- A call-out that finds the handle closed ends the loop. -/
theorem finished_of_closed {k : Kernel} {h : Handle} {p : PlacementLoop} {call : Task × CallResult}
    (answered : call ∈ p.answers k h) (closed : call.2 = .failed .closed) :
    (p.step k h).2.2.phase = .finished := by
  unfold PlacementLoop.answers at answered
  split at answered
  · next t phase here =>
    simp only [PlacementLoop.step, here]
    generalize Call.step h.closed k h.invoker { request := .select t, phase } = out at answered ⊢
    obtain ⟨k', invoker, c⟩ := out
    rcases ended : c.phase with _ | _ | _ | _ | _ | _ | _ | _ | r
    case returned =>
      simp only [Call.result?, ended, List.mem_singleton] at answered
      subst answered
      subst closed
      simp only [PlacementLoop.afterCall, ended]
      rfl
    all_goals simp [Call.result?, ended] at answered
  · cases answered

namespace Ledger

variable {r : LoopRun} {done calls answers : List (Task × CallResult)} {tasks : List Task}
  {k' : Kernel} {h' : Handle} {p' : PlacementLoop}

/-- A move that leaves the two queues as they are. -/
theorem still (ledger : Ledger r done tasks calls)
    (queued : h'.queued.queue = r.handle.queued.queue)
    (dispatch : h'.dispatch.queue = r.handle.dispatch.queue) (placed : p'.placed = r.loop.placed)
    (atHand : AtHand p'.phase tasks (calls ++ answers) (r.refused ++ turnedAway r.loop p')) :
    Ledger (r.after answers k' h' p') done tasks (calls ++ answers) where
  opened := ledger.opened
  placed := placed.trans ledger.placed
  taken := by simp [after, queued, ledger.taken]
  asked := by simp [after, ledger.asked]
  accepted := by simp [after, dispatch, ledger.accepted]
  atHand := atHand

/-- A move that leaves the two queues as they are and turns no decision away. -/
theorem quiet (ledger : Ledger r done tasks calls)
    (queued : h'.queued.queue = r.handle.queued.queue)
    (dispatch : h'.dispatch.queue = r.handle.dispatch.queue) (placed : p'.placed = r.loop.placed)
    (kept : turnedAway r.loop p' = [])
    (atHand : AtHand p'.phase tasks (calls ++ answers) r.refused) :
    Ledger (r.after answers k' h' p') done tasks (calls ++ answers) :=
  ledger.still queued dispatch placed (by rwa [kept, List.append_nil])

/-- A task is received. -/
theorem take (ledger : Ledger r done [] []) {t : Task} {rest : List Task}
    (here : r.loop.phase = .receiving) (front : r.handle.queued.queue = t :: rest) :
    Ledger (r.after [] r.kernel { r.handle with queued := { r.handle.queued with queue := rest } }
      { r.loop with phase := .selecting t .entering }) done [t] [] where
  opened := ledger.opened
  placed := ledger.placed
  taken := by simp [after, front, ledger.taken]
  asked := by simp [after, ledger.asked]
  accepted := by simp [after, ledger.accepted]
  atHand := by
    obtain ⟨-, -, none⟩ := ledger.atHand.of_isFree (by rw [here]; rfl)
    simp only [after, none, turnedAway]
    exact .asking

/-- The decision at hand enters the dispatch queue. -/
theorem join {call : Task × CallResult} (ledger : Ledger r done [call.1] [call])
    (opened : call.2 ≠ .failed .closed) (none : r.refused = []) {dispatch : DispatchStream}
    (entered : dispatch.queue = r.handle.dispatch.queue ++ [decisionFor call]) :
    Ledger (r.after [] r.kernel { r.handle with dispatch }
      { phase := .idle, placed := r.loop.placed + 1 }) (done ++ [call]) [] [] where
  opened := by
    simp only [List.mem_append, List.mem_singleton]
    rintro other (before | rfl)
    · exact ledger.opened other before
    · exact opened
  placed := by simp [after, ledger.placed]
  taken := by simp [after, ledger.taken]
  asked := by simp [after, ledger.asked]
  accepted := by simp [after, entered, ledger.accepted]
  atHand := by
    simp only [after, none, turnedAway]
    exact .nothing (.inl rfl)

/-- A step of the loop's send. -/
theorem send (ledger : Ledger r done tasks calls) {s s' : Sender} {dispatch : DispatchStream}
    (here : r.loop.phase = .sending s) (move : SendMove r.handle.dispatch s dispatch s') :
    ∃ done tasks calls, Ledger
      (r.after [] r.kernel { r.handle with dispatch } (r.loop.afterSend s')) done tasks calls := by
  have atHand := ledger.atHand
  rw [here] at atHand
  obtain ⟨call, opened, own, rfl, rfl, none⟩ := atHand.of_sending
  cases move with
  | enter | kept | timeOut =>
    -- the decision stays at hand
    refine ⟨done, _, _, ledger.quiet rfl rfl rfl (turnedAway_of_running (by nofun) _) ?_⟩
    rw [none]
    exact .sending opened own
  | turnedAway | lost =>
    -- the decision is given up, and the loop ends
    have given : turnedAway r.loop (r.loop.afterSend (.returned false)) = [decisionFor call] := by
      rw [← own, ← here]
      rfl
    refine ⟨done, _, _, ledger.still rfl rfl rfl ?_⟩
    rw [none, given]
    exact .unsent opened
  | join =>
    cases own
    exact ⟨_, _, _, ledger.join opened none rfl⟩
  | done => cases own

/-- **Each move of the loop keeps the ledger.** -/
theorem move (ledger : Ledger r done tasks calls)
    (move : PlacementLoop.PlaceMove r.kernel r.handle r.loop answers k' h' p')
    (closes : ∀ call ∈ answers, call.2 = .failed .closed → p'.phase = .finished) :
    ∃ done tasks calls, Ledger (r.after answers k' h' p') done tasks calls := by
  have atHand := ledger.atHand
  -- all moves but a send leave the accepted decisions alone (`quiet`); what is at hand is read off
  -- the place where the loop stands
  cases move with
  | look here there =>
    obtain ⟨rfl, rfl, none⟩ := atHand.of_isFree here
    have unsent := (PlacePhase.empty_of_isFree (.inl here)).unsent
    refine ⟨done, [], [], ledger.quiet rfl rfl rfl (turnedAway_of_unsent unsent _) ?_⟩
    rw [none]
    exact .nothing there
  | readExit here front =>
    have unsent : r.loop.phase.unsent = [] := by
      rw [here]
      rfl
    refine ⟨done, tasks, calls ++ [], ledger.quiet rfl rfl rfl (turnedAway_of_unsent unsent _) ?_⟩
    rwa [List.append_nil]
  | take here front =>
    obtain ⟨rfl, rfl, -⟩ := atHand.of_isFree (by rw [here]; rfl)
    exact ⟨done, _, _, ledger.take here front⟩
  | ask here keeps =>
    rw [here] at atHand
    obtain ⟨rfl, rfl, none⟩ := atHand.of_selecting
    refine ⟨done, _, [], ledger.quiet rfl rfl rfl (turnedAway_of_running (by nofun) _) ?_⟩
    rw [none]
    exact .asking
  | @place t phase result _ _ here keeps =>
    rw [here] at atHand
    obtain ⟨rfl, rfl, none⟩ := atHand.of_selecting
    refine ⟨done, [t], [(t, result)],
      ledger.quiet rfl rfl rfl (turnedAway_of_running (by nofun) _) ?_⟩
    have opened : result ≠ .failed .closed := fun closed =>
      nomatch closes (t, result) (by simp) closed
    rw [none]
    exact @AtHand.sending (t, result) _ opened rfl
  | giveUp here keeps =>
    have unsent : r.loop.phase.unsent = [] := by
      rw [here]
      rfl
    rw [here] at atHand
    obtain ⟨rfl, rfl, none⟩ := atHand.of_selecting
    refine ⟨done, _, [_], ledger.quiet rfl rfl rfl (turnedAway_of_unsent unsent _) ?_⟩
    rw [none]
    exact .unanswered
  | send here move => exact ledger.send here move
  | rest ended =>
    have unsent := (PlacePhase.empty_of_isFree (.inr ended)).unsent
    refine ⟨done, tasks, calls ++ [], ledger.quiet rfl rfl rfl (turnedAway_of_unsent unsent _) ?_⟩
    rwa [List.append_nil]

/-- Each step takes what is at hand further, or nothing is lost but that. -/
theorem step (ledger : Ledger r done tasks calls) (a : Action) :
    ∃ done tasks calls, Ledger (r.step a) done tasks calls := by
  cases a with
  | place =>
    exact ledger.move (r.loop.step_move r.kernel r.handle) fun _ => finished_of_closed
  | meanwhile kernel handle => exact ⟨done, tasks, calls, { ledger with }⟩

end Ledger

/-- **Every run keeps a ledger.** -/
theorem ledger_run (k : Kernel) (h : Handle) (actions : List Action) :
    ∃ done tasks calls, Ledger (run { kernel := k, handle := h } actions) done tasks calls :=
  List.foldlRecOn (motive := fun r => ∃ done tasks calls, Ledger r done tasks calls) actions step
    ⟨[], [], [], by simp, rfl, rfl, rfl, rfl, .nothing (.inl rfl)⟩
    fun _ ⟨_, _, _, ledger⟩ a _ => ledger.step a

/-! ### At most one -/

/-- What a loop has done with the tasks it has taken.  `r.loop.placed` is the number it returns. -/
structure LosesAtMostOne (r : LoopRun) : Prop where
  /-- There is one call-out for each task, in their order; that for the last may be under way. -/
  called : r.asked.map Prod.fst ++ r.loop.phase.asking = r.taken
  returned : r.loop.placed = r.accepted.length
  /-- What was accepted are the decisions of the first tasks, in their order. -/
  accepted : r.accepted = (r.asked.take r.loop.placed).map fun call =>
    ⟨Task.encode ⟨call.1.pid, call.2.choice.toKernel, call.1.flags⟩⟩
  first : (r.asked.take r.loop.placed).map Prod.fst = r.taken.take r.loop.placed
  opened : ∀ call ∈ r.asked.take r.loop.placed, call.2 ≠ .failed .closed
  atMostOne : r.taken.length = r.loop.placed ∨ r.taken.length = r.loop.placed + 1
  /-- If the loop has ended without the last task placed, the call-out for it or the send of its
  decision came back closed. -/
  lost : r.loop.isFinished = true → r.taken.length = r.loop.placed + 1 →
    ∃ call, r.asked = r.asked.take r.loop.placed ++ [call] ∧ r.taken.getLast? = some call.1 ∧
      (call.2 = .failed .closed ∧ r.refused = [] ∨
        call.2 ≠ .failed .closed ∧ r.refused = [decisionFor call])
  /-- Either of them ends the loop. -/
  ends : (∃ call ∈ r.asked, call.2 = .failed .closed) ∨ r.refused ≠ [] → r.loop.isFinished = true

theorem finished_of_isFinished {p : PlacementLoop} (ended : p.isFinished = true) :
    p.phase = .finished := by
  unfold PlacementLoop.isFinished at ended
  split at ended
  · assumption
  · cases ended

/-- A loop has lost what is at hand at its end, and no more. -/
theorem Ledger.losesAtMostOne {r : LoopRun} {done calls : List (Task × CallResult)}
    {tasks : List Task} (ledger : Ledger r done tasks calls) : LosesAtMostOne r := by
  obtain ⟨opened, placed, taken, asked, accepted, atHand⟩ := ledger
  have first : r.asked.take r.loop.placed = done := by
    rw [asked, placed, List.take_left]
  have count : r.taken.length = r.loop.placed + tasks.length := by
    rw [taken, placed, List.length_append, List.length_map]
  refine
    { called := ?_, returned := ?_, accepted := ?_, first := ?_, opened := ?_, atMostOne := ?_
      lost := fun ended one => ?_, ends := fun closed => ?_ }
  · rw [asked, List.map_append, List.append_assoc, atHand.called, taken]
  · rw [accepted, List.length_map, placed]
  · rw [first, accepted]
    rfl
  · rw [first, taken, placed, ← List.length_map (f := Prod.fst), List.take_left]
  · rwa [first]
  · have atMost := atHand.length_le
    omega
  · rw [finished_of_isFinished ended] at atHand
    obtain ⟨call, rfl, rfl, cause⟩ := atHand.lost (by omega)
    refine ⟨call, by rw [first, asked], ?_, cause⟩
    rw [taken, List.getLast?_concat]
  · -- a call that found the handle closed was not followed by a send, so it is the last one
    have ended : r.loop.phase = .finished := by
      refine atHand.ends (closed.imp_left ?_)
      rintro ⟨call, mem, closed⟩
      rw [asked, List.mem_append] at mem
      rcases mem with before | last
      · exact absurd closed (opened call before)
      · exact ⟨call, last, closed⟩
    simp [PlacementLoop.isFinished, ended]

/-- **The placement loop loses at most one task**, whatever happens between two of its steps: it
makes one call-out for each task it has taken, the dispatch queue accepts the decisions of the
first of them, as many as the loop returns, and a task beyond these is the last one, lost to a
handle that was closed. -/
theorem loses_at_most_one (k : Kernel) (h : Handle) (actions : List Action) :
    LosesAtMostOne (run { kernel := k, handle := h } actions) := by
  obtain ⟨_, _, _, ledger⟩ := ledger_run k h actions
  exact ledger.losesAtMostOne

/-- Two tasks wait for a loop whose dispatch queue has room for one decision. -/
def twoWaiting : LoopRun where
  kernel := PlacementRun.narrowLoad.kernel
  handle :=
    { PlacementRun.narrowLoad.handle with
      queued := { PlacementRun.narrowLoad.handle.queued with queue := [⟨1, 3, 7⟩, ⟨2, 5, 8⟩] } }

/-- The first task is placed, and the decision for the second waits for room when the handle is
closed. -/
def closedWhileFull : List Action :=
  let full := run twoWaiting (List.replicate 22 .place)
  List.replicate 22 .place ++
    [.meanwhile full.kernel
        { full.handle.beginClose with dispatch := full.handle.dispatch.closeStep.closeStep },
      .place]

/-- The gate closes on the decision of the first task, and the second is never received. -/
theorem loses_at_most_one_closedWhileFull :
    let r := run twoWaiting closedWhileFull
    r.taken = [⟨1, 3, 7⟩, ⟨2, 5, 8⟩] ∧ r.accepted = [Decision.forTask 1 3 7] ∧
      r.loop.placed = 1 ∧ r.loop.isFinished = true ∧ r.refused = [Decision.forTask 2 5 8] ∧
      LosesAtMostOne r := by
  refine ⟨by decide +kernel, by decide +kernel, by decide +kernel, by decide +kernel,
    by decide +kernel, ?_⟩
  exact loses_at_most_one PlacementRun.narrowLoad.kernel twoWaiting.handle closedWhileFull

end LoopRun

/-! ### Runs of a deployment -/

namespace PlacementRun

variable {r : PlacementRun} {s : LoopRun}

/-- Only its own steps change the loop and its call-outs. -/
theorem loop_step_of_ne {a : Action} (other : a ≠ .thread .place) :
    (r.step a).deployment.loop = r.deployment.loop ∧ (r.step a).asked = r.asked := by
  cases a with
  | thread a =>
    cases a with
    | place => exact absurd rfl other
    | call n =>
      simp only [step, answers, List.append_nil, Deployment.step, and_true]
      split <;> rfl
    | teardown | pollExits | pollQueued | dispatch => exact ⟨rfl, List.append_nil _⟩
  | consume =>
    simp only [step]
    split <;> exact ⟨rfl, rfl⟩
  | offer | emitExit | setSubprogram | beginCall | attach | close => exact ⟨rfl, rfl⟩

/-- A run of a deployment is a run of its loop. -/
structure Follows (r : PlacementRun) (s : LoopRun) : Prop where
  loop : r.deployment.loop = some s.loop
  kernel : r.deployment.kernel = s.kernel
  handle : r.deployment.handle = s.handle
  asked : r.asked = s.asked

/-- Every action of a deployment is a move of its loop or of the rest of the world. -/
theorem Follows.step (follows : Follows r s) (a : Action) :
    ∃ move, Follows (r.step a) (s.step move) := by
  obtain ⟨loop, kernel, handle, asked⟩ := follows
  by_cases own : a = .thread .place
  · subst own
    refine ⟨.place, ?_⟩
    simp only [PlacementRun.step, LoopRun.step, LoopRun.after, answers, Deployment.step, loop,
      Option.map_some, Option.getD_some]
    rw [← kernel, ← handle, ← asked]
    exact ⟨rfl, rfl, rfl, rfl⟩
  · obtain ⟨sameLoop, sameAsked⟩ := loop_step_of_ne (r := r) own
    exact ⟨.meanwhile (r.step a).deployment.kernel (r.step a).deployment.handle,
      sameLoop.trans loop, rfl, rfl, sameAsked.trans asked⟩

/-- Every run of a deployment, whatever faults its kernel has, is a run of its loop in a world
that moves on between the loop's steps. -/
theorem followed_run (h : Handle) (k : Kernel) (actions : List Action) :
    ∃ moves, Follows ((serving h k).run actions)
      (LoopRun.run { kernel := k, handle := h } moves) := by
  refine List.foldlRecOn
    (motive := fun r => ∃ moves, Follows r (LoopRun.run { kernel := k, handle := h } moves))
    actions PlacementRun.step ⟨[], rfl, rfl, rfl, rfl⟩ ?_
  rintro r ⟨moves, follows⟩ a -
  obtain ⟨move, next⟩ := follows.step a
  refine ⟨moves ++ [move], ?_⟩
  rwa [LoopRun.run, List.foldl_append]

end PlacementRun

end SchedPlane
