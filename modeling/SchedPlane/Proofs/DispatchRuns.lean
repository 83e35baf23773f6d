/-
SchedPlane/Proofs/DispatchRuns.lean

Runs of a dispatch stream on a kernel ring.

A run starts with a stream on the ring of a map and lets everybody who has a part in it act in
any order.  Clients, each a thread with a sending end of its own, send decisions one after the
other and wait for room or do not; the flush thread steps; the kernel consumes; submitting some
records fails, and which ones may change; somebody closes the stream.  The run remembers what
the calls of every client were answered, which decisions entered the queue and in which order,
which of them could not be submitted, and what the kernel has taken.

The invariant is `Trail`: the entries that are settled come first, those on their way are
exactly what the flush thread holds and what is queued, and what went to the ring are the
records of the settled entries that did not fail.

Main result, `dispatch_integrity`: before the stop flag is set nothing is missing on the way from
the clients to the kernel and nothing is out of order; after it what reached the ring is a
beginning of that.  A decision that was refused or turned away never entered the queue.
-/
import SchedPlane.Proofs.DispatchFlow

namespace SchedPlane

open DispatchStream

/-! ### Entries -/

/-- A decision that entered the queue. -/
structure Entry where
  /-- The client that sent it. -/
  client : Nat
  decision : Decision
  /-- Whether submitting it has failed. -/
  failed : Bool := false
  deriving DecidableEq, Repr

namespace Entry

/-- The entries that could be submitted, or may still be. -/
def surviving (es : List Entry) : List Entry :=
  es.filter fun e => !e.failed

/-- The records of the surviving entries. -/
def records (es : List Entry) : List Bytes :=
  (surviving es).map fun e => e.decision.bytes

/-- The decisions of a client, in the order in which they entered the queue. -/
def sentBy (client : Nat) (es : List Entry) : List Decision :=
  (es.filter fun e => e.client = client).map Entry.decision

/-- The entries after submitting the one of a number has failed. -/
def fail (es : List Entry) (n : Nat) : List Entry :=
  es.modify n fun e => { e with failed := true }

theorem records_append (es es' : List Entry) : records (es ++ es') = records es ++ records es' := by
  simp [records, surviving]

theorem records_of_unfailed {es : List Entry} (h : ∀ e ∈ es, e.failed = false) :
    records es = es.map fun e => e.decision.bytes := by
  have all : surviving es = es := List.filter_eq_self.mpr fun e mem => by simp [h e mem]
  rw [records, all]

theorem sentBy_append (client : Nat) (es es' : List Entry) :
    sentBy client (es ++ es') = sentBy client es ++ sentBy client es' := by
  simp [sentBy]

/-- The entry of a number that fails stands behind so many others. -/
theorem fail_append (es : List Entry) (e : Entry) (rest : List Entry) :
    fail (es ++ e :: rest) es.length = es ++ { e with failed := true } :: rest := by
  have bound : es.length < (es ++ e :: rest).length := by simp
  rw [fail, List.modify_eq_take_cons_drop bound]
  simp

/-- A failure does not touch who sent what. -/
theorem sentBy_fail (client : Nat) (es : List Entry) (n : Nat) :
    sentBy client (fail es n) = sentBy client es := by
  by_cases bound : n < es.length
  · obtain ⟨before, e, after, rfl, rfl⟩ : ∃ before e after, es = before ++ e :: after ∧
        before.length = n := by
      refine ⟨es.take n, es[n], es.drop (n + 1), ?_, ?_⟩
      · rw [List.getElem_cons_drop, List.take_append_drop]
      · rw [List.length_take]
        omega
    rw [fail_append, sentBy_append, sentBy_append]
    simp [sentBy, List.filter_cons]
    split <;> rfl
  · rw [fail, List.modify_eq_self (by omega)]

end Entry

open Entry

namespace DispatchStream

variable {s s' : DispatchStream} {answer : Kernel.SubmitAnswer}

/-! ### The trail of the entries -/

/-- The entries after the next step of the flush thread.  If the step is a submission that fails,
the entry is the last one the thread has received. -/
def noteFailure (s : DispatchStream) (answer : Kernel.SubmitAnswer) (entered : List Entry) :
    List Entry :=
  match s.phase, answer with
  | .publishing _, .failed _ => fail entered (s.counters.received - 1)
  | _, _ => entered

/-- Whether a submission failed does not matter to who has sent it. -/
theorem sentBy_noteFailure (client : Nat) (s : DispatchStream) (answer : Kernel.SubmitAnswer)
    (entered : List Entry) :
    sentBy client (s.noteFailure answer entered) = sentBy client entered := by
  unfold noteFailure
  split
  · exact sentBy_fail client entered _
  · rfl

/-- Where the entries are: `published` are the records that went to the ring. -/
structure Trail (published : List Bytes) (entered : List Entry) (s : DispatchStream) : Prop where
  /-- Unless the flush thread leaves, every entry is settled or on its way. -/
  whole : (s.stop && s.phase.leaves) = false → ∃ settled pending : List Entry,
    entered = settled ++ pending ∧ published = records settled ∧
      pending.map Entry.decision = s.pipeline ∧ (∀ e ∈ pending, e.failed = false) ∧
      settled.length + s.phase.held.length = s.counters.received
  kept : published <+: records entered

namespace Trail

variable {published : List Bytes} {entered : List Entry}

theorem fresh (name map : String) (capacity : Nat) : Trail [] [] { name, map, capacity } :=
  ⟨fun _ => ⟨[], [], rfl, rfl, rfl, by simp, rfl⟩, List.prefix_rfl⟩

/-- A step that settles nothing: what is on its way stays so, in order. -/
theorem carry (h : Trail published entered s) (pipeline : s'.pipeline = s.pipeline)
    (count : ∀ n, n + s.phase.held.length = s.counters.received →
      n + s'.phase.held.length = s'.counters.received)
    (stays : (s'.stop && s'.phase.leaves) = false → (s.stop && s.phase.leaves) = false) :
    Trail published entered s' := by
  refine ⟨fun staying => ?_, h.kept⟩
  obtain ⟨settled, pending, split, records, way, unfailed, received⟩ := h.whole (stays staying)
  exact ⟨settled, pending, split, records, way.trans pipeline.symm, unfailed, count _ received⟩

/-- Once the flush thread leaves, only what was published counts. -/
theorem leave (h : Trail published entered s) (stopped : s'.stop = true)
    (leaves : s'.phase.leaves = true) : Trail published entered s' :=
  ⟨fun stays => by simp [stopped, leaves] at stays, h.kept⟩

/-- The entry of the held decision, between the settled ones and those of the queue. -/
theorem held_entry {d : Decision} (h : Trail published entered s)
    (stays : s.phase.leaves = false) (held : s.phase.held = [d]) :
    ∃ settled e pending, entered = settled ++ e :: pending ∧ published = records settled ∧
      e.decision = d ∧ e.failed = false ∧ pending.map Entry.decision = s.queue ∧
      (∀ e ∈ pending, e.failed = false) ∧ settled.length + 1 = s.counters.received := by
  obtain ⟨settled, pending, split, records, way, unfailed, received⟩ :=
    h.whole (by simp [stays])
  rw [pipeline, held, List.singleton_append] at way
  obtain ⟨e, rest, rfl, decision, queue⟩ := List.map_eq_cons_iff.mp way
  rw [held, List.length_singleton] at received
  exact ⟨settled, e, rest, split, records, decision, unfailed e (by simp), queue,
    fun e' mem => unfailed e' (by simp [mem]), received⟩

/-- The held decision goes to the ring. -/
theorem publish {d : Decision} (h : Trail published entered s) (here : s.phase = .publishing d) :
    Trail (published ++ [d.bytes]) entered (s.answered d .published) := by
  obtain ⟨settled, e, pending, rfl, rfl, rfl, good, queue, unfailed, received⟩ :=
    h.held_entry (by rw [here]; rfl) (by rw [here]; rfl)
  have one : records [e] = [e.decision.bytes] := records_of_unfailed (by simpa using good)
  have more : records settled ++ [e.decision.bytes] = records (settled ++ [e]) := by
    rw [records_append, one]
  have split : settled ++ e :: pending = settled ++ [e] ++ pending := by simp
  refine ⟨fun _ => ⟨settled ++ [e], pending, split, more, queue, unfailed, ?_⟩, ?_⟩
  · simp only [answered, FlushPhase.held, List.length_append, List.length_singleton,
      List.length_nil]
    omega
  · rw [more, split, records_append (settled ++ [e])]
    exact List.prefix_append _ _

/-- Submitting the held decision fails: its entry is settled, and no record comes of it. -/
theorem fail {d : Decision} {e : ObjectError} (h : Trail published entered s)
    (here : s.phase = .publishing d) :
    Trail published (s.noteFailure (.failed e) entered) (s.answered d (.failed e)) := by
  obtain ⟨settled, e, pending, rfl, rfl, rfl, -, queue, unfailed, received⟩ :=
    h.held_entry (by rw [here]; rfl) (by rw [here]; rfl)
  have last : s.counters.received - 1 = settled.length := by omega
  have none : records [{ e with failed := true }] = [] := rfl
  have split : settled ++ { e with failed := true } :: pending =
      settled ++ [{ e with failed := true }] ++ pending := by simp
  simp only [noteFailure, here, last, fail_append]
  refine ⟨fun _ => ⟨settled ++ [{ e with failed := true }], pending, split, ?_, queue, unfailed,
    ?_⟩, ?_⟩
  · rw [records_append, none, List.append_nil]
  · simp only [answered, FlushPhase.held, List.length_append, List.length_singleton,
      List.length_nil]
    omega
  · rw [records_append]
    exact List.prefix_append _ _

/-- **A step of the flush thread** keeps the trail, unless a submission panics. -/
theorem flush (h : Trail published entered s) (move : FlushMove answer s s')
    (calm : answer ≠ .panicked) (draining : s.phase = .draining → s.stop = true) :
    Trail (published ++ (s.publishes answer).map Decision.bytes) (s.noteFailure answer entered)
      s' := by
  cases move with
  | look here running =>
    simp only [publishes, noteFailure, here, List.map_nil, List.append_nil]
    refine h.carry (by simp [pipeline, here, FlushPhase.held]) (fun n => ?_) (by simp [running])
    simp [here, FlushPhase.held]
  | leave here stopped =>
    simp only [publishes, noteFailure, here, List.map_nil, List.append_nil]
    exact h.leave stopped rfl
  | miss here =>
    simp only [publishes, noteFailure, here, List.map_nil, List.append_nil]
    refine h.carry (by simp [pipeline, here, FlushPhase.held]) (fun n => ?_) (fun _ => ?_)
    · simp [here, FlushPhase.held]
    · simp [here, FlushPhase.leaves]
  | take here front =>
    -- one decision more is received, and held
    simp only [publishes, noteFailure, here, List.map_nil, List.append_nil]
    refine h.carry (by simp [pipeline, here, front, FlushPhase.held]) (fun n => ?_) (fun _ => ?_)
    · simp [here, FlushPhase.held]
    · simp [here, FlushPhase.leaves]
  | submit here =>
    cases answer with
    | published =>
      simp only [publishes, noteFailure, here, List.map_cons, List.map_nil]
      exact h.publish here
    | full =>
      simp only [publishes, noteFailure, here, List.map_nil, List.append_nil]
      refine h.carry (by simp [pipeline, here, answered, FlushPhase.held]) (fun n => ?_)
        (fun _ => ?_)
      · simp [here, answered, FlushPhase.held]
      · simp [here, FlushPhase.leaves]
    | failed e =>
      simp only [publishes, here, List.map_nil, List.append_nil]
      exact h.fail here
    | panicked => exact absurd rfl calm
  | retry here =>
    simp only [publishes, noteFailure, here, List.map_nil, List.append_nil]
    refine h.carry (by simp [pipeline, here, FlushPhase.held]) (fun n => ?_) (fun _ => ?_)
    · simp [here, FlushPhase.held]
    · simp [here, FlushPhase.leaves]
  | giveUp here stopped =>
    simp only [publishes, noteFailure, here, List.map_nil, List.append_nil]
    exact h.leave stopped rfl
  | drain here =>
    simp only [publishes, noteFailure, here, List.map_nil, List.append_nil]
    exact h.leave (draining here) rfl
  | rest ended =>
    rcases phase_of_isFinished ended with here | here <;>
      simpa [publishes, noteFailure, here] using h

/-- Decisions of a client enter the queue. -/
theorem join (h : Trail published entered s) (client : Nat) (ds : List Decision) (inside : Nat) :
    Trail published (entered ++ ds.map fun d => { client, decision := d })
      { s with inside, queue := s.queue ++ ds } := by
  refine ⟨fun stays => ?_, ?_⟩
  · obtain ⟨settled, pending, rfl, records, way, unfailed, received⟩ := h.whole stays
    refine ⟨settled, pending ++ ds.map fun d => { client, decision := d }, by simp, records, ?_, ?_,
      received⟩
    · rw [List.map_append, way, List.map_map]
      simp [pipeline, Function.comp_def]
    · intro e mem
      rcases List.mem_append.mp mem with old | new
      · exact unfailed e old
      · obtain ⟨d, -, rfl⟩ := List.mem_map.mp new
        rfl
  · rw [records_append]
    exact h.kept.trans (List.prefix_append _ _)

theorem close (h : Trail published entered s) : Trail published entered s.closeStep := by
  have whole := h.whole
  rw [closeStep_frame]
  refine ⟨fun stays => whole ?_, h.kept⟩
  simp only [Bool.and_eq_false_iff] at stays ⊢
  rcases stays with running | staying
  · rcases s.closeStep_move.stop_cases with same | ⟨-, set⟩
    · exact .inl (same.symm.trans running)
    · cases running.symm.trans set
  · exact .inr staying

end Trail

end DispatchStream

/-! ### Clients -/

/-- The decision that a blocking send has at hand. -/
def DispatchStream.Sender.offer? : Sender → Option Decision
  | .atGate d | .inside d => some d
  | .returned _ => none

/-- A thread that sends decisions one after the other. -/
structure Client where
  /-- The blocking send under way. -/
  sending : Option Sender := none
  /-- The calls that have returned and what they were answered, oldest first. -/
  calls : List (Decision × SendAnswer) := []
  deriving DecidableEq, Repr

namespace Client

/-- The decisions that were accepted, in the order in which they were sent. -/
def accepted (c : Client) : List Decision :=
  (c.calls.filter fun call => call.2 = .accepted).map Prod.fst

/-- A call has returned. -/
def answered (c : Client) (d : Decision) (a : SendAnswer) : Client where
  calls := c.calls ++ [(d, a)]

/-- The blocking send under way gets from one place to another. -/
def move (c : Client) (p p' : Sender) : Client :=
  match p.offer?, p' with
  | some d, .returned told => c.answered d (if told then .accepted else .closed)
  | _, p' => { c with sending := some p' }

/-- A client that makes no call or has a decision at hand, and that got back what it sent. -/
structure Tidy (c : Client) : Prop where
  busy : ∀ p, c.sending = some p → p.offer?.isSome = true
  refused : ∀ call ∈ c.calls, ∀ d, call.2 = .refused d → d = call.1

variable {c : Client} {s s' : DispatchStream} {p p' : Sender} {d : Decision} {a : SendAnswer}

theorem accepted_answered (c : Client) (d : Decision) (a : SendAnswer) :
    (c.answered d a).accepted = c.accepted ++ if a = .accepted then [d] else [] := by
  by_cases h : a = .accepted <;> simp [answered, accepted, h]

/-- A client that was refused a decision has it back. -/
theorem Tidy.answered (h : c.Tidy) (same : ∀ d', a = .refused d' → d' = d) :
    (c.answered d a).Tidy := by
  refine ⟨fun p sending => (by cases sending), fun call mem d' refusal => ?_⟩
  rcases List.mem_append.mp mem with old | new
  · exact h.refused call old d' refusal
  · obtain rfl := List.mem_singleton.mp new
    exact same d' refusal

/-- A send is told that its decision was accepted just when the decision enters the queue. -/
theorem accepted_move (busy : p.offer?.isSome = true) (move : SendMove s p s' p') :
    (c.move p p').accepted = c.accepted ++ joined p p' := by
  cases move with
  | enter | kept | timeOut => simp [Client.move, Sender.offer?, joined, accepted]
  | turnedAway | lost => simp [Client.move, Sender.offer?, joined, accepted_answered]
  | join => simp [Client.move, Sender.offer?, joined, accepted_answered]
  | done => cases busy

/-- A send that goes on keeps the decision that it was given. -/
theorem Tidy.move (h : c.Tidy) (busy : p.offer?.isSome = true) (move : SendMove s p s' p') :
    (c.move p p').Tidy := by
  cases move with
  | enter | kept | timeOut =>
    refine ⟨fun p sending => ?_, h.refused⟩
    cases sending
    rfl
  | turnedAway | lost | join => exact h.answered (by simp)
  | done => cases busy

end Client

/-! ### Runs -/

/-- A run of a dispatch stream on a kernel, with its history. -/
structure DispatchRun where
  kernel : Kernel
  stream : DispatchStream
  /-- The clients by their numbers; any of them may send. -/
  clients : Nat → Client := fun _ => {}
  /-- The decisions that entered the queue, oldest first. -/
  entered : List Entry := []
  /-- The records that the kernel has taken from the ring, oldest first. -/
  consumed : List Bytes := []

namespace DispatchRun

/-- What can happen to a dispatch stream. -/
inductive Action where
  /-- The flush thread takes its next step. -/
  | flush
  /-- From now on submitting just these records fails. -/
  | failSubmits (errors : List (Bytes × ObjectError))
  /-- A client begins to send a decision and is ready to wait. -/
  | beginSend (client : Nat) (d : Decision)
  /-- The blocking send of a client takes its next step. -/
  | send (client : Nat)
  /-- A client sends a decision without waiting. -/
  | trySend (client : Nat) (d : Decision)
  /-- The kernel takes a decision, if there is one. -/
  | consume
  /-- Closing takes its next step. -/
  | close
  deriving DecidableEq, Repr

/-- The run that begins with a stream, when records may wait in its ring already. -/
def starting (k : Kernel) (s : DispatchStream) : DispatchRun where
  kernel := k
  stream := s

/-- The records that wait in the ring. -/
def ring (r : DispatchRun) : List Bytes :=
  r.kernel.waiting r.stream.map

/-- The run with a client replaced. -/
def setClient (r : DispatchRun) (client : Nat) (c : Client) : DispatchRun :=
  { r with clients := fun n => if n = client then c else r.clients n }

/-- The run after an action.  A client makes one call at a time. -/
def step (r : DispatchRun) : Action → DispatchRun
  | .flush =>
    let (kernel, stream) := r.stream.advance r.kernel
    { r with
      kernel, stream
      entered := r.stream.noteFailure (r.stream.submitOn r.kernel).1 r.entered }
  | .failSubmits errors =>
    { r with
      kernel :=
        { r.kernel with faults := { r.kernel.faults with submitErrors := errors } } }
  | .beginSend client d =>
    match (r.clients client).sending with
    | none => r.setClient client { r.clients client with sending := some (.atGate d) }
    | some _ => r
  | .send client =>
    match (r.clients client).sending with
    | none => r
    | some p =>
      let (stream, p') := r.stream.sendStep p
      { r.setClient client ((r.clients client).move p p') with
        stream
        entered := r.entered ++ (joined p p').map fun d => { client, decision := d } }
  | .trySend client d =>
    match (r.clients client).sending with
    | none =>
      let (answer, stream) := r.stream.trySend d
      { r.setClient client ((r.clients client).answered d answer) with
        stream
        entered := if answer = .accepted then r.entered ++ [{ client, decision := d }]
          else r.entered }
    | some _ => r
  | .consume =>
    match r.kernel.takeDispatched with
    | none => r
    | some (b, kernel) =>
      { r with
        kernel
        consumed := if r.stream.map = Contract.dispatched then r.consumed ++ [b] else r.consumed }
  | .close => { r with stream := r.stream.closeStep }

/-- The run after a list of actions. -/
def run (r : DispatchRun) (actions : List Action) : DispatchRun :=
  actions.foldl step r

variable {r : DispatchRun} {leftover : List Bytes}

/-! ### What every step keeps -/

/-- Every accepted decision has left its trail; `leftover` are the records that waited in the
ring when the stream was started. -/
structure Sound (leftover : List Bytes) (r : DispatchRun) : Prop where
  trail : ∃ published, r.consumed ++ r.ring = leftover ++ published ∧
    r.stream.Trail published r.entered
  draining : r.stream.phase = .draining → r.stream.stop = true
  noPanics : r.kernel.faults.submitPanics = []
  tidy : ∀ n, (r.clients n).Tidy
  accepted : ∀ n, (r.clients n).accepted = sentBy n r.entered

/-- A run that begins on a ring with records in it takes these for leftovers. -/
theorem sound_starting {k k' : Kernel} {name map : String} {t : Tuning} {s : DispatchStream}
    (started : DispatchStream.start k name map t = .ok (k', s))
    (noPanics : k.faults.submitPanics = []) : Sound (k.waiting map) (starting k' s) := by
  obtain ⟨keeps, rfl⟩ := DispatchStream.start_eq_ok started
  refine ⟨⟨[], ?_, .fresh name map t.room⟩, fun here => (by cases here), ?_, fun n => ?_,
    fun n => rfl⟩
  · rw [List.append_nil]
    exact keeps.waiting map
  · show k'.faults.submitPanics = []
    rw [keeps.faults]
    exact noPanics
  · exact ⟨fun p sending => (by cases sending), fun call mem => (by cases mem)⟩

/-- A submission moves the decision in hand to the ring, or notes it as failed. -/
theorem Sound.flush (h : Sound leftover r) : Sound leftover (r.step .flush) := by
  obtain ⟨published, reached, trail⟩ := h.trail
  have move := r.stream.advance_move r.kernel
  have calm := submitOn_ne_panicked h.noPanics r.stream
  refine ⟨⟨published ++ (r.stream.publishes (r.stream.submitOn r.kernel).1).map Decision.bytes,
    ?_, trail.flush move calm h.draining⟩, fun here => ?_, ?_, h.tidy, fun n => ?_⟩
  · show r.consumed ++ (r.stream.advance r.kernel).1.waiting (r.stream.advance r.kernel).2.map = _
    rw [move.map_eq, r.stream.waiting_advance r.kernel, ← List.append_assoc, ← List.append_assoc]
    exact congrArg (· ++ _) reached
  · show (r.stream.advance r.kernel).2.stop = true
    rw [move.stop_eq]
    exact move.stop_of_draining h.draining here
  · show (r.stream.advance r.kernel).1.faults.submitPanics = []
    rw [r.stream.faults_advance r.kernel]
    exact h.noPanics
  · show (r.clients n).accepted =
      sentBy n (r.stream.noteFailure (r.stream.submitOn r.kernel).1 r.entered)
    rw [h.accepted n, sentBy_noteFailure]

/-- A client goes on, and decisions of its enter the queue. -/
theorem Sound.enter (h : Sound leftover r) {client : Nat} {c : Client} (tidy : c.Tidy)
    (ds : List Decision) (accepted : c.accepted = (r.clients client).accepted ++ ds)
    (inside : Nat) :
    Sound leftover
      { r.setClient client c with
        stream := { r.stream with inside, queue := r.stream.queue ++ ds }
        entered := r.entered ++ ds.map fun d => { client, decision := d } } := by
  obtain ⟨⟨published, reached, trail⟩, draining, noPanics, others, logs⟩ := h
  refine ⟨⟨published, reached, trail.join client ds inside⟩, draining, noPanics, fun n => ?_,
    fun n => ?_⟩
  · by_cases same : n = client
    · simpa [setClient, same] using tidy
    · simpa [setClient, same] using others n
  · -- only the entries of this client are more
    have sent : sentBy n (ds.map fun d => ({ client, decision := d } : Entry)) =
        if n = client then ds else [] := by
      by_cases same : n = client
      · simp [sentBy, same, List.filter_map, Function.comp_def]
      · simp [sentBy, Ne.symm same, same, List.filter_map, Function.comp_def]
    rw [sentBy_append, ← logs n, sent]
    by_cases same : n = client
    · simp [setClient, same, accepted]
    · simp [setClient, same]

/-- A client goes on, and nothing enters the queue. -/
theorem Sound.turn (h : Sound leftover r) {client : Nat} {c : Client} (tidy : c.Tidy)
    (accepted : c.accepted = (r.clients client).accepted) :
    Sound leftover (r.setClient client c) := by
  have turned := h.enter tidy [] (accepted.trans (List.append_nil _).symm) r.stream.inside
  simp only [List.map_nil, List.append_nil] at turned
  exact turned

/-- A send that joins the queue is noted for its client. -/
theorem Sound.send (h : Sound leftover r) (client : Nat) :
    Sound leftover (r.step (.send client)) := by
  simp only [step]
  split
  · exact h
  · next p sending =>
    have busy := (h.tidy client).busy p sending
    have move := sendStep_move r.stream p
    have sent := h.enter ((h.tidy client).move busy move) _ (Client.accepted_move busy move)
      (r.stream.sendStep p).1.inside
    rw [← move.frame] at sent
    exact sent

/-- A send that does not wait is noted for its client if it is accepted. -/
theorem Sound.trySend (h : Sound leftover r) (client : Nat) (d : Decision) :
    Sound leftover (r.step (.trySend client d)) := by
  have tidy : ((r.clients client).answered d (r.stream.trySend d).1).Tidy :=
    (h.tidy client).answered fun d' refused => eq_of_trySend_refused refused
  simp only [step]
  split
  · rcases r.stream.trySend_cases d with ⟨e, -⟩ | ⟨refused, same⟩
    · rw [e] at tidy ⊢
      simp only [if_true]
      refine h.enter tidy [d] ?_ r.stream.inside
      rw [Client.accepted_answered, if_pos rfl]
    · simp only [same, if_neg refused]
      refine h.turn tidy ?_
      rw [Client.accepted_answered, if_neg refused, List.append_nil]
  · exact h

theorem Sound.consume (h : Sound leftover r) : Sound leftover (r.step .consume) := by
  obtain ⟨⟨published, reached, trail⟩, draining, noPanics, tidy, logs⟩ := h
  simp only [step]
  split
  · exact ⟨⟨published, reached, trail⟩, draining, noPanics, tidy, logs⟩
  · next b kernel taken =>
    obtain ⟨front, faults, apart⟩ := Kernel.waiting_takeDispatched taken
    refine ⟨⟨published, ?_, trail⟩, draining, ?_, tidy, logs⟩
    · rw [← reached]
      by_cases here : r.stream.map = Contract.dispatched
      · -- the record goes from the front of the ring to the kernel
        simp [ring, here, front]
      · simp [ring, here, apart _ (Ne.symm here)]
    · simp only [faults]
      exact noPanics

/-- **Each action keeps the run sound.** -/
theorem Sound.step (h : Sound leftover r) (a : Action) : Sound leftover (r.step a) := by
  cases a with
  | flush => exact h.flush
  | failSubmits errors => exact ⟨h.trail, h.draining, h.noPanics, h.tidy, h.accepted⟩
  | beginSend client d =>
    simp only [DispatchRun.step]
    split
    · refine h.turn ⟨fun p sending => ?_, (h.tidy client).refused⟩ rfl
      cases sending
      rfl
    · exact h
  | send client => exact h.send client
  | trySend client d => exact h.trySend client d
  | consume => exact h.consume
  | close =>
    obtain ⟨⟨published, reached, trail⟩, draining, noPanics, tidy, logs⟩ := h
    refine ⟨⟨published, ?_, trail.close⟩, fun here => ?_, noPanics, tidy, logs⟩
    · show r.consumed ++ r.kernel.waiting r.stream.closeStep.map = _
      rw [map_closeStep]
      exact reached
    · have before : r.stream.phase = .draining := (phase_closeStep r.stream).symm.trans here
      exact stop_closeStep (draining before)

/-- After any actions every decision is where its client and its order say. -/
theorem Sound.run (h : Sound leftover r) (actions : List Action) :
    Sound leftover (r.run actions) :=
  List.foldlRecOn actions DispatchRun.step h fun _ ih a _ => ih.step a

/-! ### Integrity -/

/-- What holds of the way from the clients to the kernel; `leftover` are the records that waited
in the ring when the stream was started. -/
structure Integrity (leftover : List Bytes) (r : DispatchRun) : Prop where
  /-- Before the stop flag is set nothing is missing and nothing is out of order. -/
  whole : r.stream.stop = false →
    r.consumed ++ r.ring ++ (r.stream.phase.held ++ r.stream.queue).map Decision.bytes =
      leftover ++ records r.entered
  /-- At any time the first surviving entries have reached the ring, each once and as it was
  sent, and those of each client in the order in which it sent them. -/
  reached : ∃ published : List Entry, published <+: surviving r.entered ∧
    r.consumed ++ r.ring = leftover ++ published.map (fun e => e.decision.bytes) ∧
    ∀ n, (sentBy n published).Sublist (r.clients n).accepted
  /-- Just the decisions of accepted calls enter the queue, in the order of each client. -/
  entered : ∀ n, sentBy n r.entered = (r.clients n).accepted
  /-- A refused decision comes back as it was. -/
  refused : ∀ n, ∀ call ∈ (r.clients n).calls, ∀ d, call.2 = .refused d → d = call.1
  /-- What the flush thread holds is the entry it received last: the one a failure marks. -/
  held : ∀ d, r.stream.phase.held = [d] →
    ∃ n, r.entered[r.stream.counters.received - 1]? = some { client := n, decision := d }

/-- Before the stop flag is set nothing is missing between the ring and the queue. -/
theorem Sound.whole (h : Sound leftover r) (running : r.stream.stop = false) :
    r.consumed ++ r.ring ++ (r.stream.phase.held ++ r.stream.queue).map Decision.bytes =
      leftover ++ records r.entered := by
  obtain ⟨published, reached, trail⟩ := h.trail
  obtain ⟨settled, pending, split, settledRecords, way, unfailed, -⟩ :=
    trail.whole (by rw [running]; rfl)
  have pendingRecords : records pending = r.stream.pipeline.map Decision.bytes := by
    rw [records_of_unfailed unfailed, ← way, List.map_map]
    rfl
  rw [reached, split, records_append, pendingRecords, settledRecords, List.append_assoc]
  rfl

/-- Afterwards the ring has got a beginning of what survived, each client's in its order. -/
theorem Sound.reached (h : Sound leftover r) :
    ∃ published : List Entry, published <+: surviving r.entered ∧
      r.consumed ++ r.ring = leftover ++ published.map (fun e => e.decision.bytes) ∧
      ∀ n, (sentBy n published).Sublist (r.clients n).accepted := by
  obtain ⟨published, reached, trail⟩ := h.trail
  have first : published =
      ((surviving r.entered).take published.length).map fun e => e.decision.bytes := by
    rw [List.map_take]
    exact List.prefix_iff_eq_take.mp trail.kept
  have start := List.take_prefix published.length (surviving r.entered)
  refine ⟨_, start, reached.trans (by rw [← first]), fun n => ?_⟩
  -- a beginning of some of the entries
  rw [h.accepted n]
  have some : (surviving r.entered).Sublist r.entered := List.filter_sublist
  exact ((start.sublist.trans some).filter _).map _

/-- The decision in hand is the next of those that entered. -/
theorem Sound.held (h : Sound leftover r) {d : Decision} (held : r.stream.phase.held = [d]) :
    ∃ n, r.entered[r.stream.counters.received - 1]? = some { client := n, decision := d } := by
  obtain ⟨published, -, trail⟩ := h.trail
  have stays : r.stream.phase.leaves = false := by
    cases here : r.stream.phase with
    | publishing | stalled | waiting | dead => rfl
    | idle | draining | finished =>
      rw [here] at held
      cases held
  obtain ⟨settled, ⟨n, d', failed⟩, pending, split, -, rfl, rfl, -, -, received⟩ :=
    trail.held_entry stays held
  have last : r.stream.counters.received - 1 = settled.length := by omega
  exact ⟨n, by rw [split, last]; simp⟩

/-- **Dispatch integrity.**  Whatever clients, flush thread, kernel and closing do, and whichever
submissions fail, as long as none panics: what the kernel has taken, what waits in the ring, what
the flush thread holds and what is queued are, in this order, the accepted decisions without those
that could not be submitted, until the stop flag is set; from then on what reached the ring is a
beginning of them.  Calls that were refused or turned away put nothing on this way. -/
theorem dispatch_integrity {k k' : Kernel} {name map : String} {t : Tuning} {s : DispatchStream}
    (started : DispatchStream.start k name map t = .ok (k', s))
    (noPanics : k.faults.submitPanics = []) (actions : List Action) :
    Integrity (k.waiting map) ((starting k' s).run actions) := by
  have sound := (sound_starting started noPanics).run actions
  exact
    { whole := sound.whole
      reached := sound.reached
      entered := fun n => (sound.accepted n).symm
      refused := fun n => (sound.tidy n).refused
      held := fun _ => sound.held }

/-- A kernel whose rings have room for one record, and which refuses the record 3. -/
def oneSlot : Kernel :=
  (Blueprint.standard.withRingCapacity 1).build { submitErrors := [([3], .mapError "refused")] }

/-- A new stream with room for one decision. -/
def oneSlotStream : DispatchStream :=
  { name := Contract.dispatched, map := Contract.dispatched, capacity := 1 }

theorem start_oneSlot :
    DispatchStream.start oneSlot Contract.dispatched Contract.dispatched ⟨1, 1⟩ =
      .ok (oneSlot.record (.opened Contract.dispatched), oneSlotStream) := rfl

/-- Two clients: the ring is full when the second decision is submitted, so that a third waits
in the queue and a fourth is refused; when the kernel has made room the second decision is
published, the third fails, the fourth is sent again and is queued when the stream is closed;
a fifth is turned away. -/
def twoClients : List Action :=
  [.trySend 0 ⟨[1]⟩, .flush, .flush, .flush, .trySend 1 ⟨[2]⟩, .flush, .flush, .flush, .flush,
    .flush, .beginSend 0 ⟨[3]⟩, .send 0, .send 0, .trySend 1 ⟨[4]⟩, .consume, .flush, .flush,
    .flush, .flush, .flush, .beginSend 1 ⟨[4]⟩, .send 1, .send 1, .close, .close, .close,
    .trySend 0 ⟨[5]⟩, .flush, .flush]

/-- Two clients send through a ring and a queue of one place, one submission fails, and the stream
is closed with a decision in hand: the ring gets the rest in order. -/
theorem dispatch_integrity_twoClients :
    let r := (starting (oneSlot.record (.opened Contract.dispatched)) oneSlotStream).run twoClients
    Integrity [] r ∧ r.consumed = [[1]] ∧ r.ring = [[2]] ∧
      r.entered = [⟨0, ⟨[1]⟩, false⟩, ⟨1, ⟨[2]⟩, false⟩, ⟨0, ⟨[3]⟩, true⟩, ⟨1, ⟨[4]⟩, false⟩] ∧
      (r.clients 0).calls =
        [(⟨[1]⟩, .accepted), (⟨[3]⟩, .accepted), (⟨[5]⟩, .closed)] ∧
      (r.clients 1).calls =
        [(⟨[2]⟩, .accepted), (⟨[4]⟩, .refused ⟨[4]⟩), (⟨[4]⟩, .accepted)] ∧
      r.stream.isClosed = true :=
  ⟨dispatch_integrity start_oneSlot rfl twoClients, by decide +kernel, by decide +kernel,
    by decide +kernel, by decide +kernel, by decide +kernel, by decide +kernel⟩

end DispatchRun

end SchedPlane
