/-
SchedPlane/Proofs/ObjectMoves.lean

What the operations on a bare object do to a session.

A bare object has no channel, no handle and so no thread: a session changes by what it is asked
alone.  `ObjectMove` lists all that an operation can do to it: a load or a close, a record that
goes into a ring or records that leave it, a link that is attached or released, a ring that is
opened or released.  A move comes with the events that it makes, and `eventsOf` tells them from
the answer of the operation.

Main result: `Session.perform_moves`.
-/
import SchedPlane.Proofs.HandleLife
import SchedPlane.Session.Run

namespace SchedPlane

namespace Session

variable {s s' : Session}

/-- Nothing but the bare object is there. -/
structure Bare (s : Session) : Prop where
  events : s.events = []
  streams : s.streams = []
  handle : s.handle = none

/-- No thread runs on a bare object. -/
theorem Bare.settle_eq (bare : s.Bare) : s.settle = s := by
  obtain ⟨events, streams, handle⟩ := bare
  cases s
  simp only at events streams handle
  subst events streams handle
  rfl

/-- What an operation gets done. -/
inductive Event where
  | loaded
  /-- A close was answered. -/
  | closed (a : Answer)
  /-- A record went into the ring of a map. -/
  | accepted (map : String) (b : Bytes)
  /-- A record came out of the ring of a map, through a poller or into the kernel. -/
  | took (map : String) (b : Bytes)
  deriving DecidableEq

/-- Two kernels that agree in all that the books of an object are about. -/
structure Alike (k k' : Kernel) : Prop where
  journal : k'.journal = k.journal
  attached : k'.attached = k.attached
  unloaded : k'.unloaded = k.unloaded
  handedOut : k'.handedOut = k.handedOut
  faults : k'.faults = k.faults
  rings : k'.rings = k.rings

theorem Alike.refl (k : Kernel) : Alike k k :=
  ⟨rfl, rfl, rfl, rfl, rfl, rfl⟩

/-- The kernel after a link was attached. -/
def withLink (k : Kernel) (l : Link) : Kernel :=
  { k with attached := k.attached || l.isScheduler }.record
    (if l.isScheduler then .schedulerAttached l.label else .attached l.label)

/-- The kernel after a link was attached, and then the one whose name it takes released. -/
def relinked (k : Kernel) (l : Link) : Option Link → Kernel
  | some old => (withLink k l).release old
  | none => withLink k l

/-- The kernel after a ring was opened, and then the one whose name it takes released. -/
def reopened (k : Kernel) (map : String) : Option String → Kernel
  | some old => (k.record (.opened map)).releaseRing old
  | none => k.record (.opened map)

/-- Attaching and releasing links leaves the rings and the life of the object alone. -/
theorem relinked_frame (k : Kernel) (l : Link) (old : Option Link) :
    (relinked k l old).rings = k.rings ∧ (relinked k l old).handedOut = k.handedOut ∧
      (relinked k l old).faults = k.faults ∧ (relinked k l old).unloaded = k.unloaded := by
  cases old <;> exact ⟨rfl, rfl, rfl, rfl⟩

/-- Opening and releasing rings leaves their records, the links and the life of the object alone. -/
theorem reopened_frame (k : Kernel) (map : String) (old : Option String) :
    (reopened k map old).rings = k.rings ∧ (reopened k map old).handedOut = k.handedOut ∧
      (reopened k map old).faults = k.faults ∧ (reopened k map old).unloaded = k.unloaded ∧
      (reopened k map old).attached = k.attached := by
  cases old <;> exact ⟨rfl, rfl, rfl, rfl, rfl⟩

/-- What an operation on a bare object can do to the session, and the events it makes. -/
inductive ObjectMove (s : Session) : List Event → Session → Prop
  /-- A question, a refusal, or a change that the books are not about. -/
  | keep {k : Kernel} (alike : Alike s.kernel k) : ObjectMove s [] { s with kernel := k }
  /-- Ends of rings are bound or used up. -/
  | ends (sources sinks : Table String) : ObjectMove s [] { s with sources, sinks }
  /-- The object is handed out, for the first time. -/
  | load (artifact : Artifact) (fresh : s.kernel.handedOut = false) :
      ObjectMove s [.loaded]
        { s with
          kernel := { s.kernel with handedOut := true }.record (.loaded artifact.describe)
          objectHeld := true }
  | close (held : s.objectHeld = true) (loaded : s.kernel.unloaded = false) :
      ObjectMove s [.closed (.ofObject s.kernel.close.1)]
        { s with kernel := { s.kernel with unloaded := true }.record .unloaded }
  | closeAgain (unloaded : s.kernel.unloaded = true) :
      ObjectMove s [.closed (.objectError .unloaded)] s
  /-- A ring with room takes a record. -/
  | accept {map : String} {b : Bytes} {r : Ring} (found : s.kernel.rings.get? map = some r)
      (room : r.records.length < r.capacity) :
      ObjectMove s [.accepted map b]
        { s with kernel := s.kernel.setRing map { r with records := r.records ++ [b] } }
  /-- Records leave a ring at its front. -/
  | take {map : String} {bs rest : List Bytes} {r : Ring}
      (found : s.kernel.rings.get? map = some r) (front : r.records = bs ++ rest) :
      ObjectMove s (bs.map (.took map))
        { s with kernel := s.kernel.setRing map { r with records := rest } }
  /-- A link is attached, a scheduler only if there is none, and one under its name is dropped. -/
  | attach {l : Link} (id : String) (alone : l.isScheduler = true → s.kernel.attached = false) :
      ObjectMove s []
        { s with
          kernel := relinked s.kernel l (s.links.get? id)
          links := s.links.set id l }
  /-- A link is detached or dropped. -/
  | detach {id : String} {l : Link} (found : s.links.get? id = some l) :
      ObjectMove s [] { s with kernel := s.kernel.release l, links := s.links.erase id }
  /-- A ring is opened for reading, and one under its name is dropped. -/
  | openPoller (id map : String) (failing : Nat) :
      ObjectMove s []
        { s with
          kernel := reopened s.kernel map ((s.pollers.get? id).map (·.map))
          sources := s.sources.erase id
          pollers := s.pollers.set id ⟨map, failing⟩ }
  | openWriter (id map : String) :
      ObjectMove s []
        { s with
          kernel := reopened s.kernel map (s.writers.get? id)
          sinks := s.sinks.erase id
          writers := s.writers.set id map }
  /-- A poll fails, as it was to. -/
  | miss {id : String} {p : Poller} (failing : Nat) (found : s.pollers.get? id = some p) :
      ObjectMove s [] { s with pollers := s.pollers.set id { p with failing } }
  | dropPoller {id : String} {p : Poller} (found : s.pollers.get? id = some p) :
      ObjectMove s []
        { s with kernel := s.kernel.releaseRing p.map, pollers := s.pollers.erase id }
  | dropWriter {id map : String} (found : s.writers.get? id = some map) :
      ObjectMove s []
        { s with kernel := s.kernel.releaseRing map, writers := s.writers.erase id }

/-- Moves one after the other. -/
inductive ObjectMoves : Session → List Event → Session → Prop
  | none (s : Session) : ObjectMoves s [] s
  | more {s s' s'' : Session} {es es' : List Event} (first : ObjectMove s es s')
      (next : ObjectMoves s' es' s'') : ObjectMoves s (es ++ es') s''

theorem ObjectMove.single {es : List Event} (move : ObjectMove s es s') : ObjectMoves s es s' := by
  simpa using ObjectMoves.more move (.none s')

theorem ObjectMove.look (s : Session) : ObjectMove s [] s :=
  .keep (.refl s.kernel)

/-- No move makes a handle. -/
theorem ObjectMove.bare {es : List Event} (move : ObjectMove s es s') (bare : s.Bare) :
    s'.Bare := by
  cases move <;> exact ⟨bare.events, bare.streams, bare.handle⟩

/-- An operation of a run: the kernel's own, or one on the object. -/
inductive Operation where
  | kernel (c : KernelCommand)
  | object (c : ObjectCommand)

/-- The command that carries an operation out. -/
def Operation.command : Operation → Command
  | .kernel c => .kernel c
  | .object c => .object c

/-- The events of an operation, told from its answer. -/
def eventsOf (s : Session) : Operation → Answer → List Event
  | .kernel (.produce map b), .flag true => [.accepted map b]
  | .kernel (.enqueueTask t), .flag true => [.accepted Contract.queued t.encode]
  | .kernel (.emitExit b), .flag true => [.accepted Contract.exit b]
  | .kernel .takeDispatched, .record (some b) => [.took Contract.dispatched b]
  | .kernel .drainDispatched, .records bs => bs.map (.took Contract.dispatched)
  | .object (.load _), .backend _ => [.loaded]
  | .object .close, .absent _ => []
  | .object .close, a => [.closed a]
  | .object (.poll id), .polled bs =>
    match s.pollers.get? id with
    | some p => bs.map (.took p.map)
    | none => []
  | .object (.submit id b), .flag true =>
    match s.writers.get? id with
    | some map => [.accepted map b]
    | none => []
  | _, _ => []

/-! #### The kernel's side -/

/-- Wherever a ring has room, it takes the record. -/
theorem accept_move {map : String} {b : Bytes} {r : Ring}
    (pushed : (s.kernel.rings.get? map).bind (·.push? b) = some r) :
    ObjectMove s [.accepted map b] { s with kernel := s.kernel.setRing map r } := by
  obtain ⟨ring, found, room⟩ := Option.bind_eq_some_iff.mp pushed
  unfold Ring.push? at room
  split at room
  · cases room
  · next free =>
    cases room
    exact .accept found (by simpa [Ring.isFull] using free)

theorem produce_move (s : Session) (map : String) (b : Bytes) :
    ObjectMove s (if (s.kernel.produce map b).1 then [.accepted map b] else [])
      { s with kernel := (s.kernel.produce map b).2 } := by
  unfold Kernel.produce
  split
  · next r pushed => exact accept_move pushed
  · exact .look s

theorem takeDispatched_move {b : Bytes} {k : Kernel}
    (taken : s.kernel.takeDispatched = some (b, k)) :
    ObjectMove s [.took Contract.dispatched b] { s with kernel := k } := by
  unfold Kernel.takeDispatched at taken
  split at taken
  · next r popped =>
    cases taken
    obtain ⟨ring, found, front⟩ := Option.bind_eq_some_iff.mp popped
    unfold Ring.pop? at front
    split at front
    · cases front
    · next records =>
      cases front
      have first : ObjectMove s ([b].map (.took Contract.dispatched)) _ := .take found records
      exact first
  · cases taken

/-- Draining takes the dispatched records one by one. -/
theorem drain_moves (bare : s.Bare) (bound : Nat) (taken : List Bytes) :
    ∃ bs, (drain bound s taken).1 = taken.reverse ++ bs ∧
      ObjectMoves s (bs.map (.took Contract.dispatched)) (drain bound s taken).2 := by
  induction bound generalizing s taken with
  | zero => exact ⟨[], by simp [drain], .none s⟩
  | succ bound ih =>
    unfold drain
    split
    · exact ⟨[], by simp, .none s⟩
    · next b k next =>
      have first := takeDispatched_move next
      have bare' := first.bare bare
      rw [bare'.settle_eq]
      obtain ⟨bs, all, later⟩ := ih bare' (b :: taken)
      exact ⟨b :: bs, by simp [all], .more first later⟩

/-- What is done on the kernel's side is a sequence of moves, with the events that it answers. -/
theorem onKernelSide_moves (bare : s.Bare) (c : KernelCommand) :
    ObjectMoves s (eventsOf s (.kernel c) (s.onKernelSide c).1) (s.onKernelSide c).2 := by
  -- the answer of a production tells whether the ring has taken the record
  have produced (map : String) (b : Bytes) := (s.produce_move map b).single
  cases c with
  | produce map b =>
    have move := produced map b
    simp only [onKernelSide]
    cases accepted : (s.kernel.produce map b).1 <;> simpa [eventsOf, accepted] using move
  | enqueueTask t =>
    have move := produced Contract.queued t.encode
    simp only [onKernelSide, Kernel.enqueueTask]
    cases accepted : (s.kernel.produce Contract.queued t.encode).1 <;>
      simpa [eventsOf, accepted] using move
  | emitExit b =>
    have move := produced Contract.exit b
    simp only [onKernelSide, Kernel.emitExit]
    cases accepted : (s.kernel.produce Contract.exit b).1 <;>
      simpa [eventsOf, accepted] using move
  | takeDispatched =>
    simp only [onKernelSide]
    split
    · next taken => exact (takeDispatched_move taken).single
    · exact .none s
  | drainDispatched =>
    obtain ⟨bs, all, moves⟩ := drain_moves bare s.itemCount []
    simp only [onKernelSide, eventsOf, all, List.reverse_nil, List.nil_append]
    exact moves
  | pending | runCount | flags | journal => exact .none s
  | setSubprogram name body =>
    have alike : Alike s.kernel (s.kernel.setSubprogram name body.run) :=
      ⟨rfl, rfl, rfl, rfl, rfl, rfl⟩
    exact (ObjectMove.keep alike).single
  | setMapValue map value =>
    have alike : Alike s.kernel (s.kernel.setValue map value) := ⟨rfl, rfl, rfl, rfl, rfl, rfl⟩
    exact (ObjectMove.keep alike).single
  | setAttachFailure name failing =>
    have alike : Alike s.kernel (s.kernel.setAttachFailure name failing) :=
      ⟨rfl, rfl, rfl, rfl, rfl, rfl⟩
    exact (ObjectMove.keep alike).single

/-! #### The object -/

/-- A run changes no more than its count. -/
theorem alike_run (k : Kernel) (name : String) (context : Bytes) :
    Alike k (k.run name context).2 := by
  unfold Kernel.run
  split
  · exact .refl k
  · unfold Kernel.runLoaded
    split
    · exact .refl k
    · exact ⟨rfl, rfl, rfl, rfl, rfl, rfl⟩

/-- An object is handed out once. -/
theorem loadObject_move (s : Session) (artifact : Artifact) :
    ObjectMove s (eventsOf s (.object (.load artifact)) (s.loadObject artifact).1)
      (s.loadObject artifact).2 := by
  unfold loadObject
  split
  · next k loaded =>
    obtain ⟨fresh, rfl⟩ := Kernel.load_eq_ok loaded
    exact .load artifact fresh
  · exact .look s

/-- What attaching a link, of either kind, does. -/
theorem keepLink_move {id : String} {attempt : Except ObjectError (Link × Kernel)}
    (granted : ∀ l k, attempt = .ok (l, k) →
      k = withLink s.kernel l ∧ (l.isScheduler = true → s.kernel.attached = false)) :
    ObjectMove s [] (s.keepLink id attempt).2 := by
  unfold keepLink
  split
  · exact .look s
  · next l k =>
    obtain ⟨rfl, alone⟩ := granted l k rfl
    have move : ObjectMove s [] _ := .attach id alone
    cases taken : s.links.get? id <;> rw [taken] at move <;> exact move

/-- To attach a program makes a link and moves nothing else. -/
theorem withLink_of_attachProgram {k k' : Kernel} {name : String} {l : Link}
    (granted : k.attachProgram name = .ok (l, k')) :
    k' = withLink k l ∧ l.isScheduler = false := by
  obtain ⟨rfl, rfl⟩ := Kernel.attachProgram_eq_ok granted
  exact ⟨by simp [withLink, Kernel.grown, Kernel.record], rfl⟩

/-- A scheduler is attached only while none is. -/
theorem attached_of_attachScheduler {k k' : Kernel} {name : String} {l : Link}
    (granted : k.attachScheduler name = .ok (l, k')) : k.attached = false := by
  obtain ⟨-, -, h⟩ := bind_eq_ok.mp granted
  obtain ⟨m, -, h⟩ := bind_eq_ok.mp h
  split at h
  · cases h
  · split at h
    · cases h
    · split at h
      · cases h
      · next free => simpa using free

/-- To attach the scheduler makes a link and moves nothing else. -/
theorem withLink_of_attachScheduler {k k' : Kernel} {name : String} {l : Link}
    (granted : k.attachScheduler name = .ok (l, k')) : k' = withLink k l := by
  obtain ⟨rfl, rfl⟩ := Kernel.attachScheduler_eq_ok granted
  simp [withLink]

theorem openPoller_move (s : Session) (id : String) :
    ObjectMove s [] (s.openPoller id).2 := by
  unfold openPoller
  split
  · exact .look s
  · next map bound =>
    simp only
    split
    · exact .ends _ _
    · next k opened =>
      rw [Kernel.openRing_eq_ok opened]
      have move (failing : Nat) : ObjectMove s [] _ := .openPoller id map failing
      cases taken : s.pollers.get? id <;> simp only [taken] at move <;> exact move _

theorem openWriter_move (s : Session) (id : String) :
    ObjectMove s [] (s.openWriter id).2 := by
  unfold openWriter
  split
  · exact .look s
  · next map bound =>
    simp only
    split
    · exact .ends _ _
    · next k opened =>
      rw [Kernel.openRing_eq_ok opened]
      have move : ObjectMove s [] _ := .openWriter id map
      cases taken : s.writers.get? id <;> rw [taken] at move <;> exact move

/-- A poll takes the records that it reports. -/
theorem poll_move (s : Session) (id : String) :
    ObjectMove s (eventsOf s (.object (.poll id)) (s.poll id).1) (s.poll id).2 := by
  unfold poll
  split
  · exact .look s
  · next p found =>
    split
    · exact .miss _ found
    · simp only [eventsOf, found, Kernel.waiting]
      split
      · next r ring =>
        simp only [ring, Option.map_some, Option.getD_some]
        exact .take ring (by simp)
      · next ring =>
        simp only [ring, Option.map_none, Option.getD_none, List.map_nil]
        exact .look s

/-- A submission puts its record on the ring if it is accepted. -/
theorem submit_move (s : Session) (id : String) (b : Bytes) :
    ObjectMove s (eventsOf s (.object (.submit id b)) (s.submit id b).1) (s.submit id b).2 := by
  unfold submit
  rcases found : s.writers.get? id with - | map
  · exact .look s
  · simp only [Kernel.submit]
    by_cases panics : b ∈ s.kernel.faults.submitPanics
    · simp only [panics, if_true]
      exact .look s
    · simp only [panics, if_false]
      rcases s.kernel.faults.submitErrors.lookup b with - | e
      · rcases pushed : (s.kernel.rings.get? map).bind (·.push? b) with - | r
        · exact .look s
        · simp only [eventsOf, found]
          exact accept_move pushed
      · exact .look s

/-- A close answers once with success. -/
theorem close_move (s : Session) (held : s.objectHeld = true) :
    ObjectMove s [.closed (.ofObject s.kernel.close.1)] { s with kernel := s.kernel.close.2 } := by
  cases unloaded : s.kernel.unloaded
  · rw [Kernel.close_of_loaded unloaded]
    exact .close held unloaded
  · have again : s.kernel.close = (.error .unloaded, s.kernel) := by simp [Kernel.close, unloaded]
    rw [again]
    exact .closeAgain unloaded

/-- What is done with an object that is held is one move, with the events that it answers. -/
theorem onHeldObject_move (c : ObjectCommand) (held : c.needsObject = true → s.objectHeld = true) :
    ObjectMove s (eventsOf s (.object c) (s.onHeldObject c).1) (s.onHeldObject c).2 := by
  cases c with
  | load artifact => exact s.loadObject_move artifact
  | programs | maps => exact .look s
  | run name context =>
    simp only [onHeldObject]
    have alike := alike_run s.kernel name context
    rcases (s.kernel.run name context).1 <;> exact .keep alike
  | read map =>
    simp only [onHeldObject]
    split <;> exact .look s
  | close =>
    have move := s.close_move (held rfl)
    simp only [onHeldObject]
    rcases answer : s.kernel.close.1 <;> rw [answer] at move <;> exact move
  | attachProgram name id =>
    refine keepLink_move fun l k granted => ?_
    -- a link to a probe: the flag of the kernel stays
    obtain ⟨attached, probe⟩ := withLink_of_attachProgram granted
    exact ⟨attached, fun scheduler => by simp [probe] at scheduler⟩
  | attachScheduler name id =>
    refine keepLink_move fun l k granted => ?_
    exact ⟨withLink_of_attachScheduler granted, fun _ => attached_of_attachScheduler granted⟩
  | bindRing map id | bindUserRing map id =>
    simp only [onHeldObject]
    split
    · exact .ends _ _
    · exact .look s
  | detach id =>
    simp only [onHeldObject]
    split
    · exact .look s
    · next l found =>
      simp only [Kernel.detach_snd]
      exact .detach found
  | dropLink id =>
    simp only [onHeldObject]
    split
    · exact .look s
    · next l found => exact .detach found
  | openRing id => exact s.openPoller_move id
  | poll id => exact s.poll_move id
  | dropPoller id =>
    simp only [onHeldObject]
    split
    · exact .look s
    · next p found => exact .dropPoller found
  | openUserRing id => exact s.openWriter_move id
  | submit id b => exact s.submit_move id b
  | dropWriter id =>
    simp only [onHeldObject]
    split
    · exact .look s
    · next map found => exact .dropWriter found

theorem onObject_move (s : Session) (c : ObjectCommand) :
    ObjectMove s (eventsOf s (.object c) (s.onObject c).1) (s.onObject c).2 := by
  unfold onObject
  split
  · cases c <;> exact .look s
  · next held => exact onHeldObject_move c (by simpa using held)

theorem ObjectMoves.bare {es : List Event} (moves : ObjectMoves s es s') (bare : s.Bare) :
    s'.Bare := by
  induction moves with
  | none => exact bare
  | more first _ ih => exact ih (first.bare bare)

/-- Carrying out an operation is a sequence of moves. -/
theorem perform_moves (bare : s.Bare) (o : Operation) :
    ObjectMoves s (eventsOf s o (s.perform o.command).1.answer) (s.perform o.command).2 := by
  have moves : ObjectMoves s (eventsOf s o (s.execute o.command).1) (s.execute o.command).2 := by
    cases o with
    | kernel c => exact onKernelSide_moves bare c
    | object c => exact (s.onObject_move c).single
  -- then all threads may run, but there are none
  simp only [perform, (moves.bare bare).settle_eq]
  exact moves

end Session

end SchedPlane
