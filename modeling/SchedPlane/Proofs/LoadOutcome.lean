/-
SchedPlane/Proofs/LoadOutcome.lean

Loading is all or nothing.

What a load acquires of a bound object is a fixed list, `Registry.plan`: the probes in the order
of enumeration, then the rings of queued tasks, of exits and of decisions.
`Acquisition.failure` says whether one of them fails and how, on the kernel that has just handed
the object out.  Since a load only adds to the journal, the answer is the same when the turn of
that acquisition comes, and a load is a walk down the plan (`Controller.acquire_cases`): to the
first acquisition that fails, or to the end.

At a failure the load holds exactly the acquisitions before it.  `Holding.unwind` gives them back,
newest first, and unloads the object; an error that a release reports changes nothing.  Each
stream that it ends has run meanwhile, so that its poll thread may be anywhere when it is asked to
stop; `EventStream.Watched` covers all of that.
-/
import SchedPlane.Proofs.Loading
import SchedPlane.Proofs.PollSettling

namespace SchedPlane

open Kernel (Lived)

/-! ### Kernels that only wrote to their journal -/

namespace Kernel

variable {k k' : Kernel} {es es' : List JournalEntry} {name map : String}

/-- The kernel with more journal entries. -/
def grown (k : Kernel) (es : List JournalEntry) : Kernel :=
  { k with journal := k.journal ++ es }

@[simp] theorem grown_nil (k : Kernel) : k.grown [] = k := by
  simp [grown]

@[simp] theorem grown_grown (k : Kernel) (es es' : List JournalEntry) :
    (k.grown es).grown es' = k.grown (es ++ es') := by
  simp [grown]

theorem lived_grown (k : Kernel) (es : List JournalEntry) : Lived k es (k.grown es) :=
  ⟨rfl, rfl, rfl, fun _ ring => ring⟩

/-- An object that was not handed out is neither unloaded nor the active scheduler. -/
def Intact (k : Kernel) : Prop :=
  k.handedOut = false → k.unloaded = false ∧ k.attached = false

theorem intact_build (p : Blueprint) (faults : Faults) : (p.build faults).Intact :=
  fun _ => ⟨rfl, rfl⟩

theorem load_eq_ok {artifact : Artifact} (h : k.load artifact = .ok k') :
    k.handedOut = false ∧ k' = { k with handedOut := true }.grown [.loaded artifact.describe] := by
  unfold load at h
  split at h
  · cases h
  · split at h
    · cases h
    · next fresh =>
      cases h
      exact ⟨by simpa using fresh, rfl⟩

theorem attachProgram_eq_ok {l : Link} (h : k.attachProgram name = .ok (l, k')) :
    l = ⟨name, false⟩ ∧ k' = k.grown [.attached name] := by
  obtain ⟨-, -, h⟩ := bind_eq_ok.mp h
  split at h
  · cases h
  · split at h
    · cases h
    · cases h
      exact ⟨rfl, rfl⟩

theorem openRing_eq_ok (h : k.openRing map = .ok k') : k' = k.grown [.opened map] := by
  unfold openRing at h
  split at h
  · cases h
  · split at h
    · cases h
    · cases h
      rfl

/-- Binding a ring looks the map up, at its kind, and for the ring. -/
theorem bindRing_eq_ok {expected : MapKind} : k.bindRing map expected = .ok () ↔
    k.unloaded = false ∧ (∃ m, k.map map = .ok m ∧ m.kind = expected) ∧
      (k.rings.get? map).isSome := by
  unfold bindRing ensureLoaded
  rcases k.map map with e | m
  · cases k.unloaded <;> simp [bind, Except.bind]
  · cases k.unloaded <;> by_cases right : m.kind = expected <;>
      cases k.rings.get? map <;> simp [bind, Except.bind, right]

end Kernel

/-! ### The plan of a load -/

/-- A resource that a load acquires of a bound object. -/
inductive Acquisition where
  | probe (name : String)
  /-- A ring that events are read from. -/
  | events (map : String)
  /-- A ring that decisions are written to. -/
  | decisions (map : String)
  deriving DecidableEq, Repr

namespace Acquisition

/-- The journal entry of acquiring it. -/
def acquired : Acquisition → JournalEntry
  | probe name => .attached name
  | events map | decisions map => .opened map

/-- The journal entry of giving it back. -/
def released : Acquisition → JournalEntry
  | probe name => .detached name
  | events map | decisions map => .released map

/-- How a ring fails to be bound and opened, if it does, with the wording of both ways in which
opening fails. -/
def ringFailure (k : Kernel) (map : String) (kind : MapKind) (refused : ObjectError → String)
    (panicked : String) : Option ControlError :=
  match k.bindRing map kind with
  | .error e => some (bindError map e)
  | .ok () =>
    match k.openRing map with
    | .ok _ => none
    | .error (.refused e) => some (.channel (refused e))
    | .error .panicked => some (.channel panicked)

/-- How acquiring it fails, if it does. -/
def failure (k : Kernel) : Acquisition → Option ControlError
  | probe name =>
    match k.attachProgram name with
    | .ok _ => none
    | .error e => some (.probeAttach name e.message)
  | events map =>
    ringFailure k map .ringBuf (fun e => s!"failed to open ring buffer {map}: {e.message}")
      s!"poll thread for {map} exited during startup"
  | decisions map =>
    ringFailure k map .userRingBuf
      (fun e => s!"failed to open user ring buffer {map}: {e.message}")
      s!"flush thread for {map} exited during startup"

/-- The failures that name it: that of a probe by the probe, that of a ring as one of a
channel. -/
def Blames : Acquisition → ControlError → Prop
  | probe name, e => ∃ reason, e = .probeAttach name reason
  | events _, e | decisions _, e => ∃ reason, e = .channel reason

variable {k : Kernel} {a : Acquisition} {e : ControlError}

/-- Whether and how an acquisition fails does not depend on the journal. -/
@[simp] theorem failure_grown (k : Kernel) (es : List JournalEntry) (a : Acquisition) :
    a.failure (k.grown es) = a.failure k := by
  have opening (map : String) (kind : MapKind) (refused : ObjectError → String)
      (panicked : String) : ringFailure (k.grown es) map kind refused panicked =
        ringFailure k map kind refused panicked := by
    have same : (k.grown es).bindRing map kind = k.bindRing map kind := rfl
    unfold ringFailure
    rw [same]
    by_cases panics : map ∈ k.faults.openPanics <;>
      rcases refuses : k.faults.openErrors.get? map with - | e <;>
      simp [Kernel.openRing, Kernel.grown, panics, refuses]
  cases a with
  | probe name =>
    by_cases gone : k.unloaded = true <;>
      by_cases present : name ∈ k.programs.map ProgramInfo.name <;>
      by_cases fails : name ∈ k.failingAttach <;>
      simp [failure, Kernel.attachProgram, Kernel.ensureLoaded, Kernel.grown, bind, Except.bind,
        gone, present, fails]
  | events map => exact opening map _ _ _
  | decisions map => exact opening map _ _ _

/-- A ring that cannot be opened or bound is a failure of its channel. -/
theorem channel_of_ringFailure {map panicked : String} {kind : MapKind}
    {refused : ObjectError → String} (h : ringFailure k map kind refused panicked = some e) :
    ∃ reason, e = .channel reason := by
  unfold ringFailure at h
  split at h
  · exact ⟨_, (Option.some.inj h).symm⟩
  · split at h
    · cases h
    · exact ⟨_, (Option.some.inj h).symm⟩
    · exact ⟨_, (Option.some.inj h).symm⟩

/-- A ring does not fail just if it can be bound and opened. -/
theorem ringFailure_eq_none {map panicked : String} {kind : MapKind}
    {refused : ObjectError → String} : ringFailure k map kind refused panicked = none ↔
      k.bindRing map kind = .ok () ∧ ∃ k', k.openRing map = .ok k' := by
  unfold ringFailure
  rcases k.bindRing map kind with e | -
  · simp
  · rcases k.openRing map with (e | -) | k' <;> simp

/-- A ring whose acquisition does not fail exists. -/
theorem isSome_ring_of_fine {map : String} (h : (events map).failure k = none ∨
    (decisions map).failure k = none) : (k.rings.get? map).isSome := by
  rcases h with h | h <;> exact (Kernel.bindRing_eq_ok.mp (ringFailure_eq_none.mp h).1).2.2

/-- A failure names what it is a failure of. -/
theorem blames_of_failure (h : a.failure k = some e) : a.Blames e := by
  cases a with
  | probe name =>
    simp only [failure] at h
    split at h
    · cases h
    · exact ⟨_, (Option.some.inj h).symm⟩
  | events map => exact channel_of_ringFailure h
  | decisions map => exact channel_of_ringFailure h

end Acquisition

/-- What a load acquires of an object, in this order. -/
def Registry.plan (r : Registry) : List Acquisition :=
  r.probes.map (fun p => Acquisition.probe p.name) ++
    [.events r.queued.name, .events r.exit.name, .decisions r.dispatched.name]

/-- The first acquisition of a plan that fails does so with `e`, after those of `got`. -/
def FailsAfter (k : Kernel) (got : List Acquisition) (e : ControlError)
    (plan : List Acquisition) : Prop :=
  ∃ a rest, plan = got ++ a :: rest ∧ (∀ b ∈ got, b.failure k = none) ∧
    a.failure k = some e ∧ a.Blames e

namespace FailsAfter

variable {k : Kernel} {got plan : List Acquisition} {a : Acquisition} {e : ControlError}

theorem here (fails : a.failure k = some e) (rest : List Acquisition) :
    FailsAfter k [] e (a :: rest) :=
  ⟨a, rest, rfl, by simp, fails, Acquisition.blames_of_failure fails⟩

theorem of_grown {es : List JournalEntry} (h : FailsAfter (k.grown es) got e plan) :
    FailsAfter k got e plan := by
  simpa only [FailsAfter, Acquisition.failure_grown] using h

/-- What comes behind the first failure does not matter. -/
theorem append_right (h : FailsAfter k got e plan) (more : List Acquisition) :
    FailsAfter k got e (plan ++ more) := by
  obtain ⟨a, rest, rfl, fine, fails⟩ := h
  exact ⟨a, rest ++ more, by simp, fine, fails⟩

/-- What has succeeded before it has been acquired. -/
theorem append_left (first : List Acquisition) (fine : ∀ b ∈ first, b.failure k = none)
    (h : FailsAfter k got e plan) : FailsAfter k (first ++ got) e (first ++ plan) := by
  obtain ⟨a, rest, rfl, fine', fails⟩ := h
  refine ⟨a, rest, by simp, fun b mem => ?_, fails⟩
  rcases List.mem_append.mp mem with mem | mem
  · exact fine b mem
  · exact fine' b mem

theorem cons (fine : a.failure k = none) (h : FailsAfter k got e plan) :
    FailsAfter k (a :: got) e (a :: plan) :=
  append_left [a] (by simpa using fine) h

end FailsAfter

/-! ### Walking down the plan -/

/-- A stream of events as it is started. -/
def EventStream.opened (α : Type) (k : Kernel) (map : String) (t : Tuning) : EventStream α :=
  { name := map, map, capacity := t.room, failingPolls := k.failingPolls map }

/-- A stream of decisions as it is started. -/
def DispatchStream.opened (map : String) (t : Tuning) : DispatchStream :=
  { name := map, map, capacity := t.room }

theorem startEvents_grown (α : Type) (k : Kernel) (es : List JournalEntry) (map : String)
    (t : Tuning) :
    startEvents α (k.grown es) map t =
      match (Acquisition.events map).failure k with
      | some e => .error e
      | none => .ok (k.grown (es ++ [.opened map]), .opened α k map t) := by
  rw [← Acquisition.failure_grown k es, ← Kernel.grown_grown]
  simp only [startEvents, Acquisition.failure, Acquisition.ringFailure, EventStream.start]
  rcases (k.grown es).bindRing map .ringBuf with e | -
  · rfl
  · rcases opened : (k.grown es).openRing map with (e | -) | k'
    · rfl
    · rfl
    · obtain rfl := Kernel.openRing_eq_ok opened
      rfl

theorem startDispatch_grown (k : Kernel) (es : List JournalEntry) (map : String) (t : Tuning) :
    startDispatch (k.grown es) map t =
      match (Acquisition.decisions map).failure k with
      | some e => .error e
      | none => .ok (k.grown (es ++ [.opened map]), .opened map t) := by
  rw [← Acquisition.failure_grown k es, ← Kernel.grown_grown]
  simp only [startDispatch, Acquisition.failure, Acquisition.ringFailure, DispatchStream.start]
  rcases (k.grown es).bindRing map .userRingBuf with e | -
  · rfl
  · rcases opened : (k.grown es).openRing map with (e | -) | k'
    · rfl
    · rfl
    · obtain rfl := Kernel.openRing_eq_ok opened
      rfl

namespace Holding

/-- The holding with more probes attached. -/
def withProbes (h : Holding) (names : List String) : Holding :=
  { h with
    kernel := h.kernel.grown (names.map .attached)
    probes := h.probes ++ names.map (⟨·, false⟩) }

theorem withProbes_nil (h : Holding) : h.withProbes [] = h := by
  simp [withProbes]

theorem withProbes_cons (h : Holding) (name : String) (names : List String) :
    (h.withProbes [name]).withProbes names = h.withProbes (name :: names) := by
  simp [withProbes]

/-- Probes are attached in their order, up to the first that fails. -/
theorem attachProbes_cases (names : List String) :
    ∀ h : Holding,
      (∃ done e, FailsAfter h.kernel (done.map .probe) e (names.map .probe) ∧
          attachProbes h names = .error (e, h.withProbes done)) ∨
        (∀ name ∈ names, (Acquisition.probe name).failure h.kernel = none) ∧
          attachProbes h names = .ok (h.withProbes names) := by
  -- for every holding, since each probe adds to it
  induction names with
  | nil => exact fun h => .inr ⟨by simp, by rw [withProbes_nil]; rfl⟩
  | cons name rest ih =>
    intro h
    rcases attached : h.kernel.attachProgram name with e | ⟨l, k'⟩
    · -- the walk ends here
      refine .inl ⟨[], .probeAttach name e.message, .here ?_ _, ?_⟩
      · simp [Acquisition.failure, attached]
      · simp [attachProbes, attached, withProbes_nil]
    · obtain ⟨rfl, rfl⟩ := Kernel.attachProgram_eq_ok attached
      have fine : (Acquisition.probe name).failure h.kernel = none := by
        simp [Acquisition.failure, attached]
      have next : attachProbes h (name :: rest) = attachProbes (h.withProbes [name]) rest := by
        rw [attachProbes, attached]
        rfl
      rw [next]
      rcases ih (h.withProbes [name]) with ⟨done, e, first, stopped⟩ | ⟨all, finished⟩
      · refine .inl ⟨name :: done, e, ?_, by rw [stopped, withProbes_cons]⟩
        exact FailsAfter.cons fine (first.of_grown)
      · refine .inr ⟨fun name' mem => ?_, by rw [finished, withProbes_cons]⟩
        rcases List.mem_cons.mp mem with rfl | mem
        · exact fine
        · simpa [withProbes] using all name' mem

/-- The holding with the stream of queued tasks started. -/
def withQueued (h : Holding) (s : EventStream Task) : Holding :=
  { h with kernel := h.kernel.grown [.opened s.map], queued := some s }

/-- The holding with the stream of exits started. -/
def withExits (h : Holding) (s : EventStream ExitEvent) : Holding :=
  { h with kernel := h.kernel.grown [.opened s.map], exits := some s }

/-- What is held, in the order of acquisition. -/
def got (h : Holding) : List Acquisition :=
  h.probes.map (Acquisition.probe ·.label) ++ (h.queued.toList.map (Acquisition.events ·.map) ++
    h.exits.toList.map (Acquisition.events ·.map))

/-- What a load that began on `k` holds: its kernel has only written to its journal, its links
attach no scheduler, and its streams run. -/
structure Kept (k : Kernel) (h : Holding) : Prop where
  kernel : h.kernel = k.grown (h.got.map Acquisition.acquired)
  probes : ∀ l ∈ h.probes, l.isScheduler = false
  queued : ∀ s, h.queued = some s → s.isFinished = false ∧ (k.rings.get? s.map).isSome
  exits : ∀ s, h.exits = some s → s.isFinished = false ∧ (k.rings.get? s.map).isSome

section Kept

variable {k : Kernel} {h : Holding}

theorem got_withProbes (k : Kernel) (names : List String) :
    (withProbes { kernel := k } names).got = names.map .probe := by
  simp [got, withProbes]

theorem kept_withProbes (k : Kernel) (names : List String) :
    Kept k (withProbes { kernel := k } names) where
  kernel := by
    rw [got_withProbes, List.map_map]
    rfl
  probes := by simp [withProbes]
  queued := nofun
  exits := nofun

theorem got_withQueued (notYet : h.queued = none) (first : h.exits = none)
    (s : EventStream Task) : (h.withQueued s).got = h.got ++ [.events s.map] := by
  simp [got, withQueued, notYet, first]

theorem got_withExits (notYet : h.exits = none) (s : EventStream ExitEvent) :
    (h.withExits s).got = h.got ++ [.events s.map] := by
  simp [got, withExits, notYet]

theorem Kept.withQueued (kept : Kept k h) (notYet : h.queued = none) (first : h.exits = none)
    {s : EventStream Task} (runs : s.isFinished = false) (ring : (k.rings.get? s.map).isSome) :
    Kept k (h.withQueued s) where
  kernel := by
    rw [got_withQueued notYet first, Holding.withQueued, kept.kernel, Kernel.grown_grown,
      List.map_append]
    rfl
  probes := kept.probes
  queued _ here := Option.some.inj here ▸ ⟨runs, ring⟩
  exits := kept.exits

theorem Kept.withExits (kept : Kept k h) (notYet : h.exits = none) {s : EventStream ExitEvent}
    (runs : s.isFinished = false) (ring : (k.rings.get? s.map).isSome) :
    Kept k (h.withExits s) where
  kernel := by
    rw [got_withExits notYet, Holding.withExits, kept.kernel, Kernel.grown_grown, List.map_append]
    rfl
  probes := kept.probes
  queued := kept.queued
  exits _ here := Option.some.inj here ▸ ⟨runs, ring⟩

end Kept

end Holding

namespace Controller

variable {k : Kernel} {registry : Registry}

/-- The handle that a load of a bound object ends in. -/
def handle (c : Controller) (k : Kernel) (registry : Registry) : Handle where
  memoryLocked := c.residency.locked
  registry
  invoker := .new (some registry.selectCpu.name) (some registry.siblingCpu.name)
  probes := registry.probes.map (⟨·.name, false⟩)
  queued := .opened Task k registry.queued.name c.config.queued
  exits := .opened ExitEvent k registry.exit.name c.config.exit
  dispatch := .opened registry.dispatched.name c.config.dispatch

/-- The walk over the channels, once the probes are attached. -/
theorem startChannels_cases (c : Controller) (registry : Registry) (k : Kernel)
    (probesFine : ∀ a ∈ registry.probes.map (Acquisition.probe ·.name), a.failure k = none) :
    let held := Holding.withProbes { kernel := k } (registry.probes.map (·.name))
    (∃ e held', FailsAfter k held'.got e registry.plan ∧ Holding.Kept k held' ∧
        c.startChannels registry held = .error (e, held')) ∨
      (∀ a ∈ registry.plan, a.failure k = none) ∧
        c.startChannels registry held =
          .ok (k.grown (registry.plan.map Acquisition.acquired), c.handle k registry) := by
  intro held
  have kept : Holding.Kept k held := Holding.kept_withProbes k _
  have got : held.got = registry.probes.map (Acquisition.probe ·.name) := by
    rw [Holding.got_withProbes, List.map_map]
    rfl
  -- one channel after the other; what is held grows by it, and so does the list that `FailsAfter`
  -- puts before the failure
  cases queuedFails : (Acquisition.events registry.queued.name).failure k with
  | some e =>
    refine .inl ⟨e, held, ?_, kept, ?_⟩
    · rw [got, ← List.append_nil (registry.probes.map _)]
      exact (FailsAfter.here queuedFails _).append_left _ probesFine
    · simp only [startChannels, kept.kernel, startEvents_grown, queuedFails, mapError_error, bind,
        Except.bind]
  | none =>
    let held₁ := held.withQueued (.opened Task k registry.queued.name c.config.queued)
    have kept₁ : Holding.Kept k held₁ :=
      kept.withQueued rfl rfl rfl (Acquisition.isSome_ring_of_fine (.inl queuedFails))
    have got₁ : held₁.got = registry.probes.map (Acquisition.probe ·.name) ++
        [.events registry.queued.name] := by
      rw [Holding.got_withQueued rfl rfl, got]
      rfl
    cases exitFails : (Acquisition.events registry.exit.name).failure k with
    | some e =>
      refine .inl ⟨e, held₁, ?_, kept₁, ?_⟩
      · rw [got₁]
        exact ((FailsAfter.here exitFails _).cons queuedFails).append_left _ probesFine
      · simp only [startChannels, kept.kernel, startEvents_grown, queuedFails, exitFails,
          mapError_ok, mapError_error, bind, Except.bind]
        simp only [held₁, Holding.withQueued, kept.kernel, Kernel.grown_grown]
        rfl
    | none =>
      let held₂ := held₁.withExits (.opened ExitEvent k registry.exit.name c.config.exit)
      have kept₂ : Holding.Kept k held₂ :=
        kept₁.withExits rfl rfl (Acquisition.isSome_ring_of_fine (.inl exitFails))
      have got₂ : held₂.got = registry.probes.map (Acquisition.probe ·.name) ++
          [.events registry.queued.name, .events registry.exit.name] := by
        rw [Holding.got_withExits rfl, got₁, List.append_assoc]
        rfl
      cases dispatchFails : (Acquisition.decisions registry.dispatched.name).failure k with
      | some e =>
        refine .inl ⟨e, held₂, ?_, kept₂, ?_⟩
        · rw [got₂]
          exact (((FailsAfter.here dispatchFails _).cons exitFails).cons queuedFails).append_left _
            probesFine
        · simp only [startChannels, kept.kernel, startEvents_grown, startDispatch_grown,
            queuedFails, exitFails, dispatchFails, mapError_ok, mapError_error, bind, Except.bind]
          simp only [held₁, held₂, Holding.withQueued, Holding.withExits, kept.kernel,
            Kernel.grown_grown]
          rfl
      | none =>
        refine .inr ⟨?_, ?_⟩
        · intro a mem
          rcases List.mem_append.mp mem with probe | channel
          · exact probesFine a probe
          · simp only [List.mem_cons, List.not_mem_nil, or_false] at channel
            rcases channel with rfl | rfl | rfl <;> assumption
        · simp only [startChannels, kept.kernel, startEvents_grown, startDispatch_grown,
            queuedFails, exitFails, dispatchFails, mapError_ok, bind, Except.bind, got]
          simp only [Registry.plan, handle, held, Holding.withProbes, List.map_map, List.map_append,
            List.append_assoc, List.nil_append]
          rfl

/-- **The walk of a load**: it stops at the first acquisition that fails, holding those before it,
or it acquires all of the plan. -/
theorem acquire_cases (c : Controller) (registry : Registry) (k : Kernel) :
    (∃ e held, FailsAfter k held.got e registry.plan ∧ Holding.Kept k held ∧
        c.acquire registry k = .error (e, held)) ∨
      (∀ a ∈ registry.plan, a.failure k = none) ∧
        c.acquire registry k =
          .ok (k.grown (registry.plan.map Acquisition.acquired), c.handle k registry) := by
  rcases Holding.attachProbes_cases (registry.probes.map (·.name)) { kernel := k } with
    ⟨done, e, first, stopped⟩ | ⟨fine, attached⟩
  · refine .inl ⟨e, _, ?_, Holding.kept_withProbes k done, ?_⟩
    · rw [List.map_map] at first
      rw [Holding.got_withProbes]
      exact first.append_right _
    · rw [acquire, stopped]
      rfl
  · have walk : c.acquire registry k = c.startChannels registry
        (Holding.withProbes { kernel := k } (registry.probes.map (·.name))) := by
      rw [acquire, attached]
      rfl
    rw [walk]
    exact c.startChannels_cases registry k (by simpa using fine)

end Controller

/-! ### Giving back -/

/-- Detaching the links of probes, in the order given. -/
theorem Handle.lived_detachAll {links : List Link} (probes : ∀ l ∈ links, l.isScheduler = false) :
    ∀ k : Kernel, Lived k (links.map (.detached ·.label)) (detachAll k links) := by
  induction links with
  | nil => exact fun k => .refl k
  | cons l rest ih =>
    intro k
    have first := Kernel.lived_detach k (probes l (by simp))
    exact first.trans (ih (fun l' mem => probes l' (by simp [mem])) _)

namespace Holding

section Streams

variable {α : Type} [EventRecord α] {k : Kernel}

/-- What becomes of a stream that a load gives up: it has run, and then it is closed. -/
def shut (k : Kernel) (s : EventStream α) : Kernel × EventStream α :=
  let (k', s') := s.settle k
  s'.close k'

theorem watched_shut {s : EventStream α} (runs : s.isFinished = false) :
    EventStream.Watched k s (shut k s) :=
  (EventStream.Watched.refl runs).settle.requestStop.settle

/-- A stream that is shut while its thread runs ends its thread. -/
theorem isFinished_shut {s : EventStream α} (runs : s.isFinished = false)
    (ring : (k.rings.get? s.map).isSome) : (shut k s).2.isFinished = true :=
  (EventStream.Watched.refl runs).settle.isFinished_close ring

/-- Closing a stream releases its ring. -/
theorem lived_closeStream {o : Option (EventStream α)}
    (runs : ∀ s, o = some s → s.isFinished = false ∧ (k.rings.get? s.map).isSome) :
    Lived k (o.toList.map (.released ·.map)) (closeStream k o) := by
  cases o with
  | none => exact .refl k
  | some s =>
    obtain ⟨running, ring⟩ := runs s rfl
    have lived := (watched_shut (k := k) running).lived
    rw [isFinished_shut running ring] at lived
    exact lived

end Streams

variable {k : Kernel} {h : Holding}

/-- No poll thread of a load that was given up is left. -/
structure Ended (h : Holding) : Prop where
  exits : ∀ s, h.exits = some s → (shut h.kernel s).2.isFinished = true
  queued : ∀ s, h.queued = some s →
    (shut (closeStream h.kernel h.exits) s).2.isFinished = true

theorem Kept.runs_on (kept : Kept k h) {α : Type} {s : EventStream α}
    (runs : s.isFinished = false ∧ (k.rings.get? s.map).isSome) :
    s.isFinished = false ∧ (h.kernel.rings.get? s.map).isSome := by
  rw [kept.kernel]
  exact runs

/-- What a failed load has started has ended. -/
theorem Kept.ended (kept : Kept k h) : Ended h where
  exits s held := by
    obtain ⟨running, ring⟩ := kept.runs_on (kept.exits s held)
    exact isFinished_shut running ring
  queued s held := by
    obtain ⟨running, ring⟩ := kept.runs_on (kept.queued s held)
    have exits := lived_closeStream fun s held => kept.runs_on (kept.exits s held)
    exact isFinished_shut running (exits.rings s.map ring)

/-- **Unwinding gives back all that is held, newest first, and unloads the object.** -/
theorem Kept.unwind (kept : Kept k h) (loaded : k.unloaded = false) :
    h.unwind.journal = k.journal ++ (h.got.map Acquisition.acquired ++
        (h.got.reverse.map Acquisition.released ++ [.unloaded])) ∧
      h.unwind.unloaded = true ∧ h.unwind.attached = k.attached := by
  have start : Lived k (h.got.map Acquisition.acquired) h.kernel :=
    kept.kernel ▸ Kernel.lived_grown k _
  have exits := lived_closeStream fun s held => kept.runs_on (kept.exits s held)
  have queued := lived_closeStream (k := closeStream h.kernel h.exits) (o := h.queued)
    fun s held => ⟨(kept.queued s held).1, exits.rings _ (kept.runs_on (kept.queued s held)).2⟩
  have attachNone : ∀ l ∈ h.probes.reverse, l.isScheduler = false :=
    fun l mem => kept.probes l (List.mem_reverse.mp mem)
  have probes := Handle.lived_detachAll attachNone
    (closeStream (closeStream h.kernel h.exits) h.queued)
  have lived := ((start.trans exits).trans queued).trans probes
  have order : h.got.reverse.map Acquisition.released =
      h.exits.toList.map (.released ·.map) ++ h.queued.toList.map (.released ·.map) ++
        h.probes.reverse.map (.detached ·.label) := by
    cases held : h.exits <;> cases held' : h.queued <;>
      simp [got, held, held', Acquisition.released, Function.comp_def]
  rw [Holding.unwind, Kernel.close_of_loaded (lived.unloaded.trans loaded)]
  refine ⟨?_, rfl, lived.attached⟩
  rw [order]
  simp [Kernel.record, lived.journal]

end Holding

/-! ### The outcome of a load -/

/-- The kernel after a load that acquired `got` and then failed: all of it was given back in
reverse order, and unloading the object came last. -/
structure Kernel.Abandoned (k : Kernel) (artifact : Artifact) (got : List Acquisition)
    (k' : Kernel) : Prop where
  journal : k'.journal = k.journal ++ .loaded artifact.describe ::
    (got.map Acquisition.acquired ++ (got.reverse.map Acquisition.released ++ [.unloaded]))
  unloaded : k'.unloaded = true
  attached : k'.attached = false

/-- The kernel after a load that succeeded: all of the plan is acquired and nothing given back. -/
structure Kernel.Hosts (k : Kernel) (artifact : Artifact) (registry : Registry)
    (k' : Kernel) : Prop where
  journal : k'.journal =
    k.journal ++ .loaded artifact.describe :: registry.plan.map Acquisition.acquired
  unloaded : k'.unloaded = false
  attached : k'.attached = false
  rings : ∀ map ∈ [Contract.queued, Contract.exit, Contract.dispatched],
    (k'.rings.get? map).isSome

/-- A handle as a load leaves it: its probes attached in order, its streams running, and no
scheduler. -/
structure Handle.Loaded (c : Controller) (registry : Registry) (h : Handle) : Prop
    extends Fresh c h where
  probes : h.probes = registry.probes.map fun p => ⟨p.name, false⟩
  registry : h.registry = registry
  state : h.state = .loaded
  attachTried : h.attachTried = false
  scheduler : h.scheduler = none

/-- What a load of an artifact on a kernel can come to. -/
inductive LoadOutcome (c : Controller) (k : Kernel) (artifact : Artifact) :
    Except ControlError Handle × Kernel → Prop
  /-- The object is not handed out, and nothing changes. -/
  | refused {e : ObjectError} (fails : k.load artifact = .error e) :
      LoadOutcome c k artifact (.error (.load e.message), k)
  /-- The object breaks the contract. -/
  | unbound {e : ControlError} {k₁ k' : Kernel} (accepted : k.load artifact = .ok k₁)
      (fails : Registry.build c.config.moduleName k.maps k.programs = .error e)
      (back : k.Abandoned artifact [] k') : LoadOutcome c k artifact (.error e, k')
  /-- An acquisition fails, those before it are given back, and their threads have ended. -/
  | stopped {e : ControlError} {registry : Registry} {k₁ : Kernel} {held : Holding}
      (accepted : k.load artifact = .ok k₁)
      (bound : Registry.build c.config.moduleName k.maps k.programs = .ok registry)
      (enumerated : registry.probes = k.programs.filter ProgramInfo.isProbe)
      (walk : c.acquire registry k₁ = .error (e, held))
      (first : FailsAfter k₁ held.got e registry.plan)
      (back : k.Abandoned artifact held.got held.unwind) (ended : held.Ended) :
      LoadOutcome c k artifact (.error e, held.unwind)
  /-- Nothing fails. -/
  | loaded {h : Handle} {registry : Registry} {k₁ k' : Kernel}
      (accepted : k.load artifact = .ok k₁)
      (bound : Registry.build c.config.moduleName k.maps k.programs = .ok registry)
      (enumerated : registry.probes = k.programs.filter ProgramInfo.isProbe)
      (fine : ∀ a ∈ registry.plan, a.failure k₁ = none)
      (complete : h.Loaded c registry) (hosts : k.Hosts artifact registry k') :
      LoadOutcome c k artifact (.ok h, k')

namespace Controller

variable {c : Controller} {k k₁ : Kernel} {artifact : Artifact} {registry : Registry}

/-- What the kernel is like when it has handed the object out. -/
theorem handedOut (intact : k.Intact) (accepted : k.load artifact = .ok k₁) :
    k₁.journal = k.journal ++ [.loaded artifact.describe] ∧ k₁.unloaded = false ∧
      k₁.attached = false ∧ k₁.maps = k.maps ∧ k₁.programs = k.programs := by
  obtain ⟨fresh, rfl⟩ := Kernel.load_eq_ok accepted
  obtain ⟨loaded, idle⟩ := intact fresh
  exact ⟨rfl, loaded, idle, rfl, rfl⟩

/-- The handle and the kernel at the end of the walk. -/
theorem loaded_of_acquired (intact : k.Intact) (accepted : k.load artifact = .ok k₁)
    (bound : Registry.build c.config.moduleName k.maps k.programs = .ok registry)
    (fine : ∀ a ∈ registry.plan, a.failure k₁ = none) :
    (c.handle k₁ registry).Loaded c registry ∧
      k.Hosts artifact registry (k₁.grown (registry.plan.map Acquisition.acquired)) := by
  obtain ⟨journal, loaded, idle, -, -⟩ := handedOut intact accepted
  obtain ⟨queued, exit, dispatched⟩ := Registry.ring_names bound
  have queuedRing := Acquisition.isSome_ring_of_fine
    (.inl (fine (.events registry.queued.name) (by simp [Registry.plan])))
  have exitRing := Acquisition.isSome_ring_of_fine
    (.inl (fine (.events registry.exit.name) (by simp [Registry.plan])))
  have dispatchedRing := Acquisition.isSome_ring_of_fine
    (.inr (fine (.decisions registry.dispatched.name) (by simp [Registry.plan])))
  -- the registry has its rings under the names of the contract
  rw [queued] at queuedRing
  rw [exit] at exitRing
  rw [dispatched] at dispatchedRing
  constructor
  · exact
      { closed := rfl
        teardown := rfl
        queued := ⟨_, by rw [handle, queued]; rfl⟩
        exits := ⟨_, by rw [handle, exit]; rfl⟩
        dispatch := by rw [handle, dispatched]; rfl
        probes := rfl
        registry := rfl
        state := rfl
        attachTried := rfl
        scheduler := rfl }
  · refine ⟨by simp [Kernel.grown, journal], loaded, idle, fun map mem => ?_⟩
    simp only [List.mem_cons, List.not_mem_nil, or_false] at mem
    rcases mem with rfl | rfl | rfl
    · exact queuedRing
    · exact exitRing
    · exact dispatchedRing

/-- A load whose registry is built comes to what its walk comes to. -/
theorem load_of_bound (accepted : k.load artifact = .ok k₁)
    (bound : Registry.build c.config.moduleName k.maps k.programs = .ok registry) :
    (∀ e held, c.acquire registry k₁ = .error (e, held) →
      c.load k artifact = (.error e, held.unwind)) ∧
    ∀ k' h, c.acquire registry k₁ = .ok (k', h) → c.load k artifact = (.ok h, k') := by
  have same : Registry.build c.config.moduleName k₁.maps k₁.programs = .ok registry := by
    obtain ⟨-, rfl⟩ := Kernel.load_eq_ok accepted
    exact bound
  constructor
  · intro e held walk
    simp only [load, accepted, same, walk]
  · intro k' h walk
    simp only [load, accepted, same, walk]

/-- The way of a load that succeeds. -/
theorem load_eq_ok {h : Handle} {k' : Kernel} (succeeds : c.load k artifact = (.ok h, k')) :
    ∃ k₁ registry, k.load artifact = .ok k₁ ∧
      Registry.build c.config.moduleName k.maps k.programs = .ok registry ∧
      (∀ a ∈ registry.plan, a.failure k₁ = none) ∧ h = c.handle k₁ registry ∧
      k' = k₁.grown (registry.plan.map Acquisition.acquired) := by
  rcases accepted : k.load artifact with e | k₁
  · rw [load, accepted] at succeeds
    cases succeeds
  · rcases bound : Registry.build c.config.moduleName k.maps k.programs with e | registry
    · have same : Registry.build c.config.moduleName k₁.maps k₁.programs = .error e := by
        obtain ⟨-, rfl⟩ := Kernel.load_eq_ok accepted
        exact bound
      simp only [load, accepted, same] at succeeds
      cases succeeds
    · obtain ⟨stops, goes⟩ := load_of_bound accepted bound
      rcases c.acquire_cases registry k₁ with ⟨e, held, -, -, walk⟩ | ⟨fine, walk⟩
      · rw [stops _ _ walk] at succeeds
        cases succeeds
      · rw [goes _ _ walk] at succeeds
        cases succeeds
        exact ⟨k₁, registry, rfl, rfl, fine, rfl, rfl⟩

/-- What a load that succeeds leaves. -/
theorem loaded_of_load {h : Handle} {k' : Kernel} (intact : k.Intact)
    (succeeds : c.load k artifact = (.ok h, k')) :
    ∃ registry, Registry.build c.config.moduleName k.maps k.programs = .ok registry ∧
      h.Loaded c registry ∧ k.Hosts artifact registry k' := by
  obtain ⟨k₁, registry, accepted, bound, fine, rfl, rfl⟩ := load_eq_ok succeeds
  exact ⟨registry, bound, loaded_of_acquired intact accepted bound fine⟩

/-- The subprograms of a handle that was just loaded are those of the contract, not run yet. -/
theorem invoker_of_load {h : Handle} {k' : Kernel} (succeeds : c.load k artifact = (.ok h, k')) :
    h.invoker = .new (some Contract.selectCpu) (some Contract.siblingCpu) := by
  obtain ⟨k₁, registry, -, bound, -, rfl, -⟩ := load_eq_ok succeeds
  obtain ⟨select, sibling⟩ := Registry.program_names bound
  rw [← select, ← sibling]
  rfl

/-- **Loading is all or nothing.**  If nothing fails, the handle is complete and holds all of
`plan`.  Otherwise the error is that of the first acquisition that fails, and those before it are
given back, newest first: each probe detached, each ring released after its thread has ended, the
object unloaded last.  If the object is not handed out or breaks the contract, nothing was
acquired. -/
theorem load_all_or_nothing (c : Controller) (k : Kernel) (intact : k.Intact)
    (artifact : Artifact) : LoadOutcome c k artifact (c.load k artifact) := by
  unfold load
  rcases accepted : k.load artifact with e | k₁
  · exact .refused accepted
  · obtain ⟨journal, loaded, idle, maps, programs⟩ := handedOut intact accepted
    simp only
    rw [maps, programs]
    rcases bound : Registry.build c.config.moduleName k.maps k.programs with e | registry
    · refine .unbound accepted bound ?_
      rw [Kernel.close_of_loaded loaded]
      exact ⟨by simp [Kernel.record, journal], rfl, idle⟩
    · simp only
      have enumerated := Registry.probes_eq bound
      rcases c.acquire_cases registry k₁ with ⟨e, held, first, kept, walk⟩ | ⟨fine, walk⟩
      · rw [walk]
        obtain ⟨entries, unloaded, attached⟩ := kept.unwind loaded
        refine .stopped accepted bound enumerated walk first ⟨?_, unloaded, ?_⟩ kept.ended
        · rw [entries, journal]
          simp
        · rw [attached, idle]
      · rw [walk]
        obtain ⟨complete, hosts⟩ := loaded_of_acquired intact accepted bound fine
        exact .loaded accepted bound enumerated fine complete hosts

/-- A controller with the standard configuration. -/
def plain : Controller where
  config := .standard
  residency := ⟨.disabled, false⟩

/-- An object with a task waiting.  Opening its dispatch ring ends the thread that does it, and
detaching its first probe and unloading it report errors. -/
def hindered : Kernel :=
  (Kernel.enqueueTask
    (Blueprint.standard.build
      { openPanics := [Contract.dispatched]
        detachErrors := [("kprobe_handle_mm_fault", .detachFailed "busy")]
        closeError := some .notAvailable })
    ⟨1, 2, 3⟩).2

/-- Opening the dispatch ring panics: both event rings are released and both probes detached in
reverse order, errors notwithstanding, and the object is unloaded last. -/
theorem load_all_or_nothing_dispatchPanics :
    let r := plain.load hindered (.path "policy.o")
    LoadOutcome plain hindered (.path "policy.o") r ∧
      r.2.journal =
        [.loaded "policy.o", .attached "kprobe_handle_mm_fault",
          .attached "kretprobe_handle_mm_fault", .opened "queued", .opened "exit_rb",
          .released "exit_rb", .released "queued", .detached "kretprobe_handle_mm_fault",
          .detached "kprobe_handle_mm_fault", .unloaded] :=
  ⟨load_all_or_nothing plain hindered (fun _ => ⟨rfl, rfl⟩) _, by decide +kernel⟩

end Controller

end SchedPlane
