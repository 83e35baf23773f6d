/-
SchedPlane/Proofs/Loading.lean

What a load that succeeds has done.

A registry gives every role but the struct-ops map to a map of the name of the role
(`Registry.Binds`), so the three streams of a new handle run on the rings that the kernel's side
reads and writes.  Loading opens these rings and touches none of their records; `load_fresh` puts
both together.
-/
import SchedPlane.Controller
import SchedPlane.Proofs.EventFlow
import SchedPlane.Proofs.DispatchFlow
import SchedPlane.Proofs.RegistryContract

namespace SchedPlane

/-! ### Chains of steps that may fail -/

section Chains

variable {ε ε' α β : Type}

theorem bind_eq_ok {x : Except ε α} {f : α → Except ε β} {b : β} :
    x >>= f = .ok b ↔ ∃ a, x = .ok a ∧ f a = .ok b := by
  cases x with
  | error e => simp [bind, Except.bind]
  | ok a => simp [bind, Except.bind]

theorem mapError_ok (f : ε → ε') (a : α) : (Except.ok a).mapError f = .ok a :=
  rfl

theorem mapError_error (f : ε → ε') (e : ε) :
    (Except.error e : Except ε α).mapError f = .error (f e) :=
  rfl

theorem mapError_eq_ok {x : Except ε α} {f : ε → ε'} {a : α} :
    x.mapError f = .ok a ↔ x = .ok a := by
  cases x <;> simp [mapError_ok, mapError_error]

theorem eq_ok_get {x : Except ε α} (succeeds : x.toOption.isSome = true) :
    x = .ok (x.toOption.get succeeds) := by
  cases x with
  | error e => cases succeeds
  | ok a => rfl

end Chains

/-! ### Names -/

/-- Whether a program of an object is a probe that a load attaches. -/
def ProgramInfo.isProbe (p : ProgramInfo) : Bool :=
  ProgramRole.ofProgram p = some .probe

namespace Registry

variable {module : String} {maps : List MapInfo} {programs : List ProgramInfo} {r : Registry}

/-- The probes of a registry are those of the enumeration, in its order. -/
theorem probes_eq (h : build module maps programs = .ok r) :
    r.probes = programs.filter ProgramInfo.isProbe := by
  rw [(binds_of_build h).probes]
  refine List.filter_congr fun p _ => ?_
  simp only [ProgramInfo.isProbe, ProgramRole.ofProgram_eq_some_iff, ProgramRole.Fills]

/-- The rings of a registry have the names of the contract. -/
theorem ring_names (h : build module maps programs = .ok r) :
    r.queued.name = Contract.queued ∧ r.exit.name = Contract.exit ∧
      r.dispatched.name = Contract.dispatched := by
  have binds := binds_of_build h
  exact ⟨(binds.fills .queued).2, (binds.fills .exit).2, (binds.fills .dispatched).2⟩

/-- The subprograms of a registry have the names of the contract. -/
theorem program_names (h : build module maps programs = .ok r) :
    r.selectCpu.name = Contract.selectCpu ∧ r.siblingCpu.name = Contract.siblingCpu := by
  have selectCpu := of_filter_eq_singleton (binds_of_build h).selectCpu
  have siblingCpu := of_filter_eq_singleton (binds_of_build h).siblingCpu
  exact ⟨selectCpu, siblingCpu⟩

end Registry

/-! ### Starting -/

namespace Holding

/-- Attaching probes touches no ring. -/
theorem keepsRings_attachProbes {names : List String} :
    ∀ {held held' : Holding}, attachProbes held names = .ok held' →
      Kernel.KeepsRings held.kernel held'.kernel := by
  induction names with
  | nil =>
    intro held held' h
    cases h
    exact .refl _
  | cons name rest ih =>
    intro held held' h
    rw [attachProbes] at h
    split at h
    · next attached => exact (Kernel.keepsRings_attachProgram attached).trans (ih h)
    · cases h

end Holding

/-- An event stream that has started has its ring, and nothing in its queue. -/
theorem startEvents_eq_ok {α : Type} {k k' : Kernel} {map : String} {t : Tuning}
    {s : EventStream α} (h : startEvents α k map t = .ok (k', s)) :
    Kernel.KeepsRings k k' ∧
      s = { name := map, map, capacity := t.room, failingPolls := k.failingPolls map } := by
  unfold startEvents at h
  split at h
  · cases h
  · exact EventStream.start_eq_ok h

/-- A dispatch stream that has started has its ring, and nothing in its queue. -/
theorem startDispatch_eq_ok {k k' : Kernel} {map : String} {t : Tuning} {s : DispatchStream}
    (h : startDispatch k map t = .ok (k', s)) :
    Kernel.KeepsRings k k' ∧ s = { name := map, map, capacity := t.room } := by
  unfold startDispatch at h
  split at h
  · cases h
  · exact DispatchStream.start_eq_ok h

/-- A handle that was just loaded by a controller: open, with its three streams new. -/
structure Fresh (c : Controller) (h : Handle) : Prop where
  closed : h.closed = false
  teardown : h.teardown = .notBegun
  queued : ∃ polls, h.queued =
    { name := Contract.queued, map := Contract.queued, capacity := c.config.queued.room,
      failingPolls := polls }
  exits : ∃ polls, h.exits =
    { name := Contract.exit, map := Contract.exit, capacity := c.config.exit.room,
      failingPolls := polls }
  dispatch : h.dispatch =
    { name := Contract.dispatched, map := Contract.dispatched, capacity := c.config.dispatch.room }

namespace Controller

/-- A walk through all acquisitions gives a fresh handle and takes no record out of a ring. -/
theorem acquire_fresh {c : Controller} {registry : Registry} {k k' : Kernel} {h : Handle}
    (names : registry.queued.name = Contract.queued ∧ registry.exit.name = Contract.exit ∧
      registry.dispatched.name = Contract.dispatched)
    (acquired : c.acquire registry k = .ok (k', h)) : Kernel.KeepsRings k k' ∧ Fresh c h := by
  obtain ⟨nameQueued, nameExit, nameDispatched⟩ := names
  obtain ⟨held, attached, started⟩ := bind_eq_ok.mp acquired
  unfold startChannels at started
  rw [nameQueued, nameExit, nameDispatched] at started
  -- one channel after the other
  obtain ⟨⟨k₁, queued⟩, first, started⟩ := bind_eq_ok.mp started
  obtain ⟨⟨k₂, exits⟩, second, started⟩ := bind_eq_ok.mp started
  obtain ⟨⟨k₃, dispatch⟩, third, done⟩ := bind_eq_ok.mp started
  obtain ⟨keeps₁, rfl⟩ := startEvents_eq_ok (mapError_eq_ok.mp first)
  obtain ⟨keeps₂, rfl⟩ := startEvents_eq_ok (mapError_eq_ok.mp second)
  obtain ⟨keeps₃, rfl⟩ := startDispatch_eq_ok (mapError_eq_ok.mp third)
  cases done
  refine ⟨?_, ⟨rfl, rfl, ⟨_, rfl⟩, ⟨_, rfl⟩, rfl⟩⟩
  exact (Holding.keepsRings_attachProbes attached).trans (keeps₁.trans (keeps₂.trans keeps₃))

/-- **A load that succeeds** gives a fresh handle and takes no record out of a ring. -/
theorem load_fresh {c : Controller} {k k' : Kernel} {artifact : Artifact} {h : Handle}
    (loaded : c.load k artifact = (.ok h, k')) : Kernel.KeepsRings k k' ∧ Fresh c h := by
  unfold load at loaded
  split at loaded
  · cases loaded
  · next k₁ handedOut =>
    split at loaded
    · cases loaded
    · next registry bound =>
      split at loaded
      · cases loaded
      · next acquired =>
        cases loaded
        obtain ⟨keeps, fresh⟩ := acquire_fresh (Registry.ring_names bound) acquired
        exact ⟨(Kernel.keepsRings_load handedOut).trans keeps, fresh⟩

end Controller

/-- A load that succeeds: who loads, which object, and from where. -/
structure Load where
  controller : Controller
  object : Kernel
  artifact : Artifact := .path "policy.o"
  succeeds : (controller.load object artifact).1.toOption.isSome = true

namespace Load

/-- The kernel that the load leaves. -/
def kernel (l : Load) : Kernel :=
  (l.controller.load l.object l.artifact).2

/-- The handle that the load gives. -/
def handle (l : Load) : Handle :=
  (l.controller.load l.object l.artifact).1.toOption.get l.succeeds

/-- The load gives its handle and leaves its kernel. -/
theorem loaded (l : Load) :
    l.controller.load l.object l.artifact = (.ok l.handle, l.kernel) :=
  Prod.ext (eq_ok_get l.succeeds) rfl

end Load

end SchedPlane
