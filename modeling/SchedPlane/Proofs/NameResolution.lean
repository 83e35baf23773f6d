/-
SchedPlane/Proofs/NameResolution.lean

Whether the maps of a registry are those that their names lead to.

A registry binds maps, but what the controller hands to the object afterwards are their names, and
the object takes the first map of a name.  For the roles that are bound by name the two agree, up to
one exception: the struct-ops map is bound by its kind, under any name, and may stand in the way
(`Registry.Binds.leads_cases`).  The name of the struct-ops map itself may be that of any other map.
So `Registry.Resolves` is a condition on the struct-ops map alone, `resolves_iff`.

A ring that its name does not lead to cannot be bound, and such a load fails; but the scheduler is
looked up only when it is attached, and then it is too late.

Main result: `name_resolution`.
-/
import SchedPlane.Proofs.HandleLife

namespace SchedPlane

namespace Kernel

variable {k : Kernel} {name : String} {m : MapInfo}

theorem map_eq_ok : k.map name = .ok m ↔ (k.maps.find? fun m => m.name = name) = some m := by
  unfold map
  split
  · next found => rw [found, Except.ok.injEq, Option.some.injEq]
  · next none => simp [none]

/-- What attaching a scheduler comes to when its name leads somewhere. -/
theorem attachScheduler_of_map (loaded : k.unloaded = false) (found : k.map name = .ok m) :
    k.attachScheduler name =
      if m.kind ≠ .structOps then .error (.attachFailed s!"{name} is not a struct-ops map")
      else if name ∈ k.failingAttach then
        .error (.attachFailed s!"simulated struct-ops attach failure for {name}")
      else if k.attached then .error (.attachFailed "a scheduler is already attached")
      else .ok (⟨name, true⟩, { k with attached := true }.record (.schedulerAttached name)) := by
  simp only [attachScheduler, ensureLoaded, loaded, found, bind, Except.bind]
  rfl

end Kernel

/-! ### Rings of a built object -/

namespace Blueprint

theorem mem_of_mem_mapInfos {m : MapInfo} {maps : List (String × MapKind)} :
    ∀ {fd : Nat}, m ∈ mapInfos fd maps → (m.name, m.kind) ∈ maps := by
  induction maps with
  | nil => exact nofun
  | cons entry rest ih =>
    intro fd mem
    rcases List.mem_cons.mp mem with rfl | mem
    · exact List.mem_cons_self
    · exact List.mem_cons_of_mem entry (ih mem)

/-- Building an object gives each of its maps a ring of its own. -/
theorem isSome_foldl_set {name : String} {ring : Ring} {maps : List (String × MapKind)} :
    ∀ {t : Table Ring}, (t.get? name).isSome ∨ name ∈ maps.map Prod.fst →
      ((maps.foldl (fun t m => t.set m.1 ring) t).get? name).isSome := by
  induction maps with
  | nil => exact fun present => present.resolve_right List.not_mem_nil
  | cons m rest ih =>
    intro t present
    apply ih
    show ((t.set m.1 ring).get? name).isSome ∨ name ∈ rest.map Prod.fst
    by_cases here : m.1 = name
    · left
      rw [here, Table.get?_set_self]
      rfl
    · rw [Table.get?_set_of_ne here]
      exact present.imp_right fun mem => (List.mem_cons.mp mem).resolve_left (Ne.symm here)

/-- Every ring map of a built object has a ring. -/
theorem isSome_ring_build {p : Blueprint} {faults : Faults} {m : MapInfo}
    (mem : m ∈ (p.build faults).maps) (ring : m.kind.isRing = true) :
    ((p.build faults).rings.get? m.name).isSome := by
  apply isSome_foldl_set
  right
  have planned : (m.name, m.kind) ∈ p.maps := mem_of_mem_mapInfos mem
  exact List.mem_map.mpr ⟨_, List.mem_filter.mpr ⟨planned, ring⟩, rfl⟩

end Blueprint

/-! ### Names -/

namespace Registry

variable {module : String} {k : Kernel} {r : Registry} {m : MapInfo} {role : MapRole}

/-- The names of the bound maps differ, and each leads to its map. -/
structure Resolves (k : Kernel) (r : Registry) : Prop where
  apart : Function.Injective fun role => (r.map role).name
  leads : ∀ role, k.map (r.map role).name = .ok (r.map role)

section Binds

variable (binds : r.Binds module k.maps k.programs)

include binds

/-- Where the names of bound maps lead: to a map of that name. -/
theorem Binds.exists_map (role : MapRole) :
    ∃ m ∈ k.maps, k.map (r.map role).name = .ok m ∧ m.name = (r.map role).name := by
  have some : (k.maps.find? fun m => m.name = (r.map role).name).isSome := by
    rw [List.find?_isSome]
    exact ⟨r.map role, binds.mem_maps role, by simp⟩
  obtain ⟨m, found⟩ := Option.isSome_iff_exists.mp some
  exact ⟨m, List.mem_of_find?_eq_some found, Kernel.map_eq_ok.mpr found,
    by simpa using List.find?_some found⟩

/-- A map that is bound by name has the name of its role. -/
theorem Binds.name_eq (named : role ≠ .structOps) : (r.map role).name = role.label module :=
  ((MapRole.fills_iff named).mp (binds.fills role)).2

/-- **The name of a map that is bound by name** leads to it, or else to the struct-ops map, which
then has that name. -/
theorem Binds.leads_cases (named : role ≠ .structOps) :
    k.map (r.map role).name = .ok (r.map role) ∨
      k.map (r.map role).name = .ok r.structOps ∧ r.structOps.name = (r.map role).name := by
  obtain ⟨m, mem, found, name⟩ := binds.exists_map role
  by_cases attach : m.kind = .structOps
  · have fills : MapRole.Fills module .structOps m := attach
    obtain rfl : m = r.structOps := binds.eq_of_fills mem fills
    exact .inr ⟨found, name⟩
  · left
    have fills : role.Fills module m :=
      (MapRole.fills_iff named).mpr ⟨attach, name.trans (binds.name_eq named)⟩
    rw [found, binds.eq_of_fills mem fills]

/-- A map found under the name of the struct-ops map is that map if it has its kind. -/
theorem Binds.leads_structOps_iff (found : k.map r.structOps.name = .ok m) :
    k.map r.structOps.name = .ok r.structOps ↔ m.kind = .structOps := by
  have attach : r.structOps.kind = .structOps := binds.fills .structOps
  constructor
  · intro leads
    rw [found, Except.ok.injEq] at leads
    rw [leads]
    exact attach
  · intro kind
    have mem := List.mem_of_find?_eq_some (Kernel.map_eq_ok.mp found)
    have fills : MapRole.Fills module .structOps m := kind
    have same : m = r.structOps := binds.eq_of_fills mem fills
    rw [found, same]

/-- All names resolve just if the struct-ops map has no name that another role has, and is the first
of its own. -/
theorem Binds.resolves_iff : r.Resolves k ↔
    (∀ role : MapRole, role ≠ .structOps → r.structOps.name ≠ role.label module) ∧
      k.map r.structOps.name = .ok r.structOps := by
  constructor
  · intro resolves
    refine ⟨fun role named same => named ?_, resolves.leads .structOps⟩
    apply resolves.apart
    exact (binds.name_eq named).trans same.symm
  · rintro ⟨free, leads⟩
    refine ⟨?_, fun role => ?_⟩
    · -- roles with labels differ by these; the struct-ops map has a name of its own (`free`)
      intro role other same
      by_cases named : role = .structOps <;> by_cases named' : other = .structOps
      · rw [named, named']
      · subst named
        exact absurd (same.trans (binds.name_eq named')) (free other named')
      · subst named'
        exact absurd (same.symm.trans (binds.name_eq named)) (free role named)
      · apply MapRole.label_injective module
        rw [← binds.name_eq named, ← binds.name_eq named']
        exact same
    · by_cases named : role = .structOps
      · subst named
        exact leads
      · rcases binds.leads_cases named with exact' | ⟨-, same⟩
        · exact exact'
        · exact absurd (same.trans (binds.name_eq named)) (free role named)

end Binds

end Registry

/-! ### Rings -/

namespace Registry

variable {module : String} {k k₁ : Kernel} {r : Registry} {role : MapRole}

/-- The roles whose rings a load binds. -/
def ringRoles : List MapRole :=
  [.queued, .exit, .dispatched]

/-- The acquisition of a ring. -/
def acquisition (r : Registry) : MapRole → Acquisition
  | .dispatched => .decisions r.dispatched.name
  | role => .events (r.map role).name

theorem mem_plan_of_ring (ring : role ∈ ringRoles) : r.acquisition role ∈ r.plan := by
  simp only [ringRoles, List.mem_cons, List.not_mem_nil, or_false] at ring
  rcases ring with rfl | rfl | rfl <;> simp [acquisition, plan, Registry.map]

/-- What a load acquires are probes, and rings of the roles. -/
theorem mem_plan_cases {a : Acquisition} (mem : a ∈ r.plan) :
    (∃ name, a = .probe name) ∨ ∃ role ∈ ringRoles, a = r.acquisition role := by
  rcases List.mem_append.mp mem with probe | ring
  · obtain ⟨p, -, rfl⟩ := List.mem_map.mp probe
    exact .inl ⟨p.name, rfl⟩
  · right
    simp only [List.mem_cons, List.not_mem_nil, or_false] at ring
    rcases ring with rfl | rfl | rfl
    · exact ⟨.queued, by decide, rfl⟩
    · exact ⟨.exit, by decide, rfl⟩
    · exact ⟨.dispatched, by decide, rfl⟩

/-- A ring that is bound has the kind of its role, which is that of a ring. -/
theorem kind_of_ring {maps : List MapInfo} {programs : List ProgramInfo}
    (built : build module maps programs = .ok r) (ring : role ∈ ringRoles) :
    role.requiredKind = some (r.map role).kind ∧ (r.map role).kind.isRing = true := by
  have meets := meets_of_build built
  have fills := (binds_of_build built).fills role
  have mem := (binds_of_build built).mem_maps role
  simp only [ringRoles, List.mem_cons, List.not_mem_nil, or_false] at ring
  rcases ring with rfl | rfl | rfl
  · rw [meets.queued _ mem fills]
    exact ⟨rfl, rfl⟩
  · rw [meets.exit _ mem fills]
    exact ⟨rfl, rfl⟩
  · rw [meets.dispatched _ mem fills]
    exact ⟨rfl, rfl⟩

/-- Acquiring a ring means binding it under the name and the kind of its map, and opening it. -/
theorem failure_acquisition (ring : role ∈ ringRoles)
    (kind : role.requiredKind = some (r.map role).kind) :
    (r.acquisition role).failure k = none ↔
      k.bindRing (r.map role).name (r.map role).kind = .ok () ∧
        ∃ k', k.openRing (r.map role).name = .ok k' := by
  simp only [ringRoles, List.mem_cons, List.not_mem_nil, or_false] at ring
  rcases ring with rfl | rfl | rfl <;> rw [← Option.some.inj kind] <;>
    exact Acquisition.ringFailure_eq_none

/-- **A ring of an object without faults is acquired** just if its name leads to it. -/
theorem ring_fine_iff {p : Blueprint} {artifact : Artifact}
    (built : build module p.build.maps p.build.programs = .ok r)
    (accepted : p.build.load artifact = .ok k₁) (ring : role ∈ ringRoles) :
    (r.acquisition role).failure k₁ = none ↔
      p.build.map (r.map role).name = .ok (r.map role) := by
  have binds : r.Binds module p.build.maps p.build.programs := binds_of_build built
  obtain ⟨kind, isRing⟩ := kind_of_ring built ring
  obtain ⟨-, rfl⟩ := Kernel.load_eq_ok accepted
  rw [failure_acquisition ring kind, Kernel.bindRing_eq_ok]
  constructor
  · rintro ⟨⟨-, ⟨m, found, right⟩, -⟩, -⟩
    have named : role ≠ .structOps := by
      rintro rfl
      cases kind
    rcases binds.leads_cases named with leads | ⟨leads, -⟩
    · exact leads
    · -- the struct-ops map has not the kind of a ring
      have same : m = r.structOps := Except.ok.inj (found.symm.trans leads)
      have attach : r.structOps.kind = .structOps := binds.fills .structOps
      rw [← right, same, attach] at isRing
      cases isRing
  · intro leads
    have exists' := Blueprint.isSome_ring_build (binds.mem_maps role) isRing
    exact ⟨⟨rfl, ⟨_, leads, rfl⟩, exists'⟩, _, rfl⟩

end Registry

/-! ### Loading and attaching -/

/-- The failure of an attach that the kernel refuses for a reason. -/
def Registry.attachError (r : Registry) (reason : String) : ControlError :=
  .attach s!"{r.structOps.name}: {(ObjectError.attachFailed reason).message}"

/-- What the first attach comes to: the map that the name leads to decides. -/
theorem Handle.attach_of_map {k : Kernel} {h : Handle} {m : MapInfo} (asks : h.asks = true)
    (loaded : k.unloaded = false) (idle : k.attached = false)
    (found : k.map h.registry.structOps.name = .ok m) :
    (h.attach k).1 =
      if m.kind ≠ .structOps then
        .error (h.registry.attachError s!"{h.registry.structOps.name} is not a struct-ops map")
      else if h.registry.structOps.name ∈ k.failingAttach then
        .error (h.registry.attachError
          s!"simulated struct-ops attach failure for {h.registry.structOps.name}")
      else .ok () := by
  have scheduler := Kernel.attachScheduler_of_map loaded found
  rw [idle, if_neg Bool.false_ne_true] at scheduler
  rcases attach_of_asks asks k with ⟨e, refuses, answer⟩ | ⟨l, k', grants, -, answer⟩
  · rw [scheduler] at refuses
    rw [answer]
    split_ifs at refuses ⊢ <;> cases refuses <;> rfl
  · rw [scheduler] at grants
    rw [answer]
    split_ifs at grants ⊢
    rfl

namespace Controller

variable {c : Controller} {p : Blueprint} {artifact : Artifact} {r : Registry} {h : Handle}
  {k' : Kernel}

/-- A load fails at a ring only if the name of a ring does not lead to it. -/
theorem exists_astray_of_channel {reason : String}
    (built : Registry.build c.config.moduleName p.build.maps p.build.programs = .ok r)
    (fails : (c.load p.build artifact).1 = .error (.channel reason)) :
    ∃ role ∈ Registry.ringRoles, p.build.map (r.map role).name ≠ .ok (r.map role) := by
  rcases accepted : p.build.load artifact with e | k₁
  · rw [load, accepted] at fails
    cases fails
  · obtain ⟨stops, goes⟩ := load_of_bound accepted built
    rcases c.acquire_cases r k₁ with ⟨e, held, ⟨a, rest, plan, -, failure, blames⟩, -, walk⟩ |
      ⟨-, walk⟩
    · rw [stops _ _ walk] at fails
      obtain rfl : e = .channel reason := Except.error.inj fails
      have mem : a ∈ r.plan := by simp [plan]
      rcases Registry.mem_plan_cases mem with ⟨name, rfl⟩ | ⟨role, ring, rfl⟩
      · obtain ⟨_, other⟩ := blames
        cases other
      · refine ⟨role, ring, fun leads => ?_⟩
        rw [(Registry.ring_fine_iff built accepted ring).mpr leads] at failure
        cases failure
    · rw [goes _ _ walk] at fails
      cases fails

/-- The names of the rings lead to them in every object that is loaded. -/
theorem leads_of_load
    (built : Registry.build c.config.moduleName p.build.maps p.build.programs = .ok r)
    (loaded : c.load p.build artifact = (.ok h, k')) :
    ∀ role ∈ Registry.ringRoles, p.build.map (r.map role).name = .ok (r.map role) := by
  intro role ring
  obtain ⟨k₁, registry, accepted, bound, fine, -, -⟩ := load_eq_ok loaded
  obtain rfl := Except.ok.inj (bound.symm.trans built)
  exact (Registry.ring_fine_iff bound accepted ring).mp (fine _ (Registry.mem_plan_of_ring ring))

/-- **The first attach** goes to the map that the name of the struct-ops map leads to. -/
theorem attach_of_load
    (built : Registry.build c.config.moduleName p.build.maps p.build.programs = .ok r)
    (loaded : c.load p.build artifact = (.ok h, k')) :
    (h.attach k').1 =
      if p.build.map r.structOps.name ≠ .ok r.structOps then
        .error (r.attachError s!"{r.structOps.name} is not a struct-ops map")
      else if r.structOps.name ∈ p.failingAttach then
        .error (r.attachError s!"simulated struct-ops attach failure for {r.structOps.name}")
      else .ok () := by
  obtain ⟨k₁, registry, accepted, bound, -, rfl, rfl⟩ := load_eq_ok loaded
  obtain rfl := Except.ok.inj (bound.symm.trans built)
  obtain ⟨-, rfl⟩ := Kernel.load_eq_ok accepted
  have binds : registry.Binds _ p.build.maps p.build.programs := Registry.binds_of_build bound
  obtain ⟨m, -, found, -⟩ := binds.exists_map .structOps
  have leads := binds.leads_structOps_iff found
  -- the kernel after the load has the maps of the object, and no scheduler
  rw [Handle.attach_of_map rfl rfl rfl found]
  exact if_congr (not_congr leads.symm) rfl rfl

end Controller

/-! ### The two views -/

/-- **Names and bound maps.**  The five maps that are bound by name have different names, and each
name leads to its map or to a struct-ops map of that name; all names resolve just if the struct-ops
map has none of the five names and is the first of its own.  A load without faults fails at no
ring unless the name of one leads astray, and then it does not succeed.  But the name of the
struct-ops map is looked up only at the attach, which is refused if it leads to another map. -/
theorem name_resolution {module : String} {p : Blueprint} {r : Registry}
    (built : Registry.build module p.build.maps p.build.programs = .ok r) :
    (∀ role other : MapRole, role ≠ .structOps → other ≠ .structOps →
      (r.map role).name = (r.map other).name → role = other) ∧
    (∀ role : MapRole, role ≠ .structOps →
      p.build.map (r.map role).name = .ok (r.map role) ∨
        p.build.map (r.map role).name = .ok r.structOps ∧
          r.structOps.name = (r.map role).name) ∧
    (r.Resolves p.build ↔
      (∀ role : MapRole, role ≠ .structOps → r.structOps.name ≠ role.label module) ∧
        p.build.map r.structOps.name = .ok r.structOps) ∧
    ∀ (c : Controller) (artifact : Artifact), c.config.moduleName = module →
      (∀ reason, (c.load p.build artifact).1 = .error (.channel reason) →
        ∃ role ∈ Registry.ringRoles, p.build.map (r.map role).name ≠ .ok (r.map role)) ∧
      ∀ h k', c.load p.build artifact = (.ok h, k') →
        (∀ role ∈ Registry.ringRoles, p.build.map (r.map role).name = .ok (r.map role)) ∧
        (h.attach k').1 =
          if p.build.map r.structOps.name ≠ .ok r.structOps then
            .error (r.attachError s!"{r.structOps.name} is not a struct-ops map")
          else if r.structOps.name ∈ p.failingAttach then
            .error (r.attachError s!"simulated struct-ops attach failure for {r.structOps.name}")
          else .ok () := by
  have binds : r.Binds module p.build.maps p.build.programs := Registry.binds_of_build built
  refine ⟨?_, fun role named => binds.leads_cases named, binds.resolves_iff, ?_⟩
  · intro role other named named' same
    rw [binds.name_eq named, binds.name_eq named'] at same
    exact MapRole.label_injective module same
  · rintro c artifact rfl
    refine ⟨fun reason fails => Controller.exists_astray_of_channel built fails, ?_⟩
    intro h k' loaded
    exact ⟨Controller.leads_of_load built loaded, Controller.attach_of_load built loaded⟩

/-- A standard object whose struct-ops map has the name of the ring of queued tasks. -/
def borrowedName : Blueprint :=
  (Blueprint.standard.without "sched_ops").map Contract.queued .structOps

def borrowedRegistry : Registry :=
  (Registry.build Contract.moduleName borrowedName.build.maps
    borrowedName.build.programs).toOption.get (by decide +kernel)

def borrowedLoad : Load where
  controller := .plain
  object := borrowedName.build
  succeeds := by decide +kernel

/-- The ring comes first, so it is bound; but the attach finds it, too. -/
theorem name_resolution_borrowedName :
    Registry.build Contract.moduleName borrowedName.build.maps borrowedName.build.programs =
        .ok borrowedRegistry ∧
      Controller.plain.load borrowedName.build (.path "policy.o") =
        (.ok borrowedLoad.handle, borrowedLoad.kernel) ∧
      ¬ borrowedRegistry.Resolves borrowedName.build ∧
      (borrowedLoad.handle.attach borrowedLoad.kernel).1 =
        .error (.attach "queued: Failed to attach: queued is not a struct-ops map") := by
  have built : Registry.build Contract.moduleName borrowedName.build.maps
      borrowedName.build.programs = .ok borrowedRegistry := by decide +kernel
  obtain ⟨-, -, resolves, loads⟩ := name_resolution built
  refine ⟨built, borrowedLoad.loaded, fun all => ?_, ?_⟩
  · have free := (resolves.mp all).1 .queued (by decide)
    exact free (by decide +kernel)
  · obtain ⟨-, attach⟩ := (loads Controller.plain _ rfl).2 _ _ borrowedLoad.loaded
    rw [attach, if_pos (by decide +kernel)]
    decide +kernel

/-- A standard object with an array, which the contract does not know, before the struct-ops map and
of its name. -/
def shadowedName : Blueprint :=
  ((Blueprint.standard.without "sched_ops").map "sched_ops" .array).map "sched_ops" .structOps

def shadowedRegistry : Registry :=
  (Registry.build Contract.moduleName shadowedName.build.maps
    shadowedName.build.programs).toOption.get (by decide +kernel)

def shadowedLoad : Load where
  controller := .plain
  object := shadowedName.build
  succeeds := by decide +kernel

/-- The object is accepted and loaded with its struct-ops map bound, but the attach goes to the
array. -/
theorem name_resolution_shadowedName :
    Registry.build Contract.moduleName shadowedName.build.maps shadowedName.build.programs =
        .ok shadowedRegistry ∧
      shadowedRegistry.structOps.kind = .structOps ∧
      shadowedName.build.map shadowedRegistry.structOps.name ≠ .ok shadowedRegistry.structOps ∧
      Controller.plain.load shadowedName.build (.path "policy.o") =
        (.ok shadowedLoad.handle, shadowedLoad.kernel) ∧
      (shadowedLoad.handle.attach shadowedLoad.kernel).1 =
        .error (.attach "sched_ops: Failed to attach: sched_ops is not a struct-ops map") :=
  ⟨by decide +kernel, by decide +kernel, by decide +kernel, shadowedLoad.loaded,
    by decide +kernel⟩

end SchedPlane
