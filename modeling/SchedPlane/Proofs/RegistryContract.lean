/-
SchedPlane/Proofs/RegistryContract.lean

Which enumerations a registry is built from, and what a build that fails reports.

The first fault of a scan is a matter of order, but whether there is one is a matter of numbers:
an enumeration is without a fault just when no role is filled twice and every ring has its kind
(`faultless_iff`), and nothing is missing just when no role is empty (`absent_eq_nil_iff`).  So
the enumerations that are accepted are those that meet the contract, `Meets`, which counts entries
and knows nothing of the scan.

Main results: `build_accepts_contract`, with what the registry then holds, and
`build_reports_error`, with the one error that a build may fail with.
-/
import Mathlib.Data.List.Count
import Mathlib.Data.List.Nodup
import SchedPlane.Proofs.RegistryScan
import SchedPlane.Kernel.Blueprint

namespace SchedPlane

/-! ### Counting -/

section Counting

variable {α : Type} {xs : List α} {x : α} {q : α → Bool}

/-- A list with one more entry has at most one of a sort if the new entry is the first. -/
theorem countP_concat_le_one :
    (xs ++ [x]).countP q ≤ 1 ↔ xs.countP q ≤ 1 ∧ (q x → ¬ ∃ y ∈ xs, q y) := by
  have empty : (¬ ∃ y ∈ xs, q y) ↔ xs.countP q = 0 := by simp [List.countP_eq_zero]
  rw [empty, List.countP_append, List.countP_singleton]
  by_cases new : q x
  · rw [if_pos new]
    exact ⟨fun h => ⟨by omega, fun _ => by omega⟩, fun h => by have := h.2 new; omega⟩
  · simp [new]

/-- If there is one entry of a sort, it is the one that is found first. -/
theorem filter_eq_singleton (one : xs.countP q = 1) (found : xs.find? q = some x) :
    xs.filter q = [x] := by
  rw [List.countP_eq_length_filter, List.length_eq_one_iff] at one
  obtain ⟨y, only⟩ := one
  rw [← List.head?_filter, only] at found
  cases found
  exact only

/-- The only entry of a sort is of that sort. -/
theorem of_filter_eq_singleton {P : α → Prop} [DecidablePred P]
    (only : (xs.filter fun y => P y) = [x]) : P x := by
  have mem : x ∈ xs.filter fun y => P y := by simp [only]
  simpa using (List.mem_filter.mp mem).2

end Counting

variable {module : String} {maps : List MapInfo} {programs : List ProgramInfo} {e : ControlError}

/-! ### Faults in numbers -/

/-- A map is not at fault if it has the kind of its role and the role is free. -/
theorem no_mapFault_iff {m : MapInfo} : (∀ e, ¬ MapFault module maps m e) ↔
    (∀ role : MapRole, role.Fills module m → ∀ expected, role.requiredKind = some expected →
      m.kind = expected) ∧
    ∀ role : MapRole, role.Fills module m → ¬ ∃ other ∈ maps, role.Fills module other := by
  constructor
  · intro sound
    have right : ∀ role : MapRole, role.Fills module m → ∀ expected,
        role.requiredKind = some expected → m.kind = expected := by
      intro role fills expected needs
      by_contra wrong
      exact sound _ (.wrongKind fills needs wrong)
    exact ⟨right, fun role fills taken => sound _ (.repeated fills (right role fills) taken)⟩
  · rintro ⟨right, free⟩ e fault
    cases fault with
    | wrongKind fills needs wrong => exact wrong (right _ fills _ needs)
    | repeated fills _ taken => exact free _ fills taken

/-- Maps are clean if all have the kinds that their roles require and no role is filled twice. -/
theorem clean_maps_iff : Clean (MapFault module) maps ↔
    (∀ m ∈ maps, ∀ role : MapRole, role.Fills module m → ∀ expected,
      role.requiredKind = some expected → m.kind = expected) ∧
    ∀ role : MapRole, (maps.countP fun m => role.Fills module m) ≤ 1 := by
  induction maps using List.reverseRecOn with
  | nil => simp [clean_nil]
  | append_singleton maps m ih =>
    simp only [clean_concat, ih, no_mapFault_iff, countP_concat_le_one, decide_eq_true_eq,
      List.forall_mem_append, List.forall_mem_singleton]
    constructor
    · rintro ⟨⟨right, once⟩, rightLast, free⟩
      exact ⟨⟨right, rightLast⟩, fun role => ⟨once role, free role⟩⟩
    · rintro ⟨⟨right, rightLast⟩, once⟩
      exact ⟨⟨right, fun role => (once role).1⟩, rightLast, fun role => (once role).2⟩

/-- Programs are clean if no name of the contract occurs twice. -/
theorem clean_programs_iff : Clean ProgramFault programs ↔
    ∀ name ∈ Contract.programs, (programs.countP fun p => p.name = name) ≤ 1 := by
  induction programs using List.reverseRecOn with
  | nil => simp [clean_nil]
  | append_singleton programs p ih =>
    simp only [clean_concat, ih, countP_concat_le_one, decide_eq_true_eq]
    constructor
    · rintro ⟨once, sound⟩ name known
      refine ⟨once name known, ?_⟩
      rintro rfl taken
      exact sound _ (.repeated known taken)
    · intro once
      refine ⟨fun name known => (once name known).1, fun e fault => ?_⟩
      obtain ⟨known, taken⟩ := fault
      exact (once _ known).2 rfl taken

/-- An enumeration is without a fault if every ring has its kind and no role is filled twice. -/
theorem faultless_iff : Faultless module maps programs ↔
    (∀ m ∈ maps, ∀ role : MapRole, role.Fills module m → ∀ expected,
      role.requiredKind = some expected → m.kind = expected) ∧
    (∀ role : MapRole, (maps.countP fun m => role.Fills module m) ≤ 1) ∧
    ∀ name ∈ Contract.programs, (programs.countP fun p => p.name = name) ≤ 1 := by
  rw [← clean_programs_iff, ← and_assoc, ← clean_maps_iff]
  exact ⟨fun h => ⟨h.maps, h.programs⟩, fun h => ⟨h.1, h.2⟩⟩

/-- Nothing is missing if no role is empty. -/
theorem absent_eq_nil_iff : absent module maps programs = [] ↔
    (∀ role : MapRole, 0 < maps.countP fun m => role.Fills module m) ∧
    (0 < programs.countP fun p => p.name = Contract.selectCpu) ∧
    0 < programs.countP fun p => p.name = Contract.siblingCpu := by
  simp [absent, MapRole.mem_all, List.countP_pos_iff]

/-! ### The contract -/

/-- The contract of a module: each role is filled exactly once, and each ring has its kind. -/
structure Meets (module : String) (maps : List MapInfo) (programs : List ProgramInfo) : Prop where
  once : ∀ role : MapRole, (maps.countP fun m => role.Fills module m) = 1
  queued : ∀ m ∈ maps, MapRole.Fills module .queued m → m.kind = .ringBuf
  dispatched : ∀ m ∈ maps, MapRole.Fills module .dispatched m → m.kind = .userRingBuf
  exit : ∀ m ∈ maps, MapRole.Fills module .exit m → m.kind = .ringBuf
  selectCpu : (programs.countP fun p => p.name = Contract.selectCpu) = 1
  siblingCpu : (programs.countP fun p => p.name = Contract.siblingCpu) = 1
  /-- An object may lack its probes. -/
  probes : ∀ name ∈ Contract.probes, (programs.countP fun p => p.name = name) ≤ 1

/-- The contract is met if nothing is at fault and nothing is missing. -/
theorem meets_iff : Meets module maps programs ↔
    Faultless module maps programs ∧ absent module maps programs = [] := by
  rw [faultless_iff, absent_eq_nil_iff]
  -- nothing at fault bounds each count from above, nothing missing from below
  constructor
  · intro h
    refine ⟨⟨?_, ?_, ?_⟩, ?_, ?_, ?_⟩
    · intro m mem role fills expected needs
      cases role <;> cases needs
      · exact h.queued m mem fills
      · exact h.dispatched m mem fills
      · exact h.exit m mem fills
    · exact fun role => Nat.le_of_eq (h.once role)
    · simp only [Contract.programs, List.forall_mem_cons]
      exact ⟨Nat.le_of_eq h.selectCpu, Nat.le_of_eq h.siblingCpu, h.probes⟩
    · exact fun role => by rw [h.once role]; decide
    · rw [h.selectCpu]
      decide
    · rw [h.siblingCpu]
      decide
  · rintro ⟨⟨right, once, programsOnce⟩, found, select, sibling⟩
    simp only [Contract.programs, List.forall_mem_cons] at programsOnce
    obtain ⟨selectOnce, siblingOnce, probes⟩ := programsOnce
    exact
      { once := fun role => Nat.le_antisymm (once role) (found role)
        queued := fun m mem fills => right m mem .queued fills _ rfl
        dispatched := fun m mem fills => right m mem .dispatched fills _ rfl
        exit := fun m mem fills => right m mem .exit fills _ rfl
        selectCpu := Nat.le_antisymm selectOnce select
        siblingCpu := Nat.le_antisymm siblingOnce sibling
        probes := probes }

namespace Registry

/-- A registry holds the only entry of each role as it was enumerated, and the probes in their
order. -/
structure Binds (r : Registry) (module : String) (maps : List MapInfo)
    (programs : List ProgramInfo) : Prop where
  named : r.module = module
  filled : ∀ role : MapRole, (maps.filter fun m => role.Fills module m) = [r.map role]
  selectCpu : (programs.filter fun p => p.name = Contract.selectCpu) = [r.selectCpu]
  siblingCpu : (programs.filter fun p => p.name = Contract.siblingCpu) = [r.siblingCpu]
  probes : r.probes = programs.filter fun p => p.name ∈ Contract.probes

variable {r : Registry}

/-- A map that is bound fills its role. -/
theorem Binds.fills (binds : r.Binds module maps programs) (role : MapRole) :
    role.Fills module (r.map role) :=
  of_filter_eq_singleton (binds.filled role)

/-- What is bound was enumerated. -/
theorem Binds.mem_maps (binds : r.Binds module maps programs) (role : MapRole) :
    r.map role ∈ maps := by
  have mem : r.map role ∈ maps.filter fun m => role.Fills module m := by
    rw [binds.filled role]
    exact List.mem_singleton_self _
  exact (List.mem_filter.mp mem).1

/-- The map that fills a role is the one that is bound. -/
theorem Binds.eq_of_fills (binds : r.Binds module maps programs) {m : MapInfo} {role : MapRole}
    (mem : m ∈ maps) (fills : role.Fills module m) : m = r.map role := by
  have mem' : m ∈ maps.filter fun m => role.Fills module m :=
    List.mem_filter.mpr ⟨mem, decide_eq_true fills⟩
  rw [binds.filled role] at mem'
  exact List.mem_singleton.mp mem'

/-- A registry is built of nothing else than what meets the contract. -/
theorem meets_of_build (built : build module maps programs = .ok r) :
    Meets module maps programs := by
  rcases faultless_or_firstOffence module maps programs with faultless | ⟨e, first⟩
  · rcases build_cases faultless with ⟨none, -⟩ | ⟨-, fails⟩
    · exact meets_iff.mpr ⟨faultless, none⟩
    · cases built.symm.trans fails
  · cases built.symm.trans (build_of_firstOffence first)

/-- What meets the contract makes a registry. -/
theorem build_of_meets (meets : Meets module maps programs) :
    ∃ r, build module maps programs = .ok r := by
  obtain ⟨faultless, none⟩ := meets_iff.mp meets
  rcases build_cases faultless with ⟨-, built⟩ | ⟨some, -⟩
  · exact built
  · exact absurd none some

/-- The registry that a build gives holds what the enumeration has. -/
theorem binds_of_build (built : build module maps programs = .ok r) :
    r.Binds module maps programs := by
  have meets := meets_of_build built
  rw [build_of_faultless (meets_iff.mp meets).1] at built
  have complete := complete_of_ofBindings built
  exact
    { named := complete.module
      filled := fun role => by
        have found := complete.maps role
        rw [Bindings.map_filledBy] at found
        exact filter_eq_singleton (meets.once role) found
      selectCpu := filter_eq_singleton meets.selectCpu complete.selectCpu
      siblingCpu := filter_eq_singleton meets.siblingCpu complete.siblingCpu
      probes := complete.probes.symm }

/-- **The registry accepts exactly the contract**, and what it then holds are the entries that
fill the roles. -/
theorem build_accepts_contract (module : String) (maps : List MapInfo)
    (programs : List ProgramInfo) :
    ((∃ r, build module maps programs = .ok r) ↔ Meets module maps programs) ∧
      ∀ r, build module maps programs = .ok r → r.Binds module maps programs :=
  ⟨⟨fun ⟨_, built⟩ => meets_of_build built, build_of_meets⟩, fun _ => binds_of_build⟩

/-- The maps of a standard object whose struct-ops map has the name of a ring. -/
def namesakes : List MapInfo :=
  Blueprint.mapInfos 3
    ((Blueprint.standard.without "sched_ops").map Contract.queued .structOps).maps

/-- A struct-ops map is known by its kind alone, so it does not repeat the ring whose name it
has. -/
theorem build_accepts_contract_namesakes :
    (namesakes.countP fun m => m.name = Contract.queued) = 2 ∧
      ∃ r, build Contract.moduleName namesakes Blueprint.standard.programs = .ok r ∧
        r.Binds Contract.moduleName namesakes Blueprint.standard.programs := by
  have accepts :=
    build_accepts_contract Contract.moduleName namesakes Blueprint.standard.programs
  have meets : Meets Contract.moduleName namesakes Blueprint.standard.programs :=
    { once := fun role => by cases role <;> decide +kernel
      queued := by decide +kernel
      dispatched := by decide +kernel
      exit := by decide +kernel
      selectCpu := by decide +kernel
      siblingCpu := by decide +kernel
      probes := by decide +kernel }
  obtain ⟨r, built⟩ := accepts.1.mpr meets
  exact ⟨by decide +kernel, r, built, accepts.2 r built⟩

end Registry

/-! ### Errors -/

/-- Names are exactly those of the roles that nothing fills, each once and in the fixed order, and
there is one. -/
structure Shortfall (module : String) (maps : List MapInfo) (programs : List ProgramInfo)
    (names : List String) : Prop where
  nonempty : names ≠ []
  nodup : names.Nodup
  ordered : names.Sublist [module ++ Contract.bssSuffix, module ++ Contract.dataSuffix,
    Contract.queued, Contract.dispatched, Contract.exit, Contract.structOpsRole,
    Contract.selectCpu, Contract.siblingCpu]
  ofMaps : ∀ role : MapRole, role.label module ∈ names ↔ ¬ ∃ m ∈ maps, role.Fills module m
  selectCpu : Contract.selectCpu ∈ names ↔ ¬ ∃ p ∈ programs, p.name = Contract.selectCpu
  siblingCpu : Contract.siblingCpu ∈ names ↔ ¬ ∃ p ∈ programs, p.name = Contract.siblingCpu

/-- The names of all required roles, in the order in which missing ones are reported. -/
def required (module : String) : List String :=
  MapRole.all.map (MapRole.label module) ++ [Contract.selectCpu, Contract.siblingCpu]

/-- No role of a map has the name of a subprogram. -/
theorem label_not_mem_subprograms (module : String) (role : MapRole) :
    role.label module ∉ [Contract.selectCpu, Contract.siblingCpu] := by
  intro mem
  -- both names end in the letters of a CPU
  have letter : ∀ name ∈ [Contract.selectCpu, Contract.siblingCpu],
      name.toList.reverse[2]? = some 'c' := by decide
  have same := letter _ mem
  rw [MapRole.reverse_label] at same
  cases role <;> simp [MapRole.letter] at same

theorem nodup_required (module : String) : (required module).Nodup := by
  refine List.nodup_append.mpr ⟨?_, by decide, ?_⟩
  · exact List.Nodup.map (MapRole.label_injective module) (by decide)
  · rintro _ inMaps name inPrograms rfl
    obtain ⟨role, -, rfl⟩ := List.mem_map.mp inMaps
    exact label_not_mem_subprograms module role inPrograms

/-- What is missing is reported in the order of the contract. -/
theorem absent_sublist (module : String) (maps : List MapInfo) (programs : List ProgramInfo) :
    (absent module maps programs).Sublist (required module) :=
  .append (.map _ List.filter_sublist) List.filter_sublist

/-- The missing roles of maps are those that no map fills. -/
theorem label_mem_absent_iff (role : MapRole) :
    role.label module ∈ absent module maps programs ↔ ¬ ∃ m ∈ maps, role.Fills module m := by
  have apart := label_not_mem_subprograms module role
  unfold absent
  rw [List.mem_append, List.mem_map_of_injective (MapRole.label_injective module)]
  constructor
  · rintro (ofMaps | ofPrograms)
    · simpa using (List.mem_filter.mp ofMaps).2
    · exact absurd (List.mem_filter.mp ofPrograms).1 apart
  · intro empty
    exact .inl (List.mem_filter.mpr ⟨role.mem_all, by simpa using empty⟩)

/-- The missing subprograms are those of whose name there is no program. -/
theorem subprogram_mem_absent_iff {name : String}
    (known : name ∈ [Contract.selectCpu, Contract.siblingCpu]) :
    name ∈ absent module maps programs ↔ ¬ ∃ p ∈ programs, p.name = name := by
  unfold absent
  rw [List.mem_append]
  constructor
  · rintro (ofMaps | ofPrograms)
    · obtain ⟨role, -, rfl⟩ := List.mem_map.mp ofMaps
      exact absurd known (label_not_mem_subprograms module role)
    · simpa using (List.mem_filter.mp ofPrograms).2
  · intro empty
    exact .inr (List.mem_filter.mpr ⟨known, by simpa using empty⟩)

/-- What is reported as missing is a shortfall, and all of it. -/
theorem shortfall_absent (some : absent module maps programs ≠ []) :
    Shortfall module maps programs (absent module maps programs) where
  nonempty := some
  nodup := (absent_sublist module maps programs).nodup (nodup_required module)
  ordered := absent_sublist module maps programs
  ofMaps := label_mem_absent_iff
  selectCpu := subprogram_mem_absent_iff (by simp)
  siblingCpu := subprogram_mem_absent_iff (by simp)

namespace Registry

/-- **The registry reports the right error.**  If an entry is at fault, the first one decides,
whatever is missing; otherwise a build that fails names what is missing. -/
theorem build_reports_error (module : String) (maps : List MapInfo)
    (programs : List ProgramInfo) :
    (¬ Faultless module maps programs →
      ∃ e, FirstOffence module maps programs e ∧ build module maps programs = .error e) ∧
    (Faultless module maps programs → ∀ e, build module maps programs = .error e →
      ∃ names, e = .missingResources names ∧ Shortfall module maps programs names) := by
  constructor
  · intro faulty
    rcases faultless_or_firstOffence module maps programs with faultless | ⟨e, first⟩
    · exact absurd faultless faulty
    · exact ⟨e, first, build_of_firstOffence first⟩
  · intro faultless e fails
    rcases build_cases faultless with ⟨-, r, built⟩ | ⟨some, reported⟩
    · cases built.symm.trans fails
    · cases reported.symm.trans fails
      exact ⟨_, rfl, shortfall_absent some⟩

/-- A ring is there twice, the second time with the wrong kind, and everything else is missing. -/
def twoRings : List MapInfo :=
  [⟨Contract.queued, .ringBuf, 3⟩, ⟨Contract.queued, .array, 4⟩]

/-- The kind of the second ring is what is reported.  Without it, what is missing is. -/
theorem build_reports_error_twoRings :
    (∃ e, FirstOffence Contract.moduleName twoRings [] e ∧
        build Contract.moduleName twoRings [] = .error e ∧
        e = .load "map queued has kind BPF_MAP_TYPE_ARRAY, expected BPF_MAP_TYPE_RINGBUF") ∧
      Shortfall Contract.moduleName (twoRings.take 1) []
        ["main_bpf.bss", "main_bpf.data", Contract.dispatched, Contract.exit,
          Contract.structOpsRole, Contract.selectCpu, Contract.siblingCpu] := by
  constructor
  · have faulty : ¬ Faultless Contract.moduleName twoRings [] := by
      rw [faultless_iff]
      rintro ⟨-, once, -⟩
      exact absurd (once .queued) (by decide +kernel)
    obtain ⟨e, first, fails⟩ := (build_reports_error Contract.moduleName twoRings []).1 faulty
    refine ⟨e, first, fails, ?_⟩
    have reported : build Contract.moduleName twoRings [] =
        .error (.load "map queued has kind BPF_MAP_TYPE_ARRAY, expected BPF_MAP_TYPE_RINGBUF") := by
      decide +kernel
    exact Except.error.inj (fails.symm.trans reported)
  · have faultless : Faultless Contract.moduleName (twoRings.take 1) [] := by
      rw [faultless_iff]
      exact ⟨by intro m mem role; revert m; cases role <;> decide +kernel,
        fun role => by cases role <;> decide +kernel, by decide +kernel⟩
    have reported : build Contract.moduleName (twoRings.take 1) [] =
        .error (.missingResources ["main_bpf.bss", "main_bpf.data", Contract.dispatched,
          Contract.exit, Contract.structOpsRole, Contract.selectCpu, Contract.siblingCpu]) := by
      decide +kernel
    obtain ⟨names, same, shortfall⟩ :=
      (build_reports_error Contract.moduleName (twoRings.take 1) []).2 faultless _ reported
    cases same
    exact shortfall

end Registry

end SchedPlane
