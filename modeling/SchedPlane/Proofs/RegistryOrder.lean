/-
SchedPlane/Proofs/RegistryOrder.lean

What the order of an enumeration and the entries outside the contract have to do with a registry.

A scan takes an unrecognised entry without a change, so putting such entries in anywhere leaves the
result as it was, errors included (`foldlM_of_inserted`).  Reordering is different: it may move
another entry at fault to the front.  But whether there is a fault at all, and what is missing, is
a matter of numbers, which a permutation keeps (`Faultless.perm`, `absent_perm`), and where each
role is filled once there is only one entry to bind (`Registry.Binds.perm`).

Main result: `build_insensitive`.
-/
import SchedPlane.Proofs.RegistryContract

namespace SchedPlane

/-! ### Unrecognised entries -/

/-- A map outside the contract: it is no struct-ops map and has none of the five names. -/
def MapInfo.Unrecognised (module : String) (m : MapInfo) : Prop :=
  m.kind ≠ .structOps ∧ m.name ∉ [module ++ Contract.bssSuffix, module ++ Contract.dataSuffix,
    Contract.queued, Contract.dispatched, Contract.exit]

instance (module : String) (m : MapInfo) : Decidable (m.Unrecognised module) :=
  inferInstanceAs (Decidable (_ ∧ _))

/-- A program outside the contract: it has none of the four names. -/
def ProgramInfo.Unrecognised (p : ProgramInfo) : Prop :=
  p.name ∉ [Contract.selectCpu, Contract.siblingCpu] ++ Contract.probes

/-- The second list is the first with entries put in anywhere, each of which is irrelevant. -/
inductive Inserted {α : Type} (irrelevant : α → Prop) : List α → List α → Prop
  | nil : Inserted irrelevant [] []
  | keep {xs ys : List α} (x : α) (rest : Inserted irrelevant xs ys) :
      Inserted irrelevant (x :: xs) (x :: ys)
  | insert {xs ys : List α} {y : α} (outside : irrelevant y) (rest : Inserted irrelevant xs ys) :
      Inserted irrelevant xs (y :: ys)

theorem Inserted.refl {α : Type} {irrelevant : α → Prop} (xs : List α) :
    Inserted irrelevant xs xs := by
  induction xs with
  | nil => exact .nil
  | cons x xs ih => exact .keep x ih

/-- A fold that takes irrelevant entries without a change comes to the same with them. -/
theorem foldlM_of_inserted {α σ ε : Type} {irrelevant : α → Prop} {f : σ → α → Except ε σ}
    (takes : ∀ s x, irrelevant x → f s x = .ok s) {xs ys : List α}
    (inserted : Inserted irrelevant xs ys) (s : σ) : ys.foldlM f s = xs.foldlM f s := by
  induction inserted generalizing s with
  | nil => rfl
  | keep x _ ih =>
    rw [List.foldlM_cons, List.foldlM_cons]
    exact congrArg (f s x >>= ·) (funext ih)
  | insert outside _ ih =>
    rw [List.foldlM_cons, takes s _ outside]
    exact ih s

variable {module : String} {maps maps' : List MapInfo} {programs programs' : List ProgramInfo}

/-- An entry that the contract does not know is passed over. -/
theorem Bindings.addMap_of_unrecognised {m : MapInfo} (outside : m.Unrecognised module)
    (b : Bindings) : b.addMap module m = .ok b := by
  obtain ⟨kind, name⟩ := outside
  simp only [List.mem_cons, List.not_mem_nil, or_false, not_or] at name
  have unknown : MapRole.ofMap module m = none := by
    rw [MapRole.ofMap_eq_none_iff]
    intro role fills
    cases role <;> simp_all [MapRole.Fills]
  simp [addMap, unknown]

theorem Bindings.addProgram_of_unrecognised {p : ProgramInfo} (outside : p.Unrecognised)
    (b : Bindings) : b.addProgram p = .ok b := by
  have unknown : ProgramRole.ofProgram p = none := ProgramRole.ofProgram_eq_none_iff.mpr outside
  simp [addProgram, unknown]

/-- Entries outside the contract leave the result of a build as it was. -/
theorem Registry.build_of_inserted (inMaps : Inserted (MapInfo.Unrecognised module) maps maps')
    (inPrograms : Inserted ProgramInfo.Unrecognised programs programs') :
    build module maps' programs' = build module maps programs := by
  have overMaps := foldlM_of_inserted (f := Bindings.addMap module)
    (fun b _ outside => b.addMap_of_unrecognised outside) inMaps
  have overPrograms := foldlM_of_inserted (f := Bindings.addProgram)
    (fun b _ outside => b.addProgram_of_unrecognised outside) inPrograms
  simp only [build, Bindings.scan, overMaps, overPrograms]

/-! ### Order -/

/-- Whether something is at fault is no matter of the order. -/
theorem Faultless.perm (faultless : Faultless module maps programs) (inMaps : maps.Perm maps')
    (inPrograms : programs.Perm programs') : Faultless module maps' programs' := by
  rw [faultless_iff] at faultless ⊢
  obtain ⟨right, once, programsOnce⟩ := faultless
  refine ⟨fun m mem => right m (inMaps.mem_iff.mpr mem), fun role => ?_, fun name known => ?_⟩
  · rw [← inMaps.countP_eq]
    exact once role
  · rw [← inPrograms.countP_eq]
    exact programsOnce name known

theorem absent_perm (inMaps : maps.Perm maps') (inPrograms : programs.Perm programs') :
    absent module maps' programs' = absent module maps programs := by
  simp only [absent, inMaps.mem_iff, inPrograms.mem_iff]

theorem Meets.perm (meets : Meets module maps programs) (inMaps : maps.Perm maps')
    (inPrograms : programs.Perm programs') : Meets module maps' programs' := by
  rw [meets_iff] at meets ⊢
  exact ⟨meets.1.perm inMaps inPrograms, by rw [absent_perm inMaps inPrograms, meets.2]⟩

/-- An entry at fault is never taken for a missing one. -/
theorem FirstOffence.ne_missing {e : ControlError} (first : FirstOffence module maps programs e)
    (names : List String) : e ≠ .missingResources names := by
  cases first with
  | inMaps first =>
    obtain ⟨before, m, after, -, -, fault⟩ := first
    cases fault <;> nofun
  | inPrograms clean first =>
    obtain ⟨before, p, after, -, -, fault⟩ := first
    cases fault
    nofun

namespace Registry

variable {r r' : Registry}

/-- A build reports missing entries just when there is no fault and some are missing. -/
theorem build_eq_missing_iff {names : List String} :
    build module maps programs = .error (.missingResources names) ↔
      Faultless module maps programs ∧ names ≠ [] ∧ absent module maps programs = names := by
  constructor
  · intro fails
    rcases faultless_or_firstOffence module maps programs with faultless | ⟨e, first⟩
    · rcases build_cases faultless with ⟨-, r, built⟩ | ⟨some, reported⟩
      · cases built.symm.trans fails
      · cases reported.symm.trans fails
        exact ⟨faultless, some, rfl⟩
    · cases (build_of_firstOffence first).symm.trans fails
      exact absurd rfl (first.ne_missing names)
  · rintro ⟨faultless, some, rfl⟩
    rcases build_cases faultless with ⟨none, -⟩ | ⟨-, reported⟩
    · exact absurd none some
    · exact reported

/-- The only entry of a sort is the same in any order. -/
theorem eq_of_filter_perm {α : Type} {xs ys : List α} {q : α → Bool} {x y : α} (h : xs.Perm ys)
    (only : xs.filter q = [x]) (only' : ys.filter q = [y]) : x = y := by
  have same := h.filter q
  rw [only, only', List.singleton_perm_singleton] at same
  exact same

/-- Registries of the same entries in two orders differ in their probes only. -/
theorem Binds.perm (binds : r.Binds module maps programs) (binds' : r'.Binds module maps' programs')
    (inMaps : maps.Perm maps') (inPrograms : programs.Perm programs') :
    { r with probes := r'.probes } = r' := by
  have named : r.module = r'.module := binds.named.trans binds'.named.symm
  have filled : ∀ role, r.map role = r'.map role := fun role =>
    eq_of_filter_perm inMaps (binds.filled role) (binds'.filled role)
  have selectCpu := eq_of_filter_perm inPrograms binds.selectCpu binds'.selectCpu
  have siblingCpu := eq_of_filter_perm inPrograms binds.siblingCpu binds'.siblingCpu
  have bss := filled .bss
  have data := filled .data
  have queued := filled .queued
  have dispatched := filled .dispatched
  have exit := filled .exit
  have structOps := filled .structOps
  cases r
  cases r'
  simp only [map, region] at *
  simp_all

/-- What becomes of a build when the enumeration is reordered; `programs` and `programs'` are the
programs in the two orders. -/
structure Reordered (programs programs' : List ProgramInfo)
    (before after : Except ControlError Registry) : Prop where
  accepted : (∃ r, before = .ok r) ↔ ∃ r, after = .ok r
  /-- All maps and subprograms are bound as before. -/
  same : ∀ r r', before = .ok r → after = .ok r' → { r with probes := r'.probes } = r'
  /-- The probes follow the order of the programs. -/
  probes : ∀ r r', before = .ok r → after = .ok r' →
    r.probes = programs.filter (fun p => p.name ∈ Contract.probes) ∧
      r'.probes = programs'.filter (fun p => p.name ∈ Contract.probes) ∧ r.probes.Perm r'.probes
  missing : ∀ names, before = .error (.missingResources names) ↔
    after = .error (.missingResources names)

/-- In another order a build comes to the same bindings or the same shortfall. -/
theorem reordered_of_perm (inMaps : maps.Perm maps') (inPrograms : programs.Perm programs') :
    Reordered programs programs' (build module maps programs) (build module maps' programs') where
  accepted :=
    ⟨fun ⟨_, built⟩ => build_of_meets ((meets_of_build built).perm inMaps inPrograms),
      fun ⟨_, built⟩ => build_of_meets ((meets_of_build built).perm inMaps.symm inPrograms.symm)⟩
  same := fun _ _ built built' =>
    (binds_of_build built).perm (binds_of_build built') inMaps inPrograms
  probes := fun r r' built built' => by
    have probes := (binds_of_build built).probes
    have probes' := (binds_of_build built').probes
    refine ⟨probes, probes', ?_⟩
    rw [probes, probes']
    exact inPrograms.filter _
  missing := fun names => by
    rw [build_eq_missing_iff, build_eq_missing_iff, absent_perm inMaps inPrograms]
    exact and_congr_left fun _ =>
      ⟨fun h => h.perm inMaps inPrograms, fun h => h.perm inMaps.symm inPrograms.symm⟩

/-- **The registry depends neither on the entries outside the contract**, wherever they stand,
**nor on the order of the others**, but for the order of the probes and for which of several
entries at fault is found first. -/
theorem build_insensitive (module : String) (maps maps' : List MapInfo)
    (programs programs' : List ProgramInfo) :
    (Inserted (MapInfo.Unrecognised module) maps maps' →
      Inserted ProgramInfo.Unrecognised programs programs' →
      build module maps' programs' = build module maps programs) ∧
    (maps.Perm maps' → programs.Perm programs' →
      Reordered programs programs' (build module maps programs)
        (build module maps' programs')) :=
  ⟨build_of_inserted, reordered_of_perm⟩

/-- The maps of a standard object, numbered from the first free descriptor. -/
def standardMaps : List MapInfo :=
  Blueprint.mapInfos 3 Blueprint.standard.maps

/-- All entries in reverse give the same registry, but for the order of the probes. -/
theorem build_insensitive_reversed :
    let programs := Blueprint.standard.programs
    build Contract.moduleName (⟨"scratch", .hash, 10⟩ :: standardMaps) programs =
        build Contract.moduleName standardMaps programs ∧
      Reordered programs programs.reverse (build Contract.moduleName standardMaps programs)
        (build Contract.moduleName standardMaps.reverse programs.reverse) ∧
      programs.filter (fun p => p.name ∈ Contract.probes) ≠
        programs.reverse.filter (fun p => p.name ∈ Contract.probes) := by
  refine ⟨?_, ?_, by decide +kernel⟩
  · refine (build_insensitive _ _ _ _ _).1 (.insert (by decide +kernel) ?_) ?_
    · exact .refl standardMaps
    · exact .refl Blueprint.standard.programs
  · exact (build_insensitive _ _ _ _ _).2 (List.reverse_perm _).symm (List.reverse_perm _).symm

end Registry

end SchedPlane
