/-
SchedPlane/Proofs/RegistryScan.lean

What binding an enumeration comes to, said without the scan.

`MapRole.Fills` says which maps belong to a role: the struct-ops map by its kind, every other by
its name.  The labels of the roles are apart whatever the module is called (`label_injective`), so
the order in which the scan tries them does not matter (`ofMap_eq_some_iff`).  An entry is at
fault after those before it if it is a ring of the wrong kind or if its role is taken
(`MapFault`, `ProgramFault`).

Both scans are folds that stop at the first fault, and that is proved once, `foldlM_of_clean` and
`foldlM_of_firstFault`: what holds of the slots after a clean list is that each has the first
entry of its role, `Bindings.filledBy`.

Main results: `scan_of_firstOffence` and `scan_of_faultless` for the scan, and
`build_of_firstOffence` and `build_cases` for the registry.
-/
import Mathlib.Data.List.Induction
import SchedPlane.Registry

namespace SchedPlane

/-! ### Scans that stop at the first fault -/

section Scans

variable {α σ ε : Type} {fault : List α → α → ε → Prop} {xs : List α} {x : α} {e : ε}

/-- No entry of a list is at fault.  `fault before x e` says that `x` is at fault, with the error
`e`, when it comes after the entries `before`. -/
def Clean (fault : List α → α → ε → Prop) (xs : List α) : Prop :=
  ∀ before x after, xs = before ++ x :: after → ∀ e, ¬ fault before x e

/-- The first entry at fault has the error `e`. -/
def FirstFault (fault : List α → α → ε → Prop) (xs : List α) (e : ε) : Prop :=
  ∃ before x after, xs = before ++ x :: after ∧ Clean fault before ∧ fault before x e

theorem clean_nil : Clean fault [] := by
  intro before x after split
  simp at split

/-- Entries are clean up to the last if they are so before it and it is not at fault. -/
theorem clean_concat : Clean fault (xs ++ [x]) ↔ Clean fault xs ∧ ∀ e, ¬ fault xs x e := by
  constructor
  · intro clean
    refine ⟨?_, clean xs x [] rfl⟩
    rintro before y after rfl
    exact clean before y (after ++ [x]) (by simp)
  · rintro ⟨clean, last⟩ before y after split
    rcases List.eq_nil_or_concat after with rfl | ⟨rest, z, rfl⟩
    · obtain ⟨rfl, same⟩ := List.append_inj' split rfl
      cases same
      exact last
    · -- the entry is not the last one
      have split : xs ++ [x] = (before ++ y :: rest) ++ [z] := by simpa using split
      obtain ⟨rfl, -⟩ := List.append_inj' split rfl
      exact clean before y rest rfl

/-- If any entry is at fault, there is a first one. -/
theorem clean_or_firstFault (fault : List α → α → ε → Prop) (xs : List α) :
    Clean fault xs ∨ ∃ e, FirstFault fault xs e := by
  induction xs using List.reverseRecOn with
  | nil => exact .inl clean_nil
  | append_singleton xs x ih =>
    rcases ih with clean | ⟨e, before, y, after, rfl, earlier, bad⟩
    · by_cases last : ∃ e, fault xs x e
      · obtain ⟨e, bad⟩ := last
        exact .inr ⟨e, xs, x, [], rfl, clean, bad⟩
      · exact .inl (clean_concat.mpr ⟨clean, not_exists.mp last⟩)
    · exact .inr ⟨e, before, y, after ++ [x], by simp, earlier, bad⟩

variable {f : σ → α → Except ε σ}

/-- A fold gets through a clean list.  `state` is what it has made of the entries so far. -/
theorem foldlM_of_clean (state : List α → σ)
    (goesOn : ∀ xs x, (∀ e, ¬ fault xs x e) → f (state xs) x = .ok (state (xs ++ [x])))
    (clean : Clean fault xs) : xs.foldlM f (state []) = .ok (state xs) := by
  induction xs using List.reverseRecOn with
  | nil => rfl
  | append_singleton xs x ih =>
    obtain ⟨earlier, last⟩ := clean_concat.mp clean
    rw [List.foldlM_append, ih earlier]
    show [x].foldlM f (state xs) = _
    rw [List.foldlM_cons, goesOn xs x last]
    rfl

/-- A fold stops at the first entry at fault, whatever follows. -/
theorem foldlM_of_firstFault (state : List α → σ)
    (goesOn : ∀ xs x, (∀ e, ¬ fault xs x e) → f (state xs) x = .ok (state (xs ++ [x])))
    (stops : ∀ xs x e, fault xs x e → f (state xs) x = .error e)
    (first : FirstFault fault xs e) : xs.foldlM f (state []) = .error e := by
  obtain ⟨before, x, after, rfl, clean, bad⟩ := first
  rw [List.foldlM_append, foldlM_of_clean state goesOn clean]
  show (x :: after).foldlM f (state before) = _
  rw [List.foldlM_cons, stops before x e bad]
  rfl

end Scans

/-! ### Roles -/

namespace MapRole

/-- All roles, in the order in which missing ones are reported. -/
def all : List MapRole :=
  [.bss, .data, .queued, .dispatched, .exit, .structOps]

theorem mem_all (role : MapRole) : role ∈ all := by
  cases role <;> decide

/-- Whether a map fills a role: that of the struct-ops map by its kind, any other by its name. -/
def Fills (module : String) : MapRole → MapInfo → Prop
  | .bss, m => m.kind ≠ .structOps ∧ m.name = module ++ Contract.bssSuffix
  | .data, m => m.kind ≠ .structOps ∧ m.name = module ++ Contract.dataSuffix
  | .queued, m => m.kind ≠ .structOps ∧ m.name = Contract.queued
  | .dispatched, m => m.kind ≠ .structOps ∧ m.name = Contract.dispatched
  | .exit, m => m.kind ≠ .structOps ∧ m.name = Contract.exit
  | .structOps, m => m.kind = .structOps

theorem fills_iff {module : String} {role : MapRole} {m : MapInfo} (named : role ≠ .structOps) :
    role.Fills module m ↔ m.kind ≠ .structOps ∧ m.name = role.label module := by
  cases role <;> first | exact Iff.rfl | exact absurd rfl named

instance (module : String) (role : MapRole) (m : MapInfo) : Decidable (role.Fills module m) :=
  match role with
  | .bss | .data | .queued | .dispatched | .exit => inferInstanceAs (Decidable (_ ∧ _))
  | .structOps => inferInstanceAs (Decidable (m.kind = .structOps))

/-- The last letter but two of a role's label. -/
def letter : MapRole → Char
  | .bss => 'b'
  | .data => 'a'
  | .queued => 'u'
  | .dispatched => 'h'
  | .exit => '_'
  | .structOps => 'p'

theorem letter_injective : Function.Injective letter := by
  intro role other
  cases role <;> cases other <;> decide

/-- The letter of a role can be read off its label. -/
theorem reverse_label (module : String) (role : MapRole) :
    (role.label module).toList.reverse[2]? = some role.letter := by
  cases role <;>
    simp [label, letter, Contract.bssSuffix, Contract.dataSuffix, Contract.queued,
      Contract.dispatched, Contract.exit, Contract.structOpsRole]

/-- Two roles never share a label, whatever the module is called. -/
theorem label_injective (module : String) : Function.Injective (label module) := by
  intro role other same
  have letters := congrArg (fun s : String => s.toList.reverse[2]?) same
  exact letter_injective (by simpa only [reverse_label, Option.some.injEq] using letters)

variable {module : String} {role other : MapRole} {m : MapInfo}

/-- A map fills one role at most. -/
theorem Fills.unique (fills : role.Fills module m) (fillsOther : other.Fills module m) :
    role = other := by
  by_cases attach : m.kind = .structOps
  · have only : ∀ {r : MapRole}, r.Fills module m → r = .structOps := by
      intro r fills
      by_contra named
      exact ((fills_iff named).mp fills).1 attach
    rw [only fills, only fillsOther]
  · have named : ∀ {r : MapRole}, r.Fills module m → m.name = r.label module := by
      intro r fills
      refine ((fills_iff ?_).mp fills).2
      rintro rfl
      exact attach fills
    exact label_injective module ((named fills).symm.trans (named fillsOther))

/-- The scan gives each map the role that it fills. -/
theorem ofMap_eq_some_iff : ofMap module m = some role ↔ role.Fills module m := by
  unfold ofMap
  by_cases attach : m.kind = .structOps
  · rw [if_pos attach]
    have fills : Fills module .structOps m := attach
    exact ⟨fun e => Option.some.inj e ▸ fills, fun other => by rw [fills.unique other]⟩
  · rw [if_neg attach]
    constructor
    · intro found
      have named : m.name = role.label module := by simpa using List.find?_some found
      have mem := List.mem_of_find?_eq_some found
      exact (fills_iff (by rintro rfl; simp at mem)).mpr ⟨attach, named⟩
    · intro fills
      have ne : role ≠ .structOps := by
        rintro rfl
        exact attach fills
      have named := ((fills_iff ne).mp fills).2
      -- whatever role the name leads to has the same label
      have isSome : ([bss, data, queued, dispatched, exit].find? fun r =>
          m.name = r.label module).isSome := by
        rw [List.find?_isSome]
        exact ⟨role, by cases role <;> simp_all, by simpa using named⟩
      obtain ⟨found, e⟩ := Option.isSome_iff_exists.mp isSome
      have same : m.name = found.label module := by simpa using List.find?_some e
      rw [e, label_injective module (named.symm.trans same)]

theorem ofMap_eq_none_iff : ofMap module m = none ↔ ∀ role : MapRole, ¬ role.Fills module m := by
  rw [Option.eq_none_iff_forall_ne_some]
  exact forall_congr' fun role => not_congr ofMap_eq_some_iff

end MapRole

/-- The programs that the contract knows by name. -/
def Contract.programs : List String :=
  Contract.selectCpu :: Contract.siblingCpu :: Contract.probes

theorem Contract.nodup_programs : Contract.programs.Nodup := by
  decide

namespace ProgramRole

/-- Whether a program fills a role: by its name alone. -/
def Fills : ProgramRole → ProgramInfo → Prop
  | .selectCpu, p => p.name = Contract.selectCpu
  | .siblingCpu, p => p.name = Contract.siblingCpu
  | .probe, p => p.name ∈ Contract.probes

variable {role : ProgramRole} {p : ProgramInfo}

/-- The scan gives each program the role that it fills. -/
theorem ofProgram_eq_some_iff : ofProgram p = some role ↔ role.Fills p := by
  have apart := Contract.nodup_programs
  simp only [Contract.programs, List.nodup_cons, List.mem_cons, not_or] at apart
  unfold ofProgram
  split_ifs with select sibling probe
  all_goals cases role <;> simp_all [Fills]

theorem ofProgram_eq_none_iff : ofProgram p = none ↔ p.name ∉ Contract.programs := by
  unfold ofProgram
  split_ifs <;> simp_all [Contract.programs]

end ProgramRole

/-! ### Faults -/

/-- A map is at fault after the maps before it.  Its kind is looked at before its role. -/
inductive MapFault (module : String) (before : List MapInfo) (m : MapInfo) : ControlError → Prop
  /-- It is a ring of the wrong kind. -/
  | wrongKind {role : MapRole} {expected : MapKind} (fills : role.Fills module m)
      (needs : role.requiredKind = some expected) (wrong : m.kind ≠ expected) :
      MapFault module before m (Bindings.kindError m expected)
  /-- Its role is taken. -/
  | repeated {role : MapRole} (fills : role.Fills module m)
      (right : ∀ expected, role.requiredKind = some expected → m.kind = expected)
      (taken : ∃ other ∈ before, role.Fills module other) :
      MapFault module before m (.duplicateResource (role.label module))

/-- A program is at fault after the programs before it: its role is taken. -/
inductive ProgramFault (before : List ProgramInfo) (p : ProgramInfo) : ControlError → Prop
  | repeated (known : p.name ∈ Contract.programs) (taken : ∃ other ∈ before, other.name = p.name) :
      ProgramFault before p (.duplicateResource p.name)

/-- No entry of an enumeration is at fault. -/
structure Faultless (module : String) (maps : List MapInfo) (programs : List ProgramInfo) :
    Prop where
  maps : Clean (MapFault module) maps
  programs : Clean ProgramFault programs

/-- The first entry at fault has an error; all maps come before all programs. -/
inductive FirstOffence (module : String) (maps : List MapInfo) (programs : List ProgramInfo) :
    ControlError → Prop
  | inMaps {e : ControlError} (first : FirstFault (MapFault module) maps e) :
      FirstOffence module maps programs e
  | inPrograms {e : ControlError} (clean : Clean (MapFault module) maps)
      (first : FirstFault ProgramFault programs e) : FirstOffence module maps programs e

theorem faultless_or_firstOffence (module : String) (maps : List MapInfo)
    (programs : List ProgramInfo) :
    Faultless module maps programs ∨ ∃ e, FirstOffence module maps programs e := by
  rcases clean_or_firstFault (MapFault module) maps with clean | ⟨e, first⟩
  · rcases clean_or_firstFault ProgramFault programs with cleanPrograms | ⟨e, first⟩
    · exact .inl ⟨clean, cleanPrograms⟩
    · exact .inr ⟨e, .inPrograms clean first⟩
  · exact .inr ⟨e, .inMaps first⟩

/-! ### Slots -/

namespace Bindings

/-- The slots in which every role has the first entry that fills it. -/
def filledBy (module : String) (maps : List MapInfo) (programs : List ProgramInfo) : Bindings where
  bss := maps.find? fun m => MapRole.Fills module .bss m
  data := maps.find? fun m => MapRole.Fills module .data m
  queued := maps.find? fun m => MapRole.Fills module .queued m
  dispatched := maps.find? fun m => MapRole.Fills module .dispatched m
  exit := maps.find? fun m => MapRole.Fills module .exit m
  structOps := maps.find? fun m => MapRole.Fills module .structOps m
  selectCpu := programs.find? fun p => p.name = Contract.selectCpu
  siblingCpu := programs.find? fun p => p.name = Contract.siblingCpu
  probes := programs.filter fun p => p.name ∈ Contract.probes

variable {module : String} {b b' : Bindings} {m : MapInfo} {p : ProgramInfo}
  {maps : List MapInfo} {programs : List ProgramInfo} {e : ControlError}

/-- The scan binds a role to the first entry that fills it. -/
theorem map_filledBy (module : String) (maps : List MapInfo) (programs : List ProgramInfo)
    (role : MapRole) :
    (filledBy module maps programs).map role = maps.find? fun m => role.Fills module m := by
  cases role <;> rfl

theorem ext_map (maps : ∀ role, b.map role = b'.map role) (selectCpu : b.selectCpu = b'.selectCpu)
    (siblingCpu : b.siblingCpu = b'.siblingCpu) (probes : b.probes = b'.probes) : b = b' := by
  cases b
  cases b'
  have bss := maps .bss
  have data := maps .data
  have queued := maps .queued
  have dispatched := maps .dispatched
  have exit := maps .exit
  have structOps := maps .structOps
  simp only [map] at bss data queued dispatched exit structOps
  simp_all

theorem map_setMap (b : Bindings) (m : MapInfo) (role other : MapRole) :
    (b.setMap m role).map other = if other = role then some m else b.map other := by
  cases role <;> cases other <;> rfl

theorem programs_setMap (b : Bindings) (m : MapInfo) (role : MapRole) :
    (b.setMap m role).selectCpu = b.selectCpu ∧ (b.setMap m role).siblingCpu = b.siblingCpu ∧
      (b.setMap m role).probes = b.probes := by
  cases role <;> exact ⟨rfl, rfl, rfl⟩

theorem isSome_filledBy (module : String) (maps : List MapInfo) (programs : List ProgramInfo)
    (role : MapRole) :
    ((filledBy module maps programs).map role).isSome ↔ ∃ m ∈ maps, role.Fills module m := by
  rw [map_filledBy, List.find?_isSome]
  simp

/-! #### Maps -/

/-- The scan stops at a map that is at fault, with its error. -/
theorem addMap_of_fault (fault : MapFault module maps m e) :
    (filledBy module maps programs).addMap module m = .error e := by
  cases fault with
  | wrongKind fills needs wrong =>
    simp [addMap, MapRole.ofMap_eq_some_iff.mpr fills, bindRole, needs, wrong]
  | @repeated role fills right taken =>
    have filled := (isSome_filledBy module maps programs role).mpr taken
    simp only [addMap, MapRole.ofMap_eq_some_iff.mpr fills, bindRole]
    split
    · next expected needs => rw [if_neg (by simp [right expected needs]), if_pos filled]
    · rw [if_pos filled]

/-- A map without a role changes no slot. -/
theorem filledBy_concat_of_none (unknown : ∀ role : MapRole, ¬ role.Fills module m) :
    filledBy module (maps ++ [m]) programs = filledBy module maps programs := by
  refine ext_map (fun role => ?_) rfl rfl rfl
  rw [map_filledBy, map_filledBy, List.find?_append]
  simp [unknown role]

/-- A map fills the free slot of its role. -/
theorem filledBy_concat {role : MapRole} (fills : role.Fills module m)
    (free : ¬ ∃ other ∈ maps, role.Fills module other) :
    filledBy module (maps ++ [m]) programs = (filledBy module maps programs).setMap m role := by
  obtain ⟨selectCpu, siblingCpu, probes⟩ := programs_setMap (filledBy module maps programs) m role
  refine ext_map (fun other => ?_) selectCpu.symm siblingCpu.symm probes.symm
  rw [map_setMap, map_filledBy, map_filledBy, List.find?_append]
  split
  · next same =>
    subst same
    have none : (maps.find? fun m => other.Fills module m) = none := by
      simpa using free
    simp [none, fills]
  · next ne =>
    have apart : ¬ other.Fills module m := fun fillsOther => ne (fillsOther.unique fills)
    simp [apart]

/-- The scan takes in a map that is not at fault. -/
theorem addMap_of_sound (sound : ∀ e, ¬ MapFault module maps m e) :
    (filledBy module maps programs).addMap module m =
      .ok (filledBy module (maps ++ [m]) programs) := by
  unfold addMap
  split
  · next role fills =>
    rw [MapRole.ofMap_eq_some_iff] at fills
    have right : ∀ expected, role.requiredKind = some expected → m.kind = expected := by
      intro expected needs
      by_contra wrong
      exact sound _ (.wrongKind fills needs wrong)
    have free : ¬ ∃ other ∈ maps, role.Fills module other := fun taken =>
      sound _ (.repeated fills right taken)
    have empty : ¬ ((filledBy module maps programs).map role).isSome := by
      rwa [isSome_filledBy]
    rw [filledBy_concat fills free]
    unfold bindRole
    split
    · next expected needs => rw [if_neg (by simp [right expected needs]), if_neg empty]
    · rw [if_neg empty]
  · next unknown =>
    rw [filledBy_concat_of_none (MapRole.ofMap_eq_none_iff.mp unknown)]

/-! #### Programs -/

/-- The scan stops at a program that is at fault, with its error. -/
theorem addProgram_of_fault (fault : ProgramFault programs p e) :
    (filledBy module maps programs).addProgram p = .error e := by
  obtain ⟨known, taken⟩ := fault
  unfold addProgram
  split
  · next role =>
    rw [ProgramRole.ofProgram_eq_some_iff, ProgramRole.Fills] at role
    rw [if_pos (by simpa [filledBy, role] using taken)]
  · next role =>
    rw [ProgramRole.ofProgram_eq_some_iff, ProgramRole.Fills] at role
    rw [if_pos (by simpa [filledBy, role] using taken)]
  · next role =>
    rw [ProgramRole.ofProgram_eq_some_iff, ProgramRole.Fills] at role
    obtain ⟨other, mem, same⟩ := taken
    rw [if_pos (List.mem_map.mpr ⟨other, by simp [filledBy, mem, same, role], same⟩)]
  · next role => exact absurd known (ProgramRole.ofProgram_eq_none_iff.mp role)

/-- The scan takes in a program that is not at fault. -/
theorem addProgram_of_sound (sound : ∀ e, ¬ ProgramFault programs p e) :
    (filledBy module maps programs).addProgram p =
      .ok (filledBy module maps (programs ++ [p])) := by
  -- the names of the contract differ, so a program fills one place and leaves the others
  have apart := Contract.nodup_programs
  simp only [Contract.programs, List.nodup_cons, List.mem_cons, not_or] at apart
  obtain ⟨⟨selectSibling, selectProbe⟩, siblingProbe, -⟩ := apart
  have free : p.name ∈ Contract.programs → ∀ other ∈ programs, other.name ≠ p.name :=
    fun known other mem same => sound _ (.repeated known ⟨other, mem, same⟩)
  unfold addProgram
  split
  · next role =>
    rw [ProgramRole.ofProgram_eq_some_iff, ProgramRole.Fills] at role
    have free := free (by simp [Contract.programs, role])
    have empty : (programs.find? fun q => q.name = Contract.selectCpu) = none := by
      simpa [role] using free
    rw [if_neg (by simp [filledBy, empty])]
    simp [filledBy, empty, role, selectSibling, selectProbe]
  · next role =>
    rw [ProgramRole.ofProgram_eq_some_iff, ProgramRole.Fills] at role
    have free := free (by simp [Contract.programs, role])
    have empty : (programs.find? fun q => q.name = Contract.siblingCpu) = none := by
      simpa [role] using free
    rw [if_neg (by simp [filledBy, empty])]
    simp [filledBy, empty, role, Ne.symm selectSibling, siblingProbe]
  · next role =>
    rw [ProgramRole.ofProgram_eq_some_iff, ProgramRole.Fills] at role
    have free := free (by simp [Contract.programs, role])
    have select : p.name ≠ Contract.selectCpu := fun e => selectProbe (e ▸ role)
    have sibling : p.name ≠ Contract.siblingCpu := fun e => siblingProbe (e ▸ role)
    rw [if_neg ?_]
    · simp [filledBy, role, select, sibling]
    · rintro bound
      obtain ⟨other, mem, same⟩ := List.mem_map.mp bound
      exact free other (List.mem_filter.mp mem).1 same
  · next role =>
    rw [ProgramRole.ofProgram_eq_none_iff] at role
    simp only [Contract.programs, List.mem_cons, not_or] at role
    simp [filledBy, role]

/-! #### The whole scan -/

theorem addMaps_of_clean (clean : Clean (MapFault module) maps) :
    maps.foldlM (addMap module) {} = .ok (filledBy module maps []) :=
  foldlM_of_clean (fun maps => filledBy module maps []) (fun _ _ => addMap_of_sound) clean

/-- The scan of the maps ends with the error of the first that is at fault. -/
theorem addMaps_of_firstFault (first : FirstFault (MapFault module) maps e) :
    maps.foldlM (addMap module) {} = .error e :=
  foldlM_of_firstFault (fun maps => filledBy module maps []) (fun _ _ => addMap_of_sound)
    (fun _ _ _ => addMap_of_fault) first

/-- The first entry at fault decides what the scan comes to. -/
theorem scan_of_firstOffence (first : FirstOffence module maps programs e) :
    scan module maps programs = .error e := by
  unfold scan
  cases first with
  | inMaps first =>
    rw [addMaps_of_firstFault first]
    rfl
  | inPrograms clean first =>
    rw [addMaps_of_clean clean]
    exact foldlM_of_firstFault (filledBy module maps) (fun _ _ => addProgram_of_sound)
      (fun _ _ _ => addProgram_of_fault) first

/-- Without a fault every slot has the first entry that fills it. -/
theorem scan_of_faultless (h : Faultless module maps programs) :
    scan module maps programs = .ok (filledBy module maps programs) := by
  unfold scan
  rw [addMaps_of_clean h.maps]
  exact foldlM_of_clean (filledBy module maps) (fun _ _ => addProgram_of_sound) h.programs

end Bindings

/-! ### What is missing -/

/-- The names of the roles that no entry fills, in the order of the roles. -/
def absent (module : String) (maps : List MapInfo) (programs : List ProgramInfo) : List String :=
  (MapRole.all.filter fun role => ∀ m ∈ maps, ¬ role.Fills module m).map (MapRole.label module) ++
    [Contract.selectCpu, Contract.siblingCpu].filter fun name => ∀ p ∈ programs, p.name ≠ name

variable {module : String} {maps : List MapInfo} {programs : List ProgramInfo} {e : ControlError}

/-- A slot is empty if no entry fills it. -/
theorem isNone_find?_eq {α : Type} (xs : List α) (P : α → Prop) [DecidablePred P] :
    (xs.find? fun x => P x).isNone = decide (∀ x ∈ xs, ¬ P x) := by
  rw [Bool.eq_iff_iff]
  simp

theorem filter_cons_append {α : Type} (q : α → Bool) (a : α) (xs : List α) :
    (a :: xs).filter q = (if q a then [a] else []) ++ xs.filter q := by
  rw [List.filter_cons]
  split <;> rfl

/-- What the bindings miss is what no entry fills. -/
theorem Bindings.missing_filledBy (module : String) (maps : List MapInfo)
    (programs : List ProgramInfo) :
    (filledBy module maps programs).missing module = absent module maps programs := by
  simp only [missing, absent, filledBy, MapRole.all, isNone_find?_eq, filter_cons_append,
    List.filter_nil, List.map_append, List.append_assoc, List.append_nil, ne_eq, List.map_nil,
    apply_ite (List.map (MapRole.label module)), List.map_cons]

namespace Registry

/-- The map that a registry binds to a role. -/
def map (r : Registry) : MapRole → MapInfo
  | .bss => r.region .bss
  | .data => r.region .data
  | .queued => r.queued
  | .dispatched => r.dispatched
  | .exit => r.exit
  | .structOps => r.structOps

/-- What a registry is made of. -/
structure Complete (r : Registry) (module : String) (b : Bindings) : Prop where
  module : r.module = module
  maps : ∀ role, b.map role = some (r.map role)
  selectCpu : b.selectCpu = some r.selectCpu
  siblingCpu : b.siblingCpu = some r.siblingCpu
  probes : b.probes = r.probes

/-- A registry has what its bindings have. -/
theorem complete_of_ofBindings {b : Bindings} {r : Registry} (h : ofBindings module b = .ok r) :
    r.Complete module b := by
  unfold ofBindings at h
  split at h
  · cases h
    exact ⟨rfl, fun role => by cases role <;> rfl, rfl, rfl, rfl⟩
  · cases h

/-- Slots make a registry if none is empty, and otherwise the empty ones are reported. -/
theorem ofBindings_cases (module : String) (b : Bindings) :
    (b.missing module = [] ∧ ∃ r, ofBindings module b = .ok r) ∨
      b.missing module ≠ [] ∧
        ofBindings module b = .error (.missingResources (b.missing module)) := by
  unfold ofBindings
  split
  · exact .inl ⟨rfl, _, rfl⟩
  · next incomplete =>
    refine .inr ⟨fun none => ?_, rfl⟩
    simp only [Bindings.missing, List.append_eq_nil_iff, ite_eq_right_iff, List.cons_ne_nil,
      imp_false, Option.isNone_iff_eq_none, Option.ne_none_iff_exists'] at none
    obtain ⟨⟨⟨⟨⟨⟨⟨⟨bss, e₁⟩, data, e₂⟩, queued, e₃⟩, dispatched, e₄⟩, exit, e₅⟩, structOps, e₆⟩,
      selectCpu, e₇⟩, siblingCpu, e₈⟩ := none
    refine incomplete bss data queued dispatched exit structOps selectCpu siblingCpu b.probes ?_
    rw [← e₁, ← e₂, ← e₃, ← e₄, ← e₅, ← e₆, ← e₇, ← e₈]

/-- The first entry at fault is what a build fails with, whatever is missing. -/
theorem build_of_firstOffence (first : FirstOffence module maps programs e) :
    build module maps programs = .error e := by
  unfold build
  rw [Bindings.scan_of_firstOffence first]
  rfl

theorem build_of_faultless (h : Faultless module maps programs) :
    build module maps programs = ofBindings module (.filledBy module maps programs) := by
  unfold build
  rw [Bindings.scan_of_faultless h]
  rfl

/-- Without a fault a build succeeds if nothing is missing, and otherwise says what is. -/
theorem build_cases (h : Faultless module maps programs) :
    (absent module maps programs = [] ∧ ∃ r, build module maps programs = .ok r) ∨
      absent module maps programs ≠ [] ∧
        build module maps programs = .error (.missingResources (absent module maps programs)) := by
  rw [build_of_faultless h, ← Bindings.missing_filledBy]
  exact ofBindings_cases module _

end Registry

end SchedPlane
