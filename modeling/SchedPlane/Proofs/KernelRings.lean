/-
SchedPlane/Proofs/KernelRings.lean

What the operations on a kernel do to its rings.

Two things are said of every operation.  Either it leaves all rings and all faults as they
are, `KeepsRings`, which is what loading, attaching, detaching, running and unloading do;
or it changes the ring of one map, and then its lemmas say what becomes of the records
waiting there and that those waiting elsewhere stay.  Everything is phrased through
`Kernel.waiting`, so that a map without a ring needs no case of its own: nothing waits there
and nothing is accepted.  No operation changes how much a ring holds, `Kernel.room`, and this
is what decides whether a record is refused.
-/
import SchedPlane.Kernel.Blueprint

namespace SchedPlane

namespace Kernel

variable {k k' k'' : Kernel} {map other : String} {b : Bytes}

/-! ### Operations that leave rings alone -/

/-- The rings and the faults of a kernel have stayed as they were. -/
structure KeepsRings (k k' : Kernel) : Prop where
  rings : k'.rings = k.rings
  faults : k'.faults = k.faults

theorem KeepsRings.refl (k : Kernel) : KeepsRings k k :=
  ⟨rfl, rfl⟩

theorem KeepsRings.trans (h : KeepsRings k k') (h' : KeepsRings k' k'') : KeepsRings k k'' :=
  ⟨h'.rings.trans h.rings, h'.faults.trans h.faults⟩

/-- Where the rings stay, so do the records that wait there. -/
theorem KeepsRings.waiting (h : KeepsRings k k') (map : String) :
    k'.waiting map = k.waiting map := by
  unfold Kernel.waiting
  rw [h.rings]

theorem keepsRings_record (k : Kernel) (e : JournalEntry) : KeepsRings k (k.record e) :=
  ⟨rfl, rfl⟩

theorem keepsRings_releaseRing (k : Kernel) (map : String) : KeepsRings k (k.releaseRing map) :=
  keepsRings_record k _

theorem keepsRings_setSubprogram (k : Kernel) (name : String) (body : Subprogram) :
    KeepsRings k (k.setSubprogram name body) :=
  ⟨rfl, rfl⟩

theorem keepsRings_detach (k : Kernel) (l : Link) : KeepsRings k (k.detach l).2 := by
  unfold detach
  split <;> exact ⟨rfl, rfl⟩

theorem keepsRings_close (k : Kernel) : KeepsRings k k.close.2 := by
  unfold close
  split
  · exact .refl k
  · split <;> exact ⟨rfl, rfl⟩

theorem keepsRings_runLoaded (k : Kernel) (name : String) (context : Bytes) :
    KeepsRings k (k.runLoaded name context).2 := by
  unfold runLoaded
  split <;> exact ⟨rfl, rfl⟩

/-- To hand out an object is no matter of its rings. -/
theorem keepsRings_load {artifact : Artifact} (h : k.load artifact = .ok k') :
    KeepsRings k k' := by
  unfold load at h
  split at h
  · cases h
  · split at h
    · cases h
    · cases h
      exact ⟨rfl, rfl⟩

theorem keepsRings_attachProgram {name : String} {l : Link}
    (h : k.attachProgram name = .ok (l, k')) : KeepsRings k k' := by
  unfold attachProgram ensureLoaded at h
  by_cases hu : k.unloaded
  · simp [hu, bind, Except.bind] at h
  · simp only [hu, bind, Except.bind, Bool.false_eq_true, if_false] at h
    split at h
    · cases h
    · split at h
      · cases h
      · cases h
        exact ⟨rfl, rfl⟩

theorem keepsRings_attachScheduler {name : String} {l : Link}
    (h : k.attachScheduler name = .ok (l, k')) : KeepsRings k k' := by
  unfold attachScheduler ensureLoaded at h
  by_cases hu : k.unloaded
  · simp [hu, bind, Except.bind] at h
  · simp only [hu, bind, Except.bind, Bool.false_eq_true, if_false] at h
    split at h
    · cases h
    · split at h
      · cases h
      · split at h
        · cases h
        · split at h
          · cases h
          · cases h
            exact ⟨rfl, rfl⟩

/-- To open a ring takes no record out of it. -/
theorem keepsRings_openRing (h : k.openRing map = .ok k') : KeepsRings k k' := by
  unfold openRing at h
  split at h
  · cases h
  · split at h
    · cases h
    · cases h
      exact keepsRings_record k _

/-! ### Replacing one ring -/

theorem waiting_of_get? {r : Ring} (h : k.rings.get? map = some r) :
    k.waiting map = r.records := by
  simp [waiting, h]

theorem waiting_of_get?_none (h : k.rings.get? map = none) : k.waiting map = [] := by
  simp [waiting, h]

@[simp] theorem waiting_setRing (k : Kernel) (map : String) (r : Ring) :
    (k.setRing map r).waiting map = r.records := by
  simp [waiting, setRing]

theorem waiting_setRing_of_ne (k : Kernel) (h : map ≠ other) (r : Ring) :
    (k.setRing map r).waiting other = k.waiting other := by
  simp [waiting, setRing, Table.get?_set_of_ne h]

/-- Replacing a ring takes none away. -/
theorem isSome_ring_setRing {r : Ring} (map : String) (h : (k.rings.get? other).isSome) :
    ((k.setRing map r).rings.get? other).isSome := by
  by_cases same : map = other
  · simp [setRing, same]
  · rw [setRing, Table.get?_set_of_ne same]
    exact h

/-- A record that is accepted stands at the end of the ring afterwards. -/
theorem push?_records {r r' : Ring} (h : r.push? b = some r') : r'.records = r.records ++ [b] := by
  unfold Ring.push? at h
  split at h
  · cases h
  · cases h
    rfl

/-- What comes out of a ring stood at its front. -/
theorem pop?_records {r r' : Ring} (h : r.pop? = some (b, r')) : r.records = b :: r'.records := by
  unfold Ring.pop? at h
  split at h
  · cases h
  · next e =>
    cases h
    exact e

/-- Nothing comes out of a ring only when it is empty. -/
theorem empty_of_pop? {r : Ring} (h : r.pop? = none) : r.records = [] := by
  unfold Ring.pop? at h
  split at h
  · assumption
  · cases h

/-! ### Productions -/

/-- A production is refused and changes nothing, or its record goes to the end of the ring. -/
theorem produce_cases (k : Kernel) (map : String) (b : Bytes) :
    k.produce map b = (false, k) ∨
      ∃ r : Ring, r.records = k.waiting map ++ [b] ∧ k.produce map b = (true, k.setRing map r) := by
  unfold produce
  rcases e : (k.rings.get? map).bind (·.push? b) with - | r'
  · exact Or.inl rfl
  · obtain ⟨r, hr, hpush⟩ := Option.bind_eq_some_iff.mp e
    exact Or.inr ⟨r', by rw [waiting_of_get? hr, push?_records hpush], rfl⟩

/-- A record that is produced shows at no other ring. -/
theorem waiting_produce_of_ne (k : Kernel) (h : map ≠ other) (b : Bytes) :
    (k.produce map b).2.waiting other = k.waiting other := by
  rcases produce_cases k map b with e | ⟨r, -, e⟩
  · rw [e]
  · rw [e]
    exact waiting_setRing_of_ne k h r

theorem faults_produce (k : Kernel) (map : String) (b : Bytes) :
    (k.produce map b).2.faults = k.faults := by
  rcases produce_cases k map b with e | ⟨r, -, e⟩
  · rw [e]
  · rw [e]
    rfl

/-! ### The dispatch ring -/

/-- The kernel takes a decision off the dispatch ring, and nothing else happens to it. -/
theorem takeDispatched_eq_some (h : k.takeDispatched = some (b, k')) :
    ∃ r r' : Ring, k.rings.get? Contract.dispatched = some r ∧ r.pop? = some (b, r') ∧
      k' = k.setRing Contract.dispatched r' := by
  unfold takeDispatched at h
  split at h
  · next r' popped =>
    obtain ⟨r, ring, pop⟩ := Option.bind_eq_some_iff.mp popped
    cases h
    exact ⟨r, r', ring, pop, rfl⟩
  · cases h

/-- The decision the kernel takes stood at the front of the dispatch ring. -/
theorem waiting_takeDispatched (h : k.takeDispatched = some (b, k')) :
    k.waiting Contract.dispatched = b :: k'.waiting Contract.dispatched ∧
      k'.faults = k.faults ∧
      ∀ other, Contract.dispatched ≠ other → k'.waiting other = k.waiting other := by
  obtain ⟨r, r', ring, pop, rfl⟩ := takeDispatched_eq_some h
  refine ⟨?_, rfl, fun other hne => waiting_setRing_of_ne k hne r'⟩
  rw [waiting_of_get? ring, pop?_records pop, waiting_setRing]

/-- A submitted record is published at the end of the ring, or nothing happens to the kernel. -/
theorem submit_cases (k : Kernel) (map : String) (b : Bytes) :
    (k.submit map b).1 ≠ .published ∧ (k.submit map b).2 = k ∨
      ∃ r : Ring, r.records = k.waiting map ++ [b] ∧
        k.submit map b = (.published, k.setRing map r) := by
  unfold submit
  by_cases hpanic : b ∈ k.faults.submitPanics
  · rw [if_pos hpanic]
    exact Or.inl ⟨by simp, rfl⟩
  · rw [if_neg hpanic]
    rcases k.faults.submitErrors.lookup b with - | e
    · rcases e : (k.rings.get? map).bind (·.push? b) with - | r'
      · exact Or.inl ⟨by simp, rfl⟩
      · obtain ⟨r, hr, hpush⟩ := Option.bind_eq_some_iff.mp e
        exact Or.inr ⟨r', by rw [waiting_of_get? hr, push?_records hpush], rfl⟩
    · exact Or.inl ⟨by simp, rfl⟩

/-- A record that is submitted shows at no other ring. -/
theorem waiting_submit_of_ne (k : Kernel) (h : map ≠ other) (b : Bytes) :
    (k.submit map b).2.waiting other = k.waiting other := by
  rcases k.submit_cases map b with ⟨-, same⟩ | ⟨r, -, e⟩
  · rw [same]
  · rw [e]
    exact waiting_setRing_of_ne k h r

theorem faults_submit (k : Kernel) (map : String) (b : Bytes) :
    (k.submit map b).2.faults = k.faults := by
  rcases k.submit_cases map b with ⟨-, same⟩ | ⟨r, -, e⟩
  · rw [same]
  · rw [e]
    rfl

/-- Whether submitting a record panics depends on the record alone. -/
theorem submit_eq_panicked (k : Kernel) (map : String) (b : Bytes) :
    (k.submit map b).1 = .panicked ↔ b ∈ k.faults.submitPanics := by
  unfold submit
  split
  · next panics => simp [panics]
  · next calm =>
    simp only [calm, iff_false]
    split
    · simp
    · split <;> simp

/-- A submission panics only where the kernel says so. -/
theorem submit_ne_panicked (noPanics : k.faults.submitPanics = []) (map : String) (b : Bytes) :
    (k.submit map b).1 ≠ .panicked := by
  rw [Ne, submit_eq_panicked, noPanics]
  exact List.not_mem_nil

/-- Without faults a submitted record is published unless the ring is full. -/
theorem submit_answer (hpanic : k.faults.submitPanics = []) (herror : k.faults.submitErrors = [])
    (map : String) (b : Bytes) :
    (k.submit map b).1 = .published ∨ (k.submit map b).1 = .full := by
  unfold submit
  rw [hpanic, herror]
  simp only [List.not_mem_nil, if_false, List.lookup_nil]
  split
  · exact Or.inl rfl
  · exact Or.inr rfl

/-! ### The room of a ring -/

/-- The number of records that the ring of a map has room for, if there is one. -/
def room (k : Kernel) (map : String) : Option Nat :=
  (k.rings.get? map).map Ring.capacity

theorem room_of_get? {r : Ring} (h : k.rings.get? map = some r) : k.room map = some r.capacity := by
  rw [room, h]
  rfl

theorem KeepsRings.room (h : KeepsRings k k') (map : String) : k'.room map = k.room map := by
  rw [Kernel.room, Kernel.room, h.rings]

/-- A ring is replaced by one of the same size. -/
theorem room_setRing {r r' : Ring} (h : k.rings.get? map = some r) (same : r'.capacity = r.capacity)
    (other : String) : (k.setRing map r').room other = k.room other := by
  by_cases here : map = other
  · subst here
    rw [room_of_get? h, ← same]
    simp [room, setRing]
  · rw [room, room, setRing, Table.get?_set_of_ne here]

theorem push?_capacity {r r' : Ring} (h : r.push? b = some r') : r'.capacity = r.capacity := by
  unfold Ring.push? at h
  split at h
  · cases h
  · cases h
    rfl

theorem pop?_capacity {r r' : Ring} (h : r.pop? = some (b, r')) : r'.capacity = r.capacity := by
  unfold Ring.pop? at h
  split at h
  · cases h
  · cases h
    rfl

/-- A ring refuses a record just when it is full. -/
theorem push?_eq_none_iff {r : Ring} : r.push? b = none ↔ r.capacity ≤ r.records.length := by
  simp [Ring.push?, Ring.isFull]

theorem room_produce (k : Kernel) (map : String) (b : Bytes) (other : String) :
    (k.produce map b).2.room other = k.room other := by
  unfold produce
  split
  · next r' pushed =>
    obtain ⟨r, ring, push⟩ := Option.bind_eq_some_iff.mp pushed
    exact room_setRing ring (push?_capacity push) other
  · rfl

theorem room_submit (k : Kernel) (map : String) (b : Bytes) (other : String) :
    (k.submit map b).2.room other = k.room other := by
  unfold submit
  split
  · rfl
  · split
    · rfl
    · split
      · next r' pushed =>
        obtain ⟨r, ring, push⟩ := Option.bind_eq_some_iff.mp pushed
        exact room_setRing ring (push?_capacity push) other
      · rfl

theorem room_takeDispatched (h : k.takeDispatched = some (b, k')) (other : String) :
    k'.room other = k.room other := by
  obtain ⟨r, r', ring, pop, rfl⟩ := takeDispatched_eq_some h
  exact room_setRing ring (pop?_capacity pop) _

/-- Whether a record is pushed depends on the room of the ring and on what waits there. -/
theorem push_eq_none_iff {n : Nat} (h : k.room map = some n) (b : Bytes) :
    (k.rings.get? map).bind (·.push? b) = none ↔ n ≤ (k.waiting map).length := by
  obtain ⟨r, ring, rfl⟩ := Option.map_eq_some_iff.mp h
  rw [ring, waiting_of_get? ring]
  exact push?_eq_none_iff

/-- **A production is refused just when the ring is full.** -/
theorem produce_refused_iff {n : Nat} (h : k.room map = some n) (b : Bytes) :
    (k.produce map b).1 = false ↔ n ≤ (k.waiting map).length := by
  rw [← push_eq_none_iff h b]
  unfold produce
  split
  · next pushed => simp [pushed]
  · next refused => simp [refused]

/-- Without faults a submission is refused just when the ring is full. -/
theorem submit_full_iff {n : Nat} (noPanics : k.faults.submitPanics = [])
    (noErrors : k.faults.submitErrors = []) (h : k.room map = some n) (b : Bytes) :
    (k.submit map b).1 = .full ↔ n ≤ (k.waiting map).length := by
  rw [← push_eq_none_iff h b]
  unfold submit
  rw [noPanics, noErrors]
  simp only [List.not_mem_nil, if_false, List.lookup_nil]
  split
  · next pushed => simp [pushed]
  · next refused => simp [refused]

/-! ### New kernels -/

/-- Every ring of a new object is empty, and they all have the same room. -/
theorem ring_of_ringTable (capacity : Nat) (maps : List (String × MapKind)) {r : Ring}
    (h : (Blueprint.ringTable capacity maps).get? map = some r) : r = { capacity } := by
  unfold Blueprint.ringTable at h
  -- an invariant of the fold over the ring maps
  refine List.foldlRecOn
    (motive := fun t : Table Ring => ∀ r, t.get? map = some r → r = { capacity }) _ _
    (fun r hr => ?_) (fun t ih m _ r hr => ?_) r h
  · simp [Table.get?] at hr
  · change (t.set m.1 { capacity }).get? map = some r at hr
    by_cases hm : m.1 = map
    · rw [hm, Table.get?_set_self, Option.some.injEq] at hr
      exact hr.symm
    · rw [Table.get?_set_of_ne hm] at hr
      exact ih r hr

/-- A kernel that was just built has nothing in its rings. -/
theorem waiting_build (p : Blueprint) (faults : Faults) (map : String) :
    (p.build faults).waiting map = [] := by
  rcases e : (p.build faults).rings.get? map with - | r
  · exact waiting_of_get?_none e
  · rw [waiting_of_get? e, ring_of_ringTable p.ringCapacity p.maps e]

end Kernel

end SchedPlane
