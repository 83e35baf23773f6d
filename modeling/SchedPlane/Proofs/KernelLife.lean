/-
SchedPlane/Proofs/KernelLife.lean

What the operations on a kernel do to its journal and to its flags.

`Lived k entries k'` says that the journal has grown by the given entries, that neither the
attached nor the unloaded flag has changed, and that no ring has gone.  Most operations write no
entry: productions, submissions, runs and the changes that the kernel makes by itself.  An
attach, an opened or released ring and a detached probe write one.  Only attaching and detaching
a scheduler and unloading change a flag, and they have lemmas of their own.
-/
import SchedPlane.Proofs.KernelRings

namespace SchedPlane

namespace Kernel

variable {k k' k'' : Kernel} {es es' : List JournalEntry} {map : String} {b : Bytes}

/-- The journal has grown by some entries, the flags are as they were, and no ring is gone. -/
structure Lived (k : Kernel) (es : List JournalEntry) (k' : Kernel) : Prop where
  journal : k'.journal = k.journal ++ es
  attached : k'.attached = k.attached
  unloaded : k'.unloaded = k.unloaded
  rings : ∀ map, (k.rings.get? map).isSome → (k'.rings.get? map).isSome

theorem Lived.refl (k : Kernel) : Lived k [] k :=
  ⟨by simp, rfl, rfl, fun _ ring => ring⟩

theorem Lived.trans (h : Lived k es k') (h' : Lived k' es' k'') : Lived k (es ++ es') k'' where
  journal := by rw [h'.journal, h.journal, List.append_assoc]
  attached := h'.attached.trans h.attached
  unloaded := h'.unloaded.trans h.unloaded
  rings map ring := h'.rings map (h.rings map ring)

/-! ### Operations without an entry -/

theorem lived_setRing (k : Kernel) (map : String) (r : Ring) : Lived k [] (k.setRing map r) :=
  ⟨by simp [setRing], rfl, rfl, fun _ ring => isSome_ring_setRing map ring⟩

/-- To produce a record is no event in the life of an object. -/
theorem lived_produce (k : Kernel) (map : String) (b : Bytes) :
    Lived k [] (k.produce map b).2 := by
  rcases produce_cases k map b with e | ⟨r, -, e⟩
  · rw [e]
    exact .refl k
  · rw [e]
    exact lived_setRing k map r

theorem lived_submit (k : Kernel) (map : String) (b : Bytes) : Lived k [] (k.submit map b).2 := by
  rcases submit_cases k map b with ⟨-, e⟩ | ⟨r, -, e⟩
  · rw [e]
    exact .refl k
  · rw [e]
    exact lived_setRing k map r

theorem lived_takeDispatched (h : k.takeDispatched = some (b, k')) : Lived k [] k' := by
  obtain ⟨_, r', -, -, rfl⟩ := takeDispatched_eq_some h
  exact lived_setRing k _ r'

theorem lived_setSubprogram (k : Kernel) (name : String) (body : Subprogram) :
    Lived k [] (k.setSubprogram name body) :=
  ⟨by simp [setSubprogram], rfl, rfl, fun _ ring => ring⟩

theorem lived_setValue (k : Kernel) (map : String) (value : Bytes) :
    Lived k [] (k.setValue map value) :=
  ⟨by simp [setValue], rfl, rfl, fun _ ring => ring⟩

theorem lived_setAttachFailure (k : Kernel) (name : String) (failing : Bool) :
    Lived k [] (k.setAttachFailure name failing) :=
  ⟨by simp [setAttachFailure], rfl, rfl, fun _ ring => ring⟩

/-- A run of a subprogram is counted and not journaled. -/
theorem lived_runLoaded (k : Kernel) (name : String) (context : Bytes) :
    Lived k [] (k.runLoaded name context).2 := by
  unfold runLoaded
  split
  · exact .refl k
  · exact ⟨by simp, rfl, rfl, fun _ ring => ring⟩

/-! ### Operations with an entry -/

/-- The release of a ring is one entry. -/
theorem lived_releaseRing (k : Kernel) (map : String) :
    Lived k [.released map] (k.releaseRing map) :=
  ⟨rfl, rfl, rfl, fun _ ring => ring⟩

/-- Whether or not it reports an error, detaching releases the link. -/
theorem detach_snd (k : Kernel) (l : Link) : (k.detach l).2 = k.release l := by
  unfold detach
  split <;> rfl

/-- Releasing the link of a program leaves the scheduler where it is. -/
theorem lived_detach (k : Kernel) {l : Link} (probe : l.isScheduler = false) :
    Lived k [.detached l.label] (k.detach l).2 := by
  rw [detach_snd]
  exact ⟨rfl, by simp [release, record, probe], rfl, fun _ ring => ring⟩

/-- Unloading is the last entry, whether or not it reports an error. -/
theorem close_of_loaded (h : k.unloaded = false) :
    k.close.2 = { k with unloaded := true }.record .unloaded := by
  unfold close
  rw [h]
  simp only [Bool.false_eq_true, if_false]
  split <;> rfl

end Kernel

end SchedPlane
