/-
SchedPlane/Selection.lean

The result of CPU selection.  The kernel program answers with a word: a value up to
2^31 - 1 names a CPU, and anything above it (a negative value read as unsigned) means
that any CPU will do.  The answer is decoded once, and the sentinel that the kernel
program reads in a decision, `anyCpu`, is written only by `Selection.toKernel`.
-/
import SchedPlane.Record

namespace SchedPlane

/-- The CPU field of a decision that leaves the choice to the kernel program. -/
def anyCpu : Int32 := 1048576

/-- Where the kernel program wants a task to run. -/
inductive Selection where
  /-- Run on this CPU. -/
  | specific (cpu : Int32)
  /-- Any CPU is acceptable. -/
  | any
  deriving DecidableEq, Repr

namespace Selection

/-- The largest word that names a CPU. -/
def greatestCpu : Nat := 2147483647

/-- The selection that a returned word stands for. -/
def ofRaw (raw : UInt64) : Selection :=
  if greatestCpu < raw.toNat then .any else .specific (Int32.ofNat raw.toNat)

/-- The CPU field that tells the kernel program about a selection. -/
def toKernel : Selection → Int32
  | .specific cpu => cpu
  | .any => anyCpu

/-- Whether a machine with `cpus` CPUs can follow the selection. -/
def isWithin (cpus : UInt32) : Selection → Bool
  | .specific cpu => decide (0 ≤ cpu.toInt) && decide (cpu.toInt < cpus.toNat)
  | .any => true

/-! ### What words stand for -/

variable {raw : UInt64} {cpu : Int32}

theorem ofRaw_eq_any_iff : ofRaw raw = .any ↔ 2147483648 ≤ raw.toNat := by
  unfold ofRaw greatestCpu
  split
  · next large => exact iff_of_true rfl large
  · next small =>
    have named : specific (Int32.ofNat raw.toNat) ≠ any := by simp
    exact iff_of_false named (by omega)

/-- A word names a CPU just if it is its number. -/
theorem ofRaw_eq_specific_iff : ofRaw raw = .specific cpu ↔ cpu.toInt = raw.toNat := by
  have bound : cpu.toInt < 2147483648 := cpu.toInt_lt
  unfold ofRaw greatestCpu
  split
  · next large =>
    have unnamed : any ≠ specific cpu := by simp
    exact iff_of_false unnamed (by omega)
  · next small =>
    have number : (Int32.ofNat raw.toNat).toInt = raw.toNat :=
      Int32.toInt_ofNat_of_lt (by omega)
    rw [specific.injEq, ← Int32.toInt_inj, number, eq_comm]

end Selection

/-- The decision that places a task where its selection says. -/
def Decision.place (t : Task) (s : Selection) : Decision :=
  Decision.forTask t.pid s.toKernel t.flags

end SchedPlane
