/-
SchedPlane/Bytes.lean

Byte strings and little-endian words.  Every record shared with the kernel program
is a concatenation of fixed-width integers, least significant byte first, with no
framing.  `Bytes.ofNatLE w n` writes the low `w` bytes of `n`, and `Bytes.toNatLE`
reads a byte string back as a natural; signed fields go through their two's
complement word.
-/

namespace SchedPlane

/-- A byte string: a record on a ring, the context of a subprogram, a map value. -/
abbrev Bytes := List UInt8

namespace Bytes

/-- The `w` low bytes of `n`, least significant first. -/
def ofNatLE : Nat → Nat → Bytes
  | 0, _ => []
  | w + 1, n => UInt8.ofNat n :: ofNatLE w (n / 256)

/-- The natural whose bytes, least significant first, are given. -/
def toNatLE : Bytes → Nat
  | [] => 0
  | b :: rest => b.toNat + 256 * toNatLE rest

/-- A signed 32-bit field: its two's complement word, four bytes. -/
def ofInt32 (x : Int32) : Bytes :=
  ofNatLE 4 x.toUInt32.toNat

/-- The signed 32-bit value of a field. -/
def toInt32 (b : Bytes) : Int32 :=
  (UInt32.ofNat (toNatLE b)).toInt32

/-- An unsigned 64-bit field, eight bytes. -/
def ofUInt64 (x : UInt64) : Bytes :=
  ofNatLE 8 x.toNat

/-- The unsigned 64-bit value of a field. -/
def toUInt64 (b : Bytes) : UInt64 :=
  UInt64.ofNat (toNatLE b)

/-- The `width` bytes at `offset`; fewer where the string ends. -/
def slice (b : Bytes) (offset width : Nat) : Bytes :=
  (b.drop offset).take width

/-! ### Widths -/

@[simp] theorem length_ofNatLE (w n : Nat) : (ofNatLE w n).length = w := by
  induction w generalizing n with
  | zero => rfl
  | succ w ih => simp [ofNatLE, ih]

@[simp] theorem length_ofInt32 (x : Int32) : (ofInt32 x).length = 4 :=
  length_ofNatLE 4 _

@[simp] theorem length_ofUInt64 (x : UInt64) : (ofUInt64 x).length = 8 :=
  length_ofNatLE 8 _

end Bytes

end SchedPlane
