/-
SchedPlane/Proofs/RecordCodec.lean

Records on the wire, written and read.

A record is a row of fields, and a field is an integer in a fixed number of bytes.  `Bytes.ofNatLE`
and `Bytes.toNatLE` are inverse to each other up to the width, the detour of a signed field over
its two's complement word loses nothing, and so every field is read back as it was written and
written again as it was read (`Bytes.Field`).  Reading a record looks at one slice after the other,
and the slices put together are the front of the string (`Bytes.slice_append_slice`).

`Bytes.digits` says which bytes an integer has without a codec: its last digits to the base 256,
the least first.  `Records` is what both kinds of record have in common.

Main result: `wire_roundTrip`, with what follows for the tasks that the kernel offers and for the
decisions and the call-outs that answer them.
-/
import Mathlib.Tactic.Ring
import SchedPlane.Callout
import SchedPlane.Proofs.KernelRings

namespace SchedPlane

namespace Bytes

/-! ### Naturals -/

/-- A number is read back as far as its bytes reach. -/
theorem toNatLE_ofNatLE (w n : Nat) : toNatLE (ofNatLE w n) = n % 256 ^ w := by
  induction w generalizing n with
  | zero => simp [ofNatLE, toNatLE, Nat.mod_one]
  | succ w ih =>
    have low : (UInt8.ofNat n).toNat = n % 256 := UInt8.toNat_ofNat'
    rw [ofNatLE, toNatLE, ih, low, Nat.pow_succ', Nat.mod_mul]

/-- Bytes are written back from their number. -/
theorem ofNatLE_toNatLE (b : Bytes) : ofNatLE b.length (toNatLE b) = b := by
  induction b with
  | nil => rfl
  | cons x rest ih =>
    have small : x.toNat < 256 := x.toNat_lt
    have low : UInt8.ofNat (x.toNat + 256 * toNatLE rest) = x := by
      apply UInt8.toNat_inj.mp
      rw [UInt8.toNat_ofNat']
      omega
    have high : (x.toNat + 256 * toNatLE rest) / 256 = toNatLE rest := by omega
    rw [List.length_cons, toNatLE, ofNatLE, low, high, ih]

theorem toNatLE_lt (b : Bytes) : toNatLE b < 256 ^ b.length := by
  rw [← ofNatLE_toNatLE b, toNatLE_ofNatLE, length_ofNatLE]
  exact Nat.mod_lt _ (Nat.pow_pos (by decide))

/-! ### Fields -/

/-- A field of a fixed width: it fills the width, what was written is read back, and what was read
from as many bytes is written again. -/
structure Field {β : Type} (width : Nat) (write : β → Bytes) (read : Bytes → β) : Prop where
  length : ∀ x, (write x).length = width
  read_write : ∀ x, read (write x) = x
  write_read : ∀ b : Bytes, b.length = width → write (read b) = b

theorem field_int32 : Field 4 ofInt32 toInt32 where
  length := length_ofInt32
  read_write x := by
    have word : x.toUInt32.toNat < 256 ^ 4 := x.toUInt32.toNat_lt
    rw [toInt32, ofInt32, toNatLE_ofNatLE, Nat.mod_eq_of_lt word, UInt32.ofNat_toNat]
    rfl
  write_read b four := by
    have word := toNatLE_lt b
    rw [four] at word
    rw [ofInt32, toInt32, UInt32.toUInt32_toInt32, UInt32.toNat_ofNat_of_lt' word, ← four,
      ofNatLE_toNatLE]

theorem field_uint64 : Field 8 ofUInt64 toUInt64 where
  length := length_ofUInt64
  read_write x := by
    have word : x.toNat < 256 ^ 8 := x.toNat_lt
    rw [toUInt64, ofUInt64, toNatLE_ofNatLE, Nat.mod_eq_of_lt word, UInt64.ofNat_toNat]
  write_read b eight := by
    have word := toNatLE_lt b
    rw [eight] at word
    rw [ofUInt64, toUInt64, UInt64.toNat_ofNat_of_lt' word, ← eight, ofNatLE_toNatLE]

/-! ### Slices -/

/-- The part of a string that comes after `a` and before `rest`. -/
theorem slice_between {a b : Bytes} {offset width : Nat} (here : a.length = offset)
    (wide : b.length = width) (rest : Bytes) : (a ++ (b ++ rest)).slice offset width = b := by
  rw [slice, ← here, List.drop_left, List.take_left' wide]

/-- Fields side by side make up the bytes. -/
theorem slice_append_slice (b : Bytes) (offset v w : Nat) :
    b.slice offset v ++ b.slice (offset + v) w = b.slice offset (v + w) := by
  rw [slice, slice, slice, List.take_add, List.drop_drop]

theorem length_slice {b : Bytes} {offset width : Nat} (inside : offset + width ≤ b.length) :
    (b.slice offset width).length = width := by
  rw [slice, List.length_take, List.length_drop]
  omega

/-- Writing the field that was read at a place gives the bytes of that place. -/
theorem Field.write_slice {β : Type} {width : Nat} {write : β → Bytes} {read : Bytes → β}
    (field : Field width write read) {b : Bytes} {offset : Nat}
    (inside : offset + width ≤ b.length) :
    write (read (b.slice offset width)) = b.slice offset width :=
  field.write_read _ (length_slice inside)

/-! ### Digits -/

/-- The bytes of an integer in a field of a width: its last digits to the base 256, the least first.
Division goes down, so the digits of a negative integer are those of its two's complement. -/
def digits (w : Nat) (x : Int) : Bytes :=
  (List.range w).map fun i => UInt8.ofInt (x / 256 ^ i)

theorem ofInt_add_mul (x c : Int) : UInt8.ofInt (x + 256 * c) = UInt8.ofInt x := by
  have same : (x + 256 * c) % 2 ^ 8 = x % 2 ^ 8 := Int.add_mul_emod_self_left x 256 c
  rw [UInt8.ofInt, same, UInt8.ofInt]

/-- Full turns of the field change no digit. -/
theorem digits_add_mul (w : Nat) (x c : Int) : digits w (x + 256 ^ w * c) = digits w x := by
  refine List.map_congr_left fun i inside => ?_
  obtain ⟨more, rfl⟩ := Nat.exists_eq_add_of_lt (List.mem_range.mp inside)
  have split : (256 : Int) ^ (i + more + 1) * c = 256 ^ i * (256 * (256 ^ more * c)) := by ring
  rw [split, Int.add_mul_ediv_left _ _ (pow_ne_zero i (by decide)), ofInt_add_mul]

/-- The writer of naturals writes the digits of the layout. -/
theorem ofNatLE_eq_digits (w n : Nat) : ofNatLE w n = digits w n := by
  induction w generalizing n with
  | zero => rfl
  | succ w ih =>
    have low : UInt8.ofInt ((n : Int) / 256 ^ 0) = UInt8.ofNat n := by
      apply UInt8.toNat_inj.mp
      rw [pow_zero, Int.ediv_one, UInt8.ofInt, UInt8.toNat_ofNat', UInt8.toNat_ofNat']
      omega
    have high (i : Nat) : (n : Int) / 256 ^ (i + 1) = ((n / 256 : Nat) : Int) / 256 ^ i := by
      rw [Int.natCast_ediv, pow_succ', ← Int.ediv_ediv_of_nonneg (by decide)]
      rfl
    rw [ofNatLE, ih, digits, digits, List.range_succ_eq_map, List.map_cons, low, List.map_map]
    simp only [Function.comp_def, Nat.succ_eq_add_one, high]

/-- The writer of signed fields writes the digits of the layout, the sign taken modulo the width. -/
theorem ofInt32_eq_digits (x : Int32) : ofInt32 x = digits 4 x.toInt := by
  -- the word of a negative integer is larger by one full turn
  have turn : ∃ c : Int, (x.toUInt32.toNat : Int) = x.toInt + 256 ^ 4 * c := by
    have word : x.toUInt32.toNat = x.toBitVec.toNat := rfl
    rw [word, Int32.toInt, BitVec.toInt_eq_toNat_cond]
    split
    · exact ⟨0, by simp⟩
    · exact ⟨1, by norm_num⟩
  obtain ⟨c, turn⟩ := turn
  rw [ofInt32, ofNatLE_eq_digits, turn, digits_add_mul]

theorem ofUInt64_eq_digits (x : UInt64) : ofUInt64 x = digits 8 x.toNat :=
  ofNatLE_eq_digits 8 x.toNat

end Bytes

/-! ### Records -/

/-- A kind of record with a fixed wire size, `encode` writing it and `decode` reading it from the
front of a string. -/
structure Records {β : Type} (wireSize : Nat) (encode : β → Bytes)
    (decode : Bytes → Except Truncated β) : Prop where
  length : ∀ x, (encode x).length = wireSize
  /-- A record is read back whatever follows it. -/
  decode_encode : ∀ x rest, decode (encode x ++ rest) = .ok x
  /-- Reading fails just on a string that is too short, and then with both lengths. -/
  refused : ∀ b e, decode b = .error e ↔ b.length < wireSize ∧ e = ⟨wireSize, b.length⟩
  encode_decode : ∀ b x, decode b = .ok x → encode x = b.take wireSize

/-- Records that are written alike are read back as one. -/
theorem Records.injective {β : Type} {wireSize : Nat} {encode : β → Bytes}
    {decode : Bytes → Except Truncated β} (records : Records wireSize encode decode) :
    Function.Injective encode := by
  intro x y same
  have read := records.decode_encode x []
  rw [same, records.decode_encode y []] at read
  exact (Except.ok.inj read).symm

/-- What a check of the length alone refuses. -/
theorem refused_iff {β : Type} {size : Nat} {b : Bytes} {x : β} {e : Truncated} :
    (if b.length < size then .error ⟨size, b.length⟩ else .ok x : Except Truncated β) = .error e ↔
      b.length < size ∧ e = ⟨size, b.length⟩ := by
  split
  · next short => simp [short, eq_comm]
  · next long => simp [long]

/-- Three fields in a row, with nothing between them, make a record. -/
theorem records_of_fields {α₁ α₂ α₃ β : Type} {u v w : Nat} {write₁ : α₁ → Bytes}
    {read₁ : Bytes → α₁} {write₂ : α₂ → Bytes} {read₂ : Bytes → α₂} {write₃ : α₃ → Bytes}
    {read₃ : Bytes → α₃} (first : Bytes.Field u write₁ read₁) (second : Bytes.Field v write₂ read₂)
    (third : Bytes.Field w write₃ read₃) (fields : β ≃ α₁ × α₂ × α₃) :
    Records (u + v + w)
      (fun x => write₁ (fields x).1 ++ write₂ (fields x).2.1 ++ write₃ (fields x).2.2)
      (fun b =>
        if b.length < u + v + w then .error ⟨u + v + w, b.length⟩
        else .ok (fields.symm
          (read₁ (b.slice 0 u), read₂ (b.slice u v), read₃ (b.slice (u + v) w)))) where
  length x := by simp [first.length, second.length, third.length, Nat.add_assoc]
  decode_encode x rest := by
    have len₁ := first.length (fields x).1
    have len₂ := second.length (fields x).2.1
    have len₃ := third.length (fields x).2.2
    -- only the lengths of the three parts matter for where they are cut out
    generalize e₁ : write₁ (fields x).1 = a at len₁
    generalize e₂ : write₂ (fields x).2.1 = b at len₂
    generalize e₃ : write₃ (fields x).2.2 = c at len₃
    have enough : ¬ (a ++ b ++ c ++ rest).length < u + v + w := by
      simp only [List.length_append]
      omega
    have slice₁ : Bytes.slice (a ++ b ++ c ++ rest) 0 u = a := by
      simpa using Bytes.slice_between (a := []) rfl len₁ (b ++ (c ++ rest))
    have slice₂ : Bytes.slice (a ++ b ++ c ++ rest) u v = b := by
      simpa using Bytes.slice_between len₁ len₂ (c ++ rest)
    have slice₃ : Bytes.slice (a ++ b ++ c ++ rest) (u + v) w = c := by
      have both : (a ++ b).length = u + v := by rw [List.length_append, len₁, len₂]
      simpa using Bytes.slice_between both len₃ rest
    rw [if_neg enough, slice₁, slice₂, slice₃, ← e₁, ← e₂, ← e₃, first.read_write,
      second.read_write, third.read_write]
    exact congrArg Except.ok (fields.symm_apply_apply x)
  refused _ _ := refused_iff
  encode_decode b x read := by
    split at read
    · cases read
    · next long =>
      rw [Nat.not_lt] at long
      cases read
      -- the three parts put together are the first bytes that were read
      have front := Bytes.slice_append_slice b 0 u v
      have whole := Bytes.slice_append_slice b 0 (u + v) w
      rw [Nat.zero_add] at front whole
      simp only [Equiv.apply_symm_apply]
      rw [first.write_slice (by omega), second.write_slice (by omega), third.write_slice long,
        front, whole]
      rfl

/-- The fields of a task in the order of the wire. -/
def Task.fields : Task ≃ Int32 × Int32 × UInt64 where
  toFun t := (t.pid, t.cpu, t.flags)
  invFun f := ⟨f.1, f.2.1, f.2.2⟩

/-- The fields of a relation in the order of the wire. -/
def Relation.fields : Relation ≃ Int32 × Int32 × Int32 where
  toFun r := (r.level, r.cpu, r.sibling)
  invFun f := ⟨f.1, f.2.1, f.2.2⟩

theorem Task.records : Records wireSize encode decode :=
  records_of_fields Bytes.field_int32 Bytes.field_int32 Bytes.field_uint64 Task.fields

theorem Relation.records : Records wireSize encode decode :=
  records_of_fields Bytes.field_int32 Bytes.field_int32 Bytes.field_int32 Relation.fields

/-- The layout of a task: two signed fields of four bytes and a natural of eight, least byte
first. -/
theorem Task.encode_eq_digits (t : Task) : t.encode =
    Bytes.digits 4 t.pid.toInt ++ Bytes.digits 4 t.cpu.toInt ++ Bytes.digits 8 t.flags.toNat := by
  rw [encode, Bytes.ofInt32_eq_digits, Bytes.ofInt32_eq_digits, Bytes.ofUInt64_eq_digits]

/-- The layout of a relation: three signed fields of four bytes, least byte first. -/
theorem Relation.encode_eq_digits (r : Relation) : r.encode =
    Bytes.digits 4 r.level.toInt ++ Bytes.digits 4 r.cpu.toInt ++
      Bytes.digits 4 r.sibling.toInt := by
  rw [encode, Bytes.ofInt32_eq_digits, Bytes.ofInt32_eq_digits, Bytes.ofInt32_eq_digits]

/-! ### The round trip -/

/-- A task that the kernel offers and the ring accepts waits behind the others. -/
theorem Kernel.waiting_enqueueTask {k : Kernel} {t : Task} (accepted : (k.enqueueTask t).1 = true) :
    (k.enqueueTask t).2.waiting Contract.queued = k.waiting Contract.queued ++ [t.encode] := by
  rcases k.produce_cases Contract.queued t.encode with e | ⟨r, records, e⟩
  · rw [enqueueTask, e] at accepted
    cases accepted
  · rw [enqueueTask, e, ← records]
    exact Kernel.waiting_setRing k Contract.queued r

/-- **The wire round trip.**  Tasks take 16 bytes and relations 12, integers in the order of the
fields, and both are records that are read back from what is written and from nothing else.  So a
task that the kernel offers is read as that task, and the decision that leaves a task as it is has
the bytes that the selection subprogram sees. -/
theorem wire_roundTrip :
    Records 16 Task.encode Task.decode ∧ Records 12 Relation.encode Relation.decode ∧
    Function.Injective Task.encode ∧ Function.Injective Relation.encode ∧
    (∀ t : Task, t.encode = Bytes.digits 4 t.pid.toInt ++ Bytes.digits 4 t.cpu.toInt ++
      Bytes.digits 8 t.flags.toNat) ∧
    (∀ r : Relation, r.encode = Bytes.digits 4 r.level.toInt ++ Bytes.digits 4 r.cpu.toInt ++
      Bytes.digits 4 r.sibling.toInt) ∧
    (∀ (k : Kernel) (t : Task), (k.enqueueTask t).1 = true →
      ∃ record, (k.enqueueTask t).2.waiting Contract.queued =
          k.waiting Contract.queued ++ [record] ∧ EventRecord.ofRecord record = .ok t) ∧
    ∀ t : Task, (Decision.forTask t.pid t.cpu t.flags).bytes = (CallRequest.select t).context := by
  refine ⟨Task.records, Relation.records, Task.records.injective, Relation.records.injective,
    Task.encode_eq_digits, Relation.encode_eq_digits, fun k t accepted => ?_, fun _ => rfl⟩
  have read := Task.records.decode_encode t []
  rw [List.append_nil] at read
  exact ⟨t.encode, Kernel.waiting_enqueueTask accepted, read⟩

/-- The least process, the least CPU and all flags come through. -/
theorem wire_roundTrip_extremes :
    let t : Task := ⟨-2147483648, -1, 18446744073709551615⟩
    (Blueprint.standard.build.enqueueTask t).1 = true ∧
      ∃ record, (Blueprint.standard.build.enqueueTask t).2.waiting Contract.queued = [record] ∧
        record = [0, 0, 0, 128] ++ List.replicate 12 255 ∧
        EventRecord.ofRecord record = .ok t := by
  intro t
  have accepted : (Blueprint.standard.build.enqueueTask t).1 = true := by decide +kernel
  obtain ⟨-, -, -, -, -, -, offered, -⟩ := wire_roundTrip
  obtain ⟨record, waits, read⟩ := offered Blueprint.standard.build t accepted
  have alone : (Blueprint.standard.build.enqueueTask t).2.waiting Contract.queued =
      [[0, 0, 0, 128] ++ List.replicate 12 255] := by decide +kernel
  have same : [record] = [[0, 0, 0, 128] ++ List.replicate 12 255] := waits.symm.trans alone
  exact ⟨accepted, record, waits, List.singleton_inj.mp same, read⟩

end SchedPlane
