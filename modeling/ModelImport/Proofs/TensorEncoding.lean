import Mathlib.Algebra.Ring.Nat
import ModelImport.Tensor.Stored
/-!
# Storing tensors

The two ways to store the elements of a tensor: as bytes, least significant first, or in the typed field that belongs to
the element type. `stored_tensors_round_trip`: either way the tensor comes back as it was; and what comes back from bytes
has those bytes again, except that a true boolean is stored as 1 whatever byte it came from.

Both go element by element through the bit pattern of an element (`ElementType.pattern`).
-/

namespace ModelImport

/-! ## Numbers as bytes -/

/-- The given number of bytes of a number, least significant first. -/
def littleEndianBytes : Nat → Nat → Bytes
  | 0, _ => []
  | width + 1, n => UInt8.ofNat n :: littleEndianBytes width (n / 256)

@[simp] theorem length_littleEndianBytes (width n : Nat) : (littleEndianBytes width n).length = width := by
  induction width generalizing n with
  | zero => rfl
  | succ width ih => rw [littleEndianBytes, List.length_cons, ih]

@[simp] theorem littleEndian_cons (b : UInt8) (bytes : Bytes) :
    littleEndian (b :: bytes) = b.toNat + 256 * littleEndian bytes := rfl

theorem littleEndian_lt (bytes : Bytes) : littleEndian bytes < 256 ^ bytes.length := by
  induction bytes with
  | nil => decide
  | cons b bytes ih =>
    have hb := b.toNat_lt
    rw [littleEndian_cons, List.length_cons, Nat.pow_succ]
    omega

theorem littleEndian_littleEndianBytes {width n : Nat} (h : n < 256 ^ width) :
    littleEndian (littleEndianBytes width n) = n := by
  induction width generalizing n with
  | zero =>
    have hzero : n = 0 := by simpa using h
    rw [hzero]
    rfl
  | succ width ih =>
    rw [Nat.pow_succ] at h
    rw [littleEndianBytes, littleEndian_cons, ih (by omega), UInt8.toNat_ofNat']
    omega

theorem littleEndianBytes_littleEndian (bytes : Bytes) :
    littleEndianBytes bytes.length (littleEndian bytes) = bytes := by
  induction bytes with
  | nil => rfl
  | cons b bytes ih =>
    have hb := b.toNat_lt
    have hhead : UInt8.ofNat (b.toNat + 256 * littleEndian bytes) = b := by
      apply UInt8.toNat_inj.mp
      rw [UInt8.toNat_ofNat']
      omega
    have htail : (b.toNat + 256 * littleEndian bytes) / 256 = littleEndian bytes := by omega
    rw [List.length_cons, littleEndian_cons, littleEndianBytes, hhead, htail, ih]

/-! ## Elements as bytes -/

namespace ElementType

/-- The bit pattern of an element as a number: two's complement for signed integers, 0 or 1 for booleans. -/
def pattern : (e : ElementType) → e.Carrier → Nat
  | f16, v => v.bits.toNat
  | bf16, v => v.bits.toNat
  | f32, v => v.bits.toNat
  | f64, v => v.bits.toNat
  | i8, v => v.toUInt8.toNat
  | i16, v => v.toUInt16.toNat
  | i32, v => v.toUInt32.toNat
  | i64, v => v.toUInt64.toNat
  | u8, v => v.toNat
  | u16, v => v.toNat
  | u32, v => v.toNat
  | u64, v => v.toNat
  | bool, v => v.toNat

/-- The bytes of an element, least significant first. -/
def toBytes (e : ElementType) (v : e.Carrier) : Bytes := littleEndianBytes e.size (e.pattern v)

theorem pattern_lt (e : ElementType) (v : e.Carrier) : e.pattern v < 256 ^ e.size := by
  cases e with
  | f16 | bf16 => exact v.bits.toNat_lt
  | f32 => exact v.bits.toNat_lt
  | f64 => exact v.bits.toNat_lt
  | i8 => exact v.toUInt8.toNat_lt
  | i16 => exact v.toUInt16.toNat_lt
  | i32 => exact v.toUInt32.toNat_lt
  | i64 => exact v.toUInt64.toNat_lt
  | u8 | u16 | u32 | u64 => exact v.toNat_lt
  | bool => cases v <;> decide

theorem ofBytes_toBytes (e : ElementType) (v : e.Carrier) : e.ofBytes (e.toBytes v) = v := by
  have hpattern : littleEndian (e.toBytes v) = e.pattern v := littleEndian_littleEndianBytes (e.pattern_lt v)
  unfold ofBytes
  rw [hpattern]
  cases e <;> simp [pattern]

theorem pattern_ofBytes {e : ElementType} (he : e ≠ .bool) {bytes : Bytes} (h : bytes.length = e.size) :
    e.pattern (e.ofBytes bytes) = littleEndian bytes := by
  have hlt := littleEndian_lt bytes
  rw [h] at hlt
  unfold ofBytes
  generalize littleEndian bytes = n at hlt
  cases e with
  | bool => exact absurd rfl he
  | _ => simpa [pattern, size] using hlt

/-- The byte that a byte of a stored element comes back as. -/
def canonicalByte (e : ElementType) (b : UInt8) : UInt8 := if e = .bool ∧ b ≠ 0 then 1 else b

/-- What is read from as many bytes as an element has is written as the same bytes. -/
theorem toBytes_ofBytes {e : ElementType} {bytes : Bytes} (h : bytes.length = e.size) :
    e.toBytes (e.ofBytes bytes) = bytes.map e.canonicalByte := by
  by_cases he : e = .bool
  · subst he
    obtain ⟨b, rfl⟩ := List.length_eq_one_iff.mp h
    by_cases hb : b = 0
    · rw [hb]
      rfl
    · have htrue : ofBytes .bool [b] = true := by simpa [ofBytes, littleEndian, ← UInt8.toNat_inj] using hb
      rw [htrue, List.map_singleton, canonicalByte, if_pos ⟨rfl, hb⟩]
      rfl
  · have hsame : e.canonicalByte = id := by
      funext b
      simp [canonicalByte, he]
    rw [toBytes, pattern_ofBytes he h, ← h, littleEndianBytes_littleEndian, hsame, List.map_id]

end ElementType

/-! ## Lists of elements -/

theorem byteGroups_flatMap {α : Type} {size : Nat} {f : α → Bytes} (hf : ∀ v, (f v).length = size) (values : List α) :
    byteGroups size values.length (values.flatMap f) = values.map f := by
  induction values with
  | nil => rfl
  | cons v values ih =>
    rw [List.length_cons, byteGroups, List.flatMap_cons, List.take_left' (hf v), List.drop_left' (hf v), ih, List.map_cons]

theorem length_byteGroups (size count : Nat) (bytes : Bytes) : (byteGroups size count bytes).length = count := by
  induction count generalizing bytes with
  | zero => rfl
  | succ count ih => rw [byteGroups, List.length_cons, ih]

/-- The groups have the bytes they were made of. -/
theorem flatten_byteGroups {size count : Nat} {bytes : Bytes} (h : bytes.length = count * size) :
    (byteGroups size count bytes).flatten = bytes := by
  induction count generalizing bytes with
  | zero =>
    have hnil : bytes = [] := by simpa using h
    rw [hnil]
    rfl
  | succ count ih =>
    rw [Nat.succ_mul] at h
    rw [byteGroups, List.flatten_cons, ih (by simp; omega), List.take_append_drop]

theorem length_of_mem_byteGroups {size count : Nat} {bytes : Bytes} (h : bytes.length = count * size) {group : Bytes}
    (hgroup : group ∈ byteGroups size count bytes) : group.length = size := by
  induction count generalizing bytes with
  | zero => simp [byteGroups] at hgroup
  | succ count ih =>
    rw [Nat.succ_mul] at h
    rw [byteGroups, List.mem_cons] at hgroup
    rcases hgroup with rfl | hgroup
    · simp
      omega
    · exact ih (by simp; omega) hgroup

/-- The typed field that elements are stored in: a narrow integer keeps its value, a boolean is 0 or 1, and the bit
pattern of a half or brain float is taken for its number. -/
def ElementType.packed : (e : ElementType) → List e.Carrier → Payload
  | .f32, vs => .floats vs
  | .f64, vs => .doubles vs
  | .i64, vs => .int64s vs
  | .i32, vs => .int32s vs
  | .i16, vs => .int32s (vs.map Int16.toInt32)
  | .i8, vs => .int32s (vs.map Int8.toInt32)
  | .u16, vs => .int32s (vs.map fun v => Int32.ofNat v.toNat)
  | .u8, vs => .int32s (vs.map fun v => Int32.ofNat v.toNat)
  | .bool, vs => .int32s (vs.map fun v => Int32.ofNat v.toNat)
  | .f16, vs => .int32s (vs.map fun v => Int32.ofNat v.bits.toNat)
  | .bf16, vs => .int32s (vs.map fun v => Int32.ofNat v.bits.toNat)
  | .u32, vs => .uint64s (vs.map UInt32.toUInt64)
  | .u64, vs => .uint64s vs

theorem elements?_packed (e : ElementType) (values : List e.Carrier) :
    (e.packed values).elements? e = some values := by
  cases e with
  | f32 | f64 | i64 | i32 | u64 => rfl
  | i16 | i8 | u32 | u16 | u8 | f16 | bf16 => simp [ElementType.packed, Payload.elements?, Function.comp_def]
  | bool =>
    have hflag (v : Bool) : decide (Int32.ofNat v.toNat ≠ 0) = v := by cases v <;> rfl
    simp only [ElementType.packed, Payload.elements?, List.map_map, Function.comp_def, hflag, List.map_id']

theorem entries_packed (e : ElementType) (values : List e.Carrier) : (e.packed values).entries = values.length := by
  cases e <;> simp [ElementType.packed, Payload.entries]

/-! ## Stored tensors -/

theorem read_raw (name : String) (e : ElementType) (values : List e.Carrier) :
    (Payload.raw (values.flatMap e.toBytes)).read name e values.length = .ok values := by
  have hlength (v : e.Carrier) : (e.toBytes v).length = e.size := length_littleEndianBytes _ _
  have hbytes : (values.flatMap e.toBytes).length = values.length * e.size := by
    simp [List.length_flatMap, hlength, List.map_const']
  rw [Payload.read]
  dsimp only
  rw [if_neg (not_not.mpr hbytes), byteGroups_flatMap hlength, List.map_map]
  simp [Function.comp_def, ElementType.ofBytes_toBytes]

theorem read_packed (name : String) (e : ElementType) (values : List e.Carrier) :
    (e.packed values).read name e values.length = .ok values := by
  have hentries := entries_packed e values
  have helements := elements?_packed e values
  cases e <;>
    simp only [ElementType.packed] at hentries helements ⊢ <;>
    simp [Payload.read, hentries, helements]

theorem resolveElement_code (e : ElementType) : resolveElement e.code = .ok e := by
  rw [resolveElement, ElementType.ofCode?_code]

/-- A payload that holds as many elements as the sizes call for is read as the tensor of those elements. -/
theorem materialize_of_read {name : String} {e : ElementType} {sizes : List Nat} {payload : Payload}
    {values : List e.Carrier} (hlength : values.length = (Shape.mk sizes).volume)
    (hread : payload.read name e values.length = .ok values) :
    StoredTensor.materialize ⟨name, e.code, sizes.map Int.ofNat, payload⟩ = .ok ⟨e, ⟨values, ⟨sizes⟩⟩⟩ := by
  have hnatural : (sizes.map Int.ofNat).find? (· < 0) = none := by simp
  have hsizes : (sizes.map Int.ofNat).map Int.toNat = sizes := by simp [Function.comp_def]
  unfold StoredTensor.materialize
  dsimp only
  rw [resolveElement_code, hnatural, hsizes]
  refine bind_eq_ok_iff.mpr ⟨e, rfl, bind_eq_ok_iff.mpr ⟨values, hlength ▸ hread, ?_⟩⟩
  rw [Tensor.ofList?, if_pos hlength]

theorem materialize_eq_ok {t : StoredTensor} {d : TensorData} (h : t.materialize = .ok d) :
    ∃ (e : ElementType) (values : List e.Carrier), d = ⟨e, ⟨values, ⟨t.dims.map Int.toNat⟩⟩⟩ ∧
      t.payload.read t.name e (Shape.mk (t.dims.map Int.toNat)).volume = .ok values := by
  obtain ⟨e, -, h⟩ := bind_eq_ok_iff.mp h
  cases hnegative : t.dims.find? (· < 0) with
  | some n =>
    rw [hnegative] at h
    cases h
  | none =>
    rw [hnegative] at h
    obtain ⟨values, hread, h⟩ := bind_eq_ok_iff.mp h
    refine ⟨e, values, ?_, hread⟩
    rw [Tensor.ofList?] at h
    by_cases hlength : values.length = (Shape.mk (t.dims.map Int.toNat)).volume
    · rw [if_pos hlength] at h
      cases h
      rfl
    · rw [if_neg hlength] at h
      cases h

theorem read_raw_eq_ok {name : String} {e : ElementType} {count : Nat} {bytes : Bytes} {values : List e.Carrier}
    (h : (Payload.raw bytes).read name e count = .ok values) :
    bytes.length = count * e.size ∧ values = (byteGroups e.size count bytes).map e.ofBytes := by
  rw [Payload.read] at h
  dsimp only at h
  split at h
  · cases h
  · next hlength =>
    cases h
    exact ⟨not_not.mp hlength, rfl⟩

/-- What was read from bytes is written as those bytes. -/
theorem flatMap_toBytes_of_read {name : String} {e : ElementType} {count : Nat} {bytes : Bytes} {values : List e.Carrier}
    (h : (Payload.raw bytes).read name e count = .ok values) :
    values.flatMap e.toBytes = bytes.map e.canonicalByte := by
  obtain ⟨hlength, rfl⟩ := read_raw_eq_ok h
  have hgroup : ∀ group ∈ byteGroups e.size count bytes, e.toBytes (e.ofBytes group) = group.map e.canonicalByte :=
    fun group hgroup => ElementType.toBytes_ofBytes (length_of_mem_byteGroups hlength hgroup)
  calc ((byteGroups e.size count bytes).map e.ofBytes).flatMap e.toBytes
      = (byteGroups e.size count bytes).flatMap fun group => e.toBytes (e.ofBytes group) := List.flatMap_map ..
    _ = (byteGroups e.size count bytes).flatMap fun group => group.map e.canonicalByte := by
      rw [List.flatMap_def, List.flatMap_def, List.map_congr_left hgroup]
    _ = (byteGroups e.size count bytes).flatten.map e.canonicalByte := by rw [List.map_flatten, List.flatMap_def]
    _ = bytes.map e.canonicalByte := by rw [flatten_byteGroups hlength]

/-- Elements of any type, as many as the sizes call for, come back from their bytes and from the typed field that
belongs to them with the same type, the same sizes and in the same order. What comes back from bytes, whatever they are,
is written as the same bytes, except that a boolean is 1 where its byte was not 0. -/
theorem stored_tensors_round_trip :
    (∀ (name : String) (e : ElementType) (sizes : List Nat) (values : List e.Carrier),
      values.length = (Shape.mk sizes).volume →
      StoredTensor.materialize ⟨name, e.code, sizes.map Int.ofNat, .raw (values.flatMap e.toBytes)⟩
          = .ok ⟨e, ⟨values, ⟨sizes⟩⟩⟩ ∧
        StoredTensor.materialize ⟨name, e.code, sizes.map Int.ofNat, e.packed values⟩
          = .ok ⟨e, ⟨values, ⟨sizes⟩⟩⟩) ∧
    ∀ (name : String) (code : Int) (dims : List Int) (bytes : Bytes) (d : TensorData),
      StoredTensor.materialize ⟨name, code, dims, .raw bytes⟩ = .ok d →
      d.tensor.values.flatMap d.element.toBytes = bytes.map d.element.canonicalByte := by
  constructor
  · intro name e sizes values hlength
    exact ⟨materialize_of_read hlength (read_raw name e values), materialize_of_read hlength (read_packed name e values)⟩
  · intro name code dims bytes d h
    obtain ⟨e, values, rfl, hread⟩ := materialize_eq_ok h
    exact flatMap_toBytes_of_read hread

/-- A negative 16-bit integer and one that needs its second byte, as bytes and as 32-bit integers. -/
theorem stored_tensors_round_trip_narrow :
    let values : List Int16 := [-2, 300]
    values.flatMap (ElementType.toBytes .i16) = [254, 255, 44, 1] ∧ ElementType.packed .i16 values = .int32s [-2, 300] ∧
      StoredTensor.materialize ⟨"w", 5, [2, 1], .raw [254, 255, 44, 1]⟩ = .ok ⟨.i16, ⟨values, ⟨[2, 1]⟩⟩⟩ ∧
      StoredTensor.materialize ⟨"w", 5, [2, 1], .int32s [-2, 300]⟩ = .ok ⟨.i16, ⟨values, ⟨[2, 1]⟩⟩⟩ := by
  intro values
  have htrip := stored_tensors_round_trip.1 "w" .i16 [2, 1] values (by decide)
  exact ⟨by decide, by decide, htrip⟩

end ModelImport
