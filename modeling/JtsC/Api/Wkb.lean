import JtsC.Api.Boundary

/-! # The WKB buffer across the boundary

`JTSGeomFromWKB (wkb, size)` passes its `size_t` size to `JvNewByteArray`, whose parameter is
a 32-bit `jsize`, and then copies `size` bytes into the array. The conversion keeps the low
32 bits (`JtsC.sizeToJsize`), so the call depends on the size in three ways
(`JtsC.jtsGeomFromWKB_by_size`):

* below 2^31 the array has exactly `size` elements and the reader gets the caller's first
  `size` bytes (`JtsC.readsArray`);
* when the low 32 bits read as a negative `jsize`, `JvNewByteArray` raises a
  `NegativeArraySizeException` with no message, and the handler faults on it;
* at 2^32 and above with low bits that are not negative, the array is shorter than `size`
  and `memcpy` writes past it (`JtsC.jtsGeomFromWKB_four_gib`).

The size `JTSGeomToWKB` returns is the array length, below 2^31, so the round trip hands the
reader the array the writer made (`JtsC.jtsGeomFromWKB_toWKB`).
-/

namespace JtsC

variable {Coord : Type} (engine : Engine Coord)

/-- What `JTSGeomFromWKB` should do with the caller's bytes: the notice, then
`WKBReader.read` on `array`, under the handler. -/
def readsArray (array : JByteArray) : Run (Handle Coord) :=
  withHandler none do
    Run.report (.notice (cString "JTSGeomFromWKB called") [])
    Run.ofJava (engine.readWKB array)

theorem jvNewByteArray_of_nonneg {length : BitVec 32} (nonneg : ¬ length.toInt < 0) :
    ∃ array : JByteArray, array.bytes = List.replicate length.toNat 0 ∧
      jvNewByteArray length = pure array :=
  ⟨_, rfl, dif_neg nonneg⟩

theorem jvNewByteArray_of_negative {length : BitVec 32} (negative : length.toInt < 0) :
    jvNewByteArray length = Run.throwJava negativeArraySizeException :=
  dif_pos negative

theorem memcpyInto_of_fits (array : JByteArray) (wkb : List Byte) {size : SizeT}
    (inArray : size.toNat ≤ array.bytes.length) (inBuffer : size.toNat ≤ wkb.length) :
    ∃ filled : JByteArray, filled.bytes = wkb.take size.toNat ++ array.bytes.drop size.toNat ∧
      memcpyInto array wkb size = pure filled :=
  ⟨_, rfl, dif_pos ⟨inArray, inBuffer⟩⟩

theorem memcpyInto_past_array (array : JByteArray) (wkb : List Byte) {size : SizeT}
    (past : array.bytes.length < size.toNat) :
    memcpyInto array wkb size = Run.undefinedBehaviour :=
  dif_neg fun fits => absurd fits.1 (Nat.not_le_of_lt past)

theorem toNat_sizeToJsize (size : SizeT) : (sizeToJsize size).toNat = size.toNat % 2 ^ 32 :=
  BitVec.toNat_setWidth 32 size

theorem toInt_sizeToJsize_neg_iff (size : SizeT) :
    (sizeToJsize size).toInt < 0 ↔ 2 ^ 31 ≤ size.toNat % 2 ^ 32 := by
  rw [BitVec.toInt_eq_toNat_cond, toNat_sizeToJsize]
  split <;> omega

/-- A size below 2^31 survives the conversion, and the reader gets the caller's bytes. -/
theorem jtsGeomFromWKB_of_lt (wkb : List Byte) {size : SizeT} (small : size.toNat < 2 ^ 31)
    (inBuffer : size.toNat ≤ wkb.length) :
    ∃ array : JByteArray, array.bytes = wkb.take size.toNat ∧
      jtsGeomFromWKB engine wkb size = readsArray engine array := by
  have exact : (sizeToJsize size).toNat = size.toNat := by rw [toNat_sizeToJsize]; omega
  have nonneg : ¬ (sizeToJsize size).toInt < 0 := by rw [toInt_sizeToJsize_neg_iff]; omega
  obtain ⟨zeroed, zeroes, alloc⟩ := jvNewByteArray_of_nonneg nonneg
  have sameLength : zeroed.bytes.length = size.toNat := by
    rw [zeroes, List.length_replicate, exact]
  obtain ⟨filled, copied, copy⟩ :=
    memcpyInto_of_fits zeroed wkb (Nat.le_of_eq sameLength.symm) inBuffer
  refine ⟨filled, ?_, ?_⟩
  · rw [copied, List.drop_eq_nil_of_le (Nat.le_of_eq sameLength), List.append_nil]
  · simp only [jtsGeomFromWKB, readsArray, alloc, copy, Run.pure_bind]

/-- A size whose low 32 bits are a negative `jsize`: the `NegativeArraySizeException` has no
message, and the handler's `StringToChar` faults. -/
theorem jtsGeomFromWKB_of_negative (wkb : List Byte) {size : SizeT}
    (negative : 2 ^ 31 ≤ size.toNat % 2 ^ 32) :
    jtsGeomFromWKB engine wkb size =
      ⟨[.notice (cString "JTSGeomFromWKB called") []], .unwinds (.java nullPointerException)⟩ := by
  simp only [jtsGeomFromWKB,
    jvNewByteArray_of_negative ((toInt_sizeToJsize_neg_iff size).mpr negative),
    Run.throwJava_bind, Run.report_bind]
  exact withHandler_null_message none _ _

/-- A size of 2^32 or more whose low bits are not negative: the array has those low bits as
its length, and `memcpy` copies `size` bytes into it. -/
theorem jtsGeomFromWKB_of_wrap (wkb : List Byte) {size : SizeT} (large : 2 ^ 32 ≤ size.toNat)
    (low : size.toNat % 2 ^ 32 < 2 ^ 31) :
    jtsGeomFromWKB engine wkb size =
      ⟨[.notice (cString "JTSGeomFromWKB called") []], .undefined⟩ := by
  have nonneg : ¬ (sizeToJsize size).toInt < 0 := by rw [toInt_sizeToJsize_neg_iff]; omega
  obtain ⟨zeroed, zeroes, alloc⟩ := jvNewByteArray_of_nonneg nonneg
  have past : zeroed.bytes.length < size.toNat := by
    rw [zeroes, List.length_replicate, toNat_sizeToJsize]; omega
  simp only [jtsGeomFromWKB, alloc, memcpyInto_past_array zeroed wkb past, Run.pure_bind,
    Run.undefinedBehaviour_bind, Run.report_bind]
  rfl

/-- **`JTSGeomFromWKB` by the size it is given**, for every engine and every buffer that
holds `size` bytes. -/
theorem jtsGeomFromWKB_by_size (wkb : List Byte) (size : SizeT) (inBuffer : size.toNat ≤ wkb.length) :
    (size.toNat < 2 ^ 31 → ∃ array : JByteArray, array.bytes = wkb.take size.toNat ∧
        jtsGeomFromWKB engine wkb size = readsArray engine array) ∧
      (2 ^ 31 ≤ size.toNat % 2 ^ 32 → (jtsGeomFromWKB engine wkb size).outcome =
        .unwinds (.java nullPointerException)) ∧
      (2 ^ 32 ≤ size.toNat → size.toNat % 2 ^ 32 < 2 ^ 31 →
        (jtsGeomFromWKB engine wkb size).outcome = .undefined) :=
  ⟨fun small => jtsGeomFromWKB_of_lt engine wkb small inBuffer,
    fun negative => by rw [jtsGeomFromWKB_of_negative engine wkb negative],
    fun large low => by rw [jtsGeomFromWKB_of_wrap engine wkb large low]⟩

/-- The 21 bytes of `POINT (0 0)` in little-endian WKB: the byte order, the type code 1, and
two zero doubles. -/
def pointWKB : List Byte := [0x01, 0x01, 0x00, 0x00, 0x00] ++ List.replicate 16 0x00

theorem jtsGeomFromWKB_by_size_point :
    (21 : SizeT).toNat ≤ pointWKB.length ∧
      (((21 : SizeT).toNat < 2 ^ 31 → ∃ array : JByteArray,
          array.bytes = pointWKB.take (21 : SizeT).toNat ∧
          jtsGeomFromWKB (default : Engine Unit) pointWKB 21 = readsArray default array) ∧
        (2 ^ 31 ≤ (21 : SizeT).toNat % 2 ^ 32 → (jtsGeomFromWKB (default : Engine Unit) pointWKB 21).outcome =
          .unwinds (.java nullPointerException)) ∧
        (2 ^ 32 ≤ (21 : SizeT).toNat → (21 : SizeT).toNat % 2 ^ 32 < 2 ^ 31 →
          (jtsGeomFromWKB (default : Engine Unit) pointWKB 21).outcome = .undefined)) :=
  ⟨by decide, jtsGeomFromWKB_by_size default pointWKB 21 (by decide)⟩

/-- A caller's buffer of 2^32 bytes: `JvNewByteArray` gets the `jsize` 0, and `memcpy` writes
all 2^32 bytes past the empty array. -/
theorem jtsGeomFromWKB_four_gib (wkb : List Byte) :
    (jtsGeomFromWKB engine wkb (BitVec.ofNat 64 (2 ^ 32))).outcome = .undefined := by
  rw [jtsGeomFromWKB_of_wrap engine wkb (by decide) (by decide)]

/-- The size `JTSGeomToWKB` returns, `JvGetArrayLength` converted to `size_t`, is the array's
length. -/
theorem toNat_signExtend_jvGetArrayLength (array : JByteArray) :
    ((jvGetArrayLength array).signExtend 64).toNat = array.bytes.length := by
  have := array.length_lt
  have small : (jvGetArrayLength array).toNat = array.bytes.length := by
    rw [jvGetArrayLength, BitVec.toNat_ofNat]; omega
  rw [BitVec.signExtend_eq_not_setWidth_not_of_msb_false
      (BitVec.msb_eq_false_iff_two_mul_lt.mpr (by omega)),
    BitVec.toNat_setWidth, small]
  omega

/-- **The WKB round trip.** When the writer returns `wkb` for a handle, `JTSGeomToWKB` returns
its bytes and length, and `JTSGeomFromWKB` on those hands the reader `wkb` itself. -/
theorem jtsGeomFromWKB_toWKB (g1 : Handle Coord) {wkb : JByteArray}
    (written : engine.writeWKB g1 = .ok wkb) :
    jtsGeomToWKB engine g1 = ⟨[.notice (cString "JTSasWKB called") []],
        .returns (some (wkb.bytes, (jvGetArrayLength wkb).signExtend 64))⟩ ∧
      jtsGeomFromWKB engine wkb.bytes ((jvGetArrayLength wkb).signExtend 64) =
        readsArray engine wkb := by
  refine ⟨by simp only [jtsGeomToWKB, written, Run.ofJava_ok, Run.pure_bind, Run.report_bind]; rfl, ?_⟩
  have sized := toNat_signExtend_jvGetArrayLength wkb
  obtain ⟨array, copied, call⟩ := jtsGeomFromWKB_of_lt engine wkb.bytes
    (sized ▸ wkb.length_lt) sized.le
  have same : array = wkb := JByteArray.ext (by rw [copied, sized, List.take_length])
  rw [call, same]

/-- An engine whose writer writes every handle as the WKB of `POINT (0 0)`. -/
def pointWriter : Engine Unit :=
  { (default : Engine Unit) with writeWKB := fun _ => .ok ⟨pointWKB, by decide⟩ }

theorem jtsGeomFromWKB_toWKB_point :
    pointWriter.writeWKB (some (.point 0 none)) = .ok ⟨pointWKB, by decide⟩ ∧
      (jtsGeomToWKB pointWriter (some (.point 0 none)) = ⟨[.notice (cString "JTSasWKB called") []],
          .returns (some (pointWKB, (jvGetArrayLength ⟨pointWKB, by decide⟩).signExtend 64))⟩ ∧
        jtsGeomFromWKB pointWriter pointWKB ((jvGetArrayLength ⟨pointWKB, by decide⟩).signExtend 64) =
          readsArray pointWriter ⟨pointWKB, by decide⟩) :=
  ⟨rfl, jtsGeomFromWKB_toWKB pointWriter (some (.point 0 none)) rfl⟩

end JtsC
