import JtsC.Runtime.Run

/-! # `StringToChar`

Every Java string the wrapper returns or reports goes through `StringToChar`:

```
int len = JvGetStringUTFLength(s);
char *buf = (char *)Jv_AllocBytes(len);
JvGetStringUTFRegion(s, 0, len, buf);
buf[len] = '\0';
```

`JtsC.stringToChar` records what one call asks of memory: the block it allocates, the code
units it reads and the bytes it stores. Two slips show there. `len` counts bytes, but
`JvGetStringUTFRegion` takes a count of code units, so on a string with a code unit outside
U+0001..U+007F the loop reads past the string's end (`JtsC.stringToChar_reads_past_end_iff`)
and stores past the block (`JtsC.stringToChar_region_overruns_iff`, together
`JtsC.stringToChar_strays_iff`); and the terminating NUL is stored at `buf[len]`, one past a
block of `len` bytes, for every string.

The caller still gets the right bytes whenever `len` is the true length: the text before the
NUL is the first `len` bytes of the string's modified UTF-8 (`JtsC.stringToChar_text_eq`),
whatever memory past the string holds. From 2^31 bytes on the 32-bit `len` is no longer the
length: up to 2^32 it is negative and the allocation fails, and past that the text is cut
short (`JtsC.stringToChar_by_length`).
-/

namespace JtsC

/-- The code unit the region loop reads at index `i`: the string's own inside it, and past
its end whatever the heap holds there (`beyond`). -/
def charAt (s : JString) (beyond : Nat → JChar) (i : Nat) : JChar :=
  if h : i < s.length then s[i] else beyond (i - s.length)

/-- libgcj's `JvGetStringUTFRegion (str, start, len, buf)`: it reads `len` code units from
`start`, with no check against the string's length, and stores their modified UTF-8 from
`buf` on. The indices it reads, and the bytes it stores. -/
def jvGetStringUTFRegion (s : JString) (beyond : Nat → JChar) (start len : Nat) :
    List Nat × List Byte :=
  ((List.range len).map (start + ·),
    ((List.range len).map fun k => charAt s beyond (start + k)).flatMap encodeUTF)

/-- What one call of `StringToChar` did to memory. -/
structure StringToCharRun where
  /-- `len`: the size of the block `Jv_AllocBytes` returned. -/
  block : Nat
  /-- The indices of the string's code units that were read. -/
  reads : List Nat
  /-- The bytes `JvGetStringUTFRegion` stored from `buf[0]` on. -/
  region : List Byte
  deriving DecidableEq, Repr

namespace StringToCharRun

/-- The offsets stored to: the region's, then `buf[len]`. -/
def writes (run : StringToCharRun) : List Nat := List.range run.region.length ++ [run.block]

/-- The byte at offset `i` of the block after the call: `Jv_AllocBytes` clears the block,
the region is stored over it, and the NUL at `buf[len]` last. -/
def memory (run : StringToCharRun) (i : Nat) : Byte :=
  if i = run.block then 0 else run.region.getD i 0

/-- The C string the caller receives: the bytes from the start of the block up to the first
NUL, which the last store puts at offset `len` at the latest. -/
def text (run : StringToCharRun) : CString :=
  ((List.range (run.block + 1)).map run.memory).takeWhile (· ≠ 0)

theorem map_memory_range (run : StringToCharRun) (long : run.block ≤ run.region.length) :
    (List.range (run.block + 1)).map run.memory = run.region.take run.block ++ [0] := by
  apply List.ext_getElem (by simp; omega)
  intro i inRange _
  simp only [List.length_map, List.length_range] at inRange
  have prefixLength : (run.region.take run.block).length = run.block := List.length_take_of_le long
  by_cases last : i = run.block
  · subst last
    rw [List.getElem_append_right (by omega)]
    simp [memory, prefixLength]
  · rw [List.getElem_append_left (by omega)]
    simp [memory, last, List.getElem?_eq_getElem (by omega : i < run.region.length)]

/-- With a region covering the block and free of zero bytes, the caller reads the block. -/
theorem text_eq_take (run : StringToCharRun) (long : run.block ≤ run.region.length)
    (nonzero : ∀ b ∈ run.region, b ≠ 0) : run.text = run.region.take run.block := by
  have taken : ∀ b ∈ run.region.take run.block, decide (b ≠ 0) = true := fun b mem =>
    decide_eq_true (nonzero b (List.mem_of_mem_take mem))
  rw [text, map_memory_range run long, List.takeWhile_append_of_pos taken]
  simp

end StringToCharRun

/-- `StringToChar (s)`: the run, or the exception it raises. A NULL `s` faults in
`JvGetStringUTFLength`; a negative `len` makes `Jv_AllocBytes` fail. -/
def stringToChar (s : Option JString) (beyond : Nat → JChar) :
    Except Throwable StringToCharRun :=
  match s with
  | none => .error nullPointerException
  | some s =>
      let len := jvGetStringUTFLength s
      if len.toInt < 0 then .error outOfMemoryError
      else
        .ok ⟨len.toNat, (jvGetStringUTFRegion s beyond 0 len.toNat).1,
          (jvGetStringUTFRegion s beyond 0 len.toNat).2⟩

/-- The code units the loop reads: the string's first `n`, then what lies past its end. -/
theorem map_charAt_range (s : JString) (beyond : Nat → JChar) (n : Nat) :
    (List.range n).map (charAt s beyond) =
      s.take n ++ (List.range (n - s.length)).map beyond := by
  apply List.ext_getElem (by simp; omega)
  intro i inRange _
  simp only [List.length_map, List.length_range] at inRange
  by_cases inside : i < s.length
  · rw [List.getElem_append_left (by simp; omega)]
    simp [charAt, inside]
  · rw [List.getElem_append_right (by simp; omega)]
    simp only [charAt, inside, ↓reduceDIte, List.getElem_map, List.getElem_range]
    congr 1
    simp only [List.length_take]
    omega

/-- The region the loop stores for a count `n`: the string's first `n` code units encoded,
then the encoding of what lies past its end. -/
theorem jvGetStringUTFRegion_eq (s : JString) (beyond : Nat → JChar) (n : Nat) :
    jvGetStringUTFRegion s beyond 0 n =
      (List.range n, encodeString (s.take n) ++
        encodeString ((List.range (n - s.length)).map beyond)) := by
  simp only [jvGetStringUTFRegion, Nat.zero_add, List.map_id', map_charAt_range,
    encodeString, List.flatMap_append]

theorem length_region_ge (s : JString) (beyond : Nat → JChar) (n : Nat) :
    n ≤ (jvGetStringUTFRegion s beyond 0 n).2.length := by
  rw [jvGetStringUTFRegion_eq]
  have onTake := length_le_utfLength (s.take n)
  have onRest := length_le_utfLength ((List.range (n - s.length)).map beyond)
  simp only [List.length_append, length_encodeString, List.length_take, List.length_map,
    List.length_range] at onTake onRest ⊢
  omega

/-- Up to a count no larger than the string's byte length, the region starts with the
string's own encoding. -/
theorem take_region (s : JString) (beyond : Nat → JChar) {n : Nat} (within : n ≤ utfLength s) :
    (jvGetStringUTFRegion s beyond 0 n).2.take n = (encodeString s).take n := by
  rw [jvGetStringUTFRegion_eq]
  by_cases short : n ≤ s.length
  · have noPast : n - s.length = 0 := by omega
    have covers : n ≤ (encodeString (s.take n)).length := by
      have atLeast := length_le_utfLength (s.take n)
      rw [List.length_take_of_le short] at atLeast
      rwa [length_encodeString]
    conv => rhs; rw [← List.take_append_drop n s, encodeString_append]
    rw [noPast, List.take_append_of_le_length covers, List.take_append_of_le_length covers]
  · have whole : s.take n = s := List.take_of_length_le (by omega)
    have covers : n ≤ (encodeString s).length := by rwa [length_encodeString]
    rw [whole]
    exact List.take_append_of_le_length covers

theorem region_ne_zero (s : JString) (beyond : Nat → JChar) (n : Nat) :
    ∀ b ∈ (jvGetStringUTFRegion s beyond 0 n).2, b ≠ 0 := fun _ mem =>
  encodeString_ne_zero (show _ ∈ encodeString _ from mem)

/-- `len` is negative as a `jsize` exactly when the byte length modulo 2^32 reaches 2^31. -/
theorem jvGetStringUTFLength_toInt_neg_iff (s : JString) :
    (jvGetStringUTFLength s).toInt < 0 ↔ 2 ^ 31 ≤ utfLength s % 2 ^ 32 := by
  rw [BitVec.toInt_eq_toNat_cond, jvGetStringUTFLength_eq, BitVec.toNat_ofNat]
  split <;> omega

/-- A `len` negative as a `jsize` makes the allocation fail. -/
theorem stringToChar_some_of_negative (s : JString) (beyond : Nat → JChar)
    (negative : 2 ^ 31 ≤ utfLength s % 2 ^ 32) :
    stringToChar (some s) beyond = .error outOfMemoryError := by
  simp only [stringToChar, (jvGetStringUTFLength_toInt_neg_iff s).mpr negative, ↓reduceIte]

/-- Otherwise `StringToChar` returns, with a block of `len` bytes. -/
theorem stringToChar_some_eq (s : JString) (beyond : Nat → JChar)
    (fits : utfLength s % 2 ^ 32 < 2 ^ 31) :
    stringToChar (some s) beyond =
      .ok ⟨utfLength s % 2 ^ 32, (jvGetStringUTFRegion s beyond 0 (utfLength s % 2 ^ 32)).1,
        (jvGetStringUTFRegion s beyond 0 (utfLength s % 2 ^ 32)).2⟩ := by
  have nonneg : ¬ (jvGetStringUTFLength s).toInt < 0 := by
    rw [jvGetStringUTFLength_toInt_neg_iff]
    omega
  simp only [stringToChar, nonneg, ↓reduceIte]
  rw [jvGetStringUTFLength_eq, BitVec.toNat_ofNat]

/-- **What the caller reads.** The text `StringToChar` returns is the first `len` bytes of
the string's modified UTF-8, whatever memory past the string holds. -/
theorem stringToChar_text_eq {s : JString} {beyond : Nat → JChar} {run : StringToCharRun}
    (returns : stringToChar (some s) beyond = .ok run) :
    run.block = utfLength s % 2 ^ 32 ∧ run.text = (encodeString s).take run.block := by
  have fits : utfLength s % 2 ^ 32 < 2 ^ 31 := by
    by_contra big
    rw [stringToChar_some_of_negative s beyond (by omega)] at returns
    cases returns
  rw [stringToChar_some_eq s beyond fits, Except.ok.injEq] at returns
  subst returns
  refine ⟨rfl, ?_⟩
  rw [StringToCharRun.text_eq_take _ (length_region_ge _ _ _) (region_ne_zero _ _ _)]
  exact take_region s beyond (Nat.mod_le _ _)

theorem stringToChar_of_lt {s : JString} (beyond : Nat → JChar) (bounded : utfLength s < 2 ^ 31) :
    stringToChar (some s) beyond =
      .ok ⟨utfLength s, List.range (utfLength s), encodeString s ++
        encodeString ((List.range (utfLength s - s.length)).map beyond)⟩ := by
  rw [stringToChar_some_eq s beyond (by omega), Nat.mod_eq_of_lt (by omega),
    jvGetStringUTFRegion_eq, List.take_of_length_le (length_le_utfLength s)]

/-- With `len` the true length, `StringToChar` reads past the end of the string exactly when
the string has a code unit outside U+0001..U+007F. -/
theorem stringToChar_reads_past_end_iff {s : JString} {beyond : Nat → JChar}
    {run : StringToCharRun} (bounded : utfLength s < 2 ^ 31)
    (returns : stringToChar (some s) beyond = .ok run) :
    (∃ i ∈ run.reads, s.length ≤ i) ↔ ¬ ∀ ch ∈ s, IsAsciiUnit ch := by
  rw [stringToChar_of_lt beyond bounded, Except.ok.injEq] at returns
  subst returns
  have atLeast := length_le_utfLength s
  simp only [List.mem_range, ← utfLength_eq_length_iff]
  constructor
  · rintro ⟨i, below, past⟩
    omega
  · exact fun longer => ⟨s.length, by omega, le_rfl⟩

/-- With `len` the true length, the region loop stores past the `len`-byte block exactly when
the string has a code unit outside U+0001..U+007F. -/
theorem stringToChar_region_overruns_iff {s : JString} {beyond : Nat → JChar}
    {run : StringToCharRun} (bounded : utfLength s < 2 ^ 31)
    (returns : stringToChar (some s) beyond = .ok run) :
    run.block < run.region.length ↔ ¬ ∀ ch ∈ s, IsAsciiUnit ch := by
  rw [stringToChar_of_lt beyond bounded, Except.ok.injEq] at returns
  subst returns
  have atLeast := length_le_utfLength s
  have past := length_le_utfLength ((List.range (utfLength s - s.length)).map beyond)
  simp only [List.length_map, List.length_range] at past
  simp only [List.length_append, length_encodeString, ← utfLength_eq_length_iff]
  constructor
  · intro longer same
    rw [same, Nat.sub_self, List.range_zero, List.map_nil, utfLength_nil] at longer
    omega
  · intro differ
    omega

/-- **Where `StringToChar` strays.** Below 2^31 bytes, it reads past the end of the string,
and stores past its block before the NUL, exactly when the string has a code unit outside
U+0001..U+007F. -/
theorem stringToChar_strays_iff {s : JString} {beyond : Nat → JChar} {run : StringToCharRun}
    (bounded : utfLength s < 2 ^ 31) (returns : stringToChar (some s) beyond = .ok run) :
    ((∃ i ∈ run.reads, s.length ≤ i) ↔ ¬ ∀ ch ∈ s, IsAsciiUnit ch) ∧
      (run.block < run.region.length ↔ ¬ ∀ ch ∈ s, IsAsciiUnit ch) :=
  ⟨stringToChar_reads_past_end_iff bounded returns, stringToChar_region_overruns_iff bounded returns⟩

theorem stringToChar_strays_iff_eAcute :
    utfLength [(0xE9 : JChar)] < 2 ^ 31 ∧
      stringToChar (some [(0xE9 : JChar)]) (fun _ => 0x41) = .ok ⟨2, [0, 1], [0xC3, 0xA9, 0x41]⟩ ∧
      (((∃ i ∈ [0, 1], [(0xE9 : JChar)].length ≤ i) ↔ ¬ ∀ ch ∈ [(0xE9 : JChar)], IsAsciiUnit ch) ∧
        (2 < [(0xC3 : Byte), 0xA9, 0x41].length ↔ ¬ ∀ ch ∈ [(0xE9 : JChar)], IsAsciiUnit ch)) :=
  ⟨by decide, rfl, stringToChar_strays_iff (by decide)
    (show stringToChar (some [(0xE9 : JChar)]) (fun _ => 0x41) = .ok ⟨2, [0, 1], [0xC3, 0xA9, 0x41]⟩ from rfl)⟩

/-- `StringToChar` on "é" (U+00E9): `len` is 2, so the loop reads code unit 1 of a string of
one code unit, and the NUL goes to offset 2 of a 2-byte block. -/
theorem stringToChar_eAcute_out_of_bounds (beyond : Nat → JChar) :
    ∃ run, stringToChar (some [0xE9]) beyond = .ok run ∧ run.block = 2 ∧
      1 ∈ run.reads ∧ 2 ∈ run.writes := by
  have two : utfCharLength (BitVec.ofNat 16 0xE9) = 2 := by decide
  refine ⟨_, stringToChar_of_lt beyond (by simp [two]), by simp [two], by simp [two], ?_⟩
  simp [StringToCharRun.writes, two]

/-- `StringToChar` as its callers see it: the text it returns, or the exception it raises.
The text does not depend on memory past the string (`JtsC.stringToChar_text_eq`), so the
run is taken with any contents there. The stores past the block are not folded into this
view: they are stated on `JtsC.stringToChar` itself (`JtsC.stringToChar_region_overruns_iff`),
and the text the caller reads does not depend on them. -/
def stringToCharText (s : Option JString) : Run CString :=
  match stringToChar s (fun _ => 0) with
  | .ok run => pure run.text
  | .error thrown => Run.throwJava thrown

@[simp] theorem stringToCharText_none : stringToCharText none = Run.throwJava nullPointerException :=
  rfl

theorem stringToCharText_of_negative {s : JString} (negative : 2 ^ 31 ≤ utfLength s % 2 ^ 32) :
    stringToCharText (some s) = Run.throwJava outOfMemoryError := by
  rw [stringToCharText, stringToChar_some_of_negative s _ negative]

theorem stringToCharText_of_fits {s : JString} (fits : utfLength s % 2 ^ 32 < 2 ^ 31) :
    stringToCharText (some s) = pure ((encodeString s).take (utfLength s % 2 ^ 32)) := by
  have returns := stringToChar_some_eq s (fun _ => 0) fits
  obtain ⟨block, text⟩ := stringToChar_text_eq returns
  simp only [stringToCharText, returns, text, block]

/-- Below 2^31 bytes the caller gets the whole modified UTF-8 of the string. -/
theorem stringToCharText_of_lt {s : JString} (bounded : utfLength s < 2 ^ 31) :
    stringToCharText (some s) = pure (encodeString s) := by
  rw [stringToCharText_of_fits (by omega), Nat.mod_eq_of_lt (by omega),
    List.take_of_length_le (length_encodeString s).le]

end JtsC
