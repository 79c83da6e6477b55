import Mathlib

/-! # Java strings at the native interface

The wrapper hands every Java string to C through libgcj's native interface: it asks
`JvGetStringUTFLength` for the string's length in modified UTF-8 and then has
`JvGetStringUTFRegion` encode code units into a byte buffer. Both walk the string with the
same three-way case split on the code unit (`JtsC.utfCharLength`, `JtsC.encodeUTF`), the
first one counting in the 32-bit `jsize` (`JtsC.jvGetStringUTFLength`). Text coming back
from C goes through `JvNewStringLatin1`, which widens each byte to a code unit
(`JtsC.jvNewStringLatin1`).

The bit-level encoder agrees with the table of modified UTF-8 (`JtsC.encodeUTF_toNat`),
never produces a zero byte (`JtsC.encodeUTF_ne_zero`), and undoes `JvNewStringLatin1` on text
made of U+0001..U+007F (`JtsC.jvNewStringLatin1_encodeString`). Such text is exactly the text
whose modified UTF-8 length equals its number of code units (`JtsC.utfLength_eq_length_iff`).
-/

namespace JtsC

/-- A Java `char`: one UTF-16 code unit. -/
abbrev JChar := BitVec 16

/-- A C `char`. -/
abbrev Byte := BitVec 8

/-- A `java.lang.String`, as its code units. -/
abbrev JString := List JChar

/-- A NUL-terminated C string, as the bytes before its NUL. -/
abbrev CString := List Byte

/-- A Java `char` written as a Lean character. -/
def jchar (c : Char) : JChar := BitVec.ofNat 16 c.toNat

/-- The bytes libgcj spends on one code unit: one for U+0001..U+007F, two up to U+07FF
(U+0000 included), three above. -/
def utfCharLength (ch : JChar) : Nat :=
  if 0 < ch ∧ ch ≤ 0x7F then 1 else if ch ≤ 0x7FF then 2 else 3

/-- The body of libgcj's `JvGetStringUTFRegion` loop for one code unit: the bytes it stores. -/
def encodeUTF (ch : JChar) : List Byte :=
  if 0 < ch ∧ ch ≤ 0x7F then [ch.setWidth 8]
  else if ch ≤ 0x7FF then
    [((0xC0 : JChar) + ((ch >>> 6) &&& 0x1F)).setWidth 8,
      ((0x80 : JChar) + (ch &&& 0x3F)).setWidth 8]
  else
    [((0xE0 : JChar) + ((ch >>> 12) &&& 0xF)).setWidth 8,
      ((0x80 : JChar) + ((ch >>> 6) &&& 0x3F)).setWidth 8,
      ((0x80 : JChar) + (ch &&& 0x3F)).setWidth 8]

/-- Modified UTF-8 of one code unit, after the table of `java.io.DataInput`: U+0001..U+007F
as one byte; U+0000 and U+0080..U+07FF as `110xxxxx 10xxxxxx`; the rest as
`1110xxxx 10xxxxxx 10xxxxxx`. -/
def modifiedUtf8Char (c : Nat) : List Nat :=
  if 1 ≤ c ∧ c ≤ 0x7F then [c]
  else if c ≤ 0x7FF then [0xC0 + c / 0x40, 0x80 + c % 0x40]
  else [0xE0 + c / 0x1000, 0x80 + c / 0x40 % 0x40, 0x80 + c % 0x40]

example : encodeUTF 0xE9 = [0xC3, 0xA9] := by decide

example : encodeUTF 0 = [0xC0, 0x80] := by decide

@[simp] theorem length_encodeUTF (ch : JChar) : (encodeUTF ch).length = utfCharLength ch := by
  unfold encodeUTF utfCharLength
  split_ifs <;> rfl

theorem one_le_utfCharLength (ch : JChar) : 1 ≤ utfCharLength ch := by
  unfold utfCharLength
  split_ifs <;> omega

/-- libgcj's shifts and masks compute the table of modified UTF-8. -/
theorem encodeUTF_toNat (ch : JChar) :
    (encodeUTF ch).map BitVec.toNat = modifiedUtf8Char ch.toNat := by
  have bound := ch.isLt
  have mask31 : ∀ x : Nat, x &&& 31 = x % 32 := fun x => Nat.and_pow_two_sub_one_eq_mod x 5
  have mask63 : ∀ x : Nat, x &&& 63 = x % 64 := fun x => Nat.and_pow_two_sub_one_eq_mod x 6
  have mask15 : ∀ x : Nat, x &&& 15 = x % 16 := fun x => Nat.and_pow_two_sub_one_eq_mod x 4
  unfold encodeUTF modifiedUtf8Char
  simp only [BitVec.lt_def, BitVec.le_def, BitVec.ofNat_eq_ofNat, BitVec.toNat_ofNat]
  split_ifs <;>
    simp only [List.map_cons, List.map_nil, BitVec.toNat_setWidth, BitVec.toNat_add,
      BitVec.toNat_and, BitVec.toNat_ushiftRight, BitVec.toNat_ofNat, BitVec.ofNat_eq_ofNat,
      Nat.shiftRight_eq_div_pow, List.cons.injEq, and_true, mask31, mask63, mask15,
      Nat.reducePow, Nat.reduceMod] at * <;>
    omega

/-- No code unit is encoded with a zero byte, U+0000 included. -/
theorem encodeUTF_ne_zero {ch : JChar} {b : Byte} (mem : b ∈ encodeUTF ch) : b ≠ 0 := by
  have table := encodeUTF_toNat ch
  have inTable : b.toNat ∈ modifiedUtf8Char ch.toNat := table ▸ List.mem_map_of_mem _ mem
  intro zero
  subst zero
  unfold modifiedUtf8Char at inTable
  split_ifs at inTable <;> simp at inTable <;> omega

/-- The code units U+0001..U+007F, which modified UTF-8 stores as themselves. -/
def IsAsciiUnit (ch : JChar) : Prop := 0 < ch ∧ ch ≤ 0x7F

instance (ch : JChar) : Decidable (IsAsciiUnit ch) := inferInstanceAs (Decidable (_ ∧ _))

theorem utfCharLength_eq_one_iff (ch : JChar) : utfCharLength ch = 1 ↔ IsAsciiUnit ch := by
  unfold utfCharLength IsAsciiUnit
  split_ifs <;> simp_all

/-- The modified UTF-8 of a whole string, as libgcj's region loop stores it. -/
def encodeString (s : JString) : List Byte := s.flatMap encodeUTF

/-- The table's modified UTF-8 of a whole string. -/
def modifiedUtf8 (s : JString) : List Nat := s.flatMap fun ch => modifiedUtf8Char ch.toNat

/-- The byte count of `s` in modified UTF-8. -/
def utfLength : JString → Nat
  | [] => 0
  | ch :: rest => utfCharLength ch + utfLength rest

/-- libgcj's `JvGetStringUTFLength`: the byte counts summed in the `jsize` `len`, which wraps
past 2^32. -/
def jvGetStringUTFLength : JString → BitVec 32
  | [] => 0
  | ch :: rest => BitVec.ofNat 32 (utfCharLength ch) + jvGetStringUTFLength rest

@[simp] theorem encodeString_nil : encodeString [] = [] := rfl

@[simp] theorem encodeString_cons (ch : JChar) (s : JString) :
    encodeString (ch :: s) = encodeUTF ch ++ encodeString s := rfl

@[simp] theorem encodeString_append (s t : JString) :
    encodeString (s ++ t) = encodeString s ++ encodeString t := List.flatMap_append _ _ _

@[simp] theorem utfLength_nil : utfLength [] = 0 := rfl

@[simp] theorem utfLength_cons (ch : JChar) (s : JString) :
    utfLength (ch :: s) = utfCharLength ch + utfLength s := rfl

@[simp] theorem utfLength_append (s t : JString) :
    utfLength (s ++ t) = utfLength s + utfLength t := by
  induction s with
  | nil => simp
  | cons ch s ih => simp [ih, Nat.add_assoc]

@[simp] theorem modifiedUtf8_cons (ch : JChar) (s : JString) :
    modifiedUtf8 (ch :: s) = modifiedUtf8Char ch.toNat ++ modifiedUtf8 s := rfl

theorem utfLength_replicate (n : Nat) (ch : JChar) :
    utfLength (List.replicate n ch) = n * utfCharLength ch := by
  induction n with
  | zero => simp
  | succ n ih => rw [List.replicate_succ, utfLength_cons, ih, Nat.succ_mul, Nat.add_comm]

theorem utfLength_le (s : JString) : utfLength s ≤ 3 * s.length := by
  induction s with
  | nil => rfl
  | cons ch s ih =>
      have : utfCharLength ch ≤ 3 := by unfold utfCharLength; split_ifs <;> omega
      simp only [utfLength_cons, List.length_cons]
      omega

theorem length_encodeString (s : JString) : (encodeString s).length = utfLength s := by
  induction s with
  | nil => rfl
  | cons ch s ih => simp [ih]

theorem encodeString_toNat (s : JString) : (encodeString s).map BitVec.toNat = modifiedUtf8 s := by
  induction s with
  | nil => rfl
  | cons ch s ih => simp [List.map_append, encodeUTF_toNat, ih]

theorem encodeString_ne_zero {s : JString} {b : Byte} (mem : b ∈ encodeString s) : b ≠ 0 := by
  obtain ⟨ch, -, inChar⟩ := List.mem_flatMap.mp mem
  exact encodeUTF_ne_zero inChar

theorem jvGetStringUTFLength_eq (s : JString) :
    jvGetStringUTFLength s = BitVec.ofNat 32 (utfLength s) := by
  induction s with
  | nil => rfl
  | cons ch s ih => simp [jvGetStringUTFLength, ih, BitVec.ofNat_add]

theorem length_le_utfLength (s : JString) : s.length ≤ utfLength s := by
  induction s with
  | nil => rfl
  | cons ch s ih => have := one_le_utfCharLength ch; simp; omega

/-- A string costs one byte a code unit exactly when it is made of U+0001..U+007F. -/
theorem utfLength_eq_length_iff (s : JString) :
    utfLength s = s.length ↔ ∀ ch ∈ s, IsAsciiUnit ch := by
  induction s with
  | nil => simp
  | cons ch s ih =>
      have atLeast := length_le_utfLength s
      have one := one_le_utfCharLength ch
      rw [utfLength_cons, List.length_cons, List.forall_mem_cons, ← utfCharLength_eq_one_iff,
        ← ih]
      omega

/-- libgcj's `JvNewStringLatin1`: each byte of the C string widened to a code unit. -/
def jvNewStringLatin1 (bytes : CString) : JString := bytes.map (·.setWidth 16)

theorem jvNewStringLatin1_append (front back : CString) :
    jvNewStringLatin1 (front ++ back) = jvNewStringLatin1 front ++ jvNewStringLatin1 back :=
  List.map_append _ _ _

theorem jvNewStringLatin1_encodeUTF {ch : JChar} (ascii : IsAsciiUnit ch) :
    jvNewStringLatin1 (encodeUTF ch) = [ch] := by
  have small : ch.toNat ≤ 0x7F := ascii.2
  simp only [jvNewStringLatin1, encodeUTF, ascii.1, ascii.2, and_self, ↓reduceIte,
    List.map_cons, List.map_nil, List.cons.injEq, and_true]
  apply BitVec.eq_of_toNat_eq
  simp only [BitVec.toNat_setWidth]
  omega

/-- Text of U+0001..U+007F comes back unchanged through its bytes. -/
theorem jvNewStringLatin1_encodeString {s : JString} (ascii : ∀ ch ∈ s, IsAsciiUnit ch) :
    jvNewStringLatin1 (encodeString s) = s := by
  induction s with
  | nil => rfl
  | cons ch s ih =>
      rw [encodeString_cons, jvNewStringLatin1_append,
        jvNewStringLatin1_encodeUTF (ascii ch (List.mem_cons_self _ _)),
        ih fun c mem => ascii c (List.mem_cons_of_mem _ mem)]
      rfl

end JtsC
