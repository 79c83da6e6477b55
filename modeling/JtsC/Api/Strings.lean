import JtsC.Api.Boundary

/-! # Strings handed back to C, and back again

Below 2^31 bytes of modified UTF-8, `StringToChar` gives the caller the whole encoding, and
the length `JvGetStringUTFLength` reports is its length. Text of U+0001..U+007F then comes
back unchanged through `JvNewStringLatin1`, which is what the wrapper's two round trips rely
on. `JTSRelatePattern` hands `relate` the Latin-1 widening of whatever pattern it is given, so
on the text `JTSRelate` returns it hands over the matrix's own text; and `JTSGeomFromWKT`
hands the WKT reader the widening of its bytes, so on the text `JTSGeomToWKT` returns for an
ASCII WKT it hands over that WKT (`JtsC.string_round_trips`).

The length is a 32-bit `int`. From 2^31 bytes to 2^32 it is negative, `Jv_AllocBytes` fails
and `StringToChar` raises `OutOfMemoryError`: a string of 715827883 code units U+0800, three
bytes each, already gets no text back (`JtsC.stringToChar_long_string_fails`). Past 2^32 bytes
only the low bits remain, and the text is cut to them.
-/

namespace JtsC

theorem length_modifiedUtf8 (s : JString) : (modifiedUtf8 s).length = utfLength s := by
  rw [← encodeString_toNat, List.length_map, length_encodeString]

theorem toNat_jvGetStringUTFLength_of_lt {s : JString} (bounded : utfLength s < 2 ^ 31) :
    (jvGetStringUTFLength s).toNat = utfLength s := by
  rw [jvGetStringUTFLength_eq, BitVec.toNat_ofNat]
  omega

/-- Below 2^31 bytes, `StringToChar` returns the string's whole modified UTF-8, whose length
`JvGetStringUTFLength` reports, whatever memory past the string holds. -/
theorem stringToChar_text_of_lt {s : JString} (bounded : utfLength s < 2 ^ 31)
    (beyond : Nat → JChar) :
    ∃ run, stringToChar (some s) beyond = .ok run ∧ run.text.map BitVec.toNat = modifiedUtf8 s ∧
      ((modifiedUtf8 s).length : Int) = (jvGetStringUTFLength s).toInt := by
  have fits : utfLength s % 2 ^ 32 < 2 ^ 31 := by omega
  have returns := stringToChar_some_eq s beyond fits
  obtain ⟨block, text⟩ := stringToChar_text_eq returns
  have length := toNat_jvGetStringUTFLength_of_lt bounded
  refine ⟨_, returns, ?_, ?_⟩
  · rw [text, block, Nat.mod_eq_of_lt (by omega),
      List.take_of_length_le (length_encodeString s).le, encodeString_toNat]
  · rw [length_modifiedUtf8, BitVec.toInt_eq_toNat_cond, length, if_pos (by omega)]

/-- Whatever the length, `len` is its low 32 bits: while they read as a negative `jsize` the
allocation fails, and otherwise the caller gets that many bytes of the encoding. -/
theorem stringToChar_by_length (s : JString) (beyond : Nat → JChar) :
    (2 ^ 31 ≤ utfLength s % 2 ^ 32 → stringToChar (some s) beyond = .error outOfMemoryError) ∧
      (utfLength s % 2 ^ 32 < 2 ^ 31 → ∃ run, stringToChar (some s) beyond = .ok run ∧
        run.text = (encodeString s).take (utfLength s % 2 ^ 32)) := by
  refine ⟨stringToChar_some_of_negative s beyond, fun fits => ?_⟩
  have returns := stringToChar_some_eq s beyond fits
  obtain ⟨block, text⟩ := stringToChar_text_eq returns
  exact ⟨_, returns, block ▸ text⟩

/-- The same text as a run: below 2^31 bytes it is the encoding. -/
theorem stringToCharText_ascii {s : JString} (ascii : ∀ ch ∈ s, IsAsciiUnit ch)
    (short : s.length < 2 ^ 31) :
    ∃ text, stringToCharText (some s) = pure text ∧ jvNewStringLatin1 text = s := by
  have bounded : utfLength s < 2 ^ 31 := by rwa [(utfLength_eq_length_iff s).mpr ascii]
  exact ⟨_, stringToCharText_of_lt bounded, jvNewStringLatin1_encodeString ascii⟩

variable {Coord : Type} (engine : Engine Coord)

/-- `JTSRelate` then `JTSRelatePattern`: `JTSRelate` returns the matrix text; for every
pattern, `JTSRelatePattern` tests the matrix against the pattern's Latin-1 widening, so on the
matrix text it tests the matrix against its own text, which matches. -/
theorem jtsRelatePattern_jtsRelate {g1 : Geometry Coord} {g2 : Handle Coord}
    {im : IntersectionMatrix} (computed : engine.relate g1 g2 = .ok (some im)) :
    jtsRelate engine (some g1) g2 = pure (some (encodeString im.toString)) ∧
      jvNewStringLatin1 (encodeString im.toString) = im.toString ∧
      (∀ bytes, jtsRelatePattern engine (some g1) g2 (some bytes) =
        withHandler 2 (Run.ofJava (im.matches (jvNewStringLatin1 bytes)) >>= fun b =>
          pure (charOfBool b))) ∧
      jtsRelatePattern engine (some g1) g2 (some (encodeString im.toString)) = pure 1 := by
  have ascii := IntersectionMatrix.toString_ascii im
  have bounded : utfLength im.toString < 2 ^ 31 := by
    rw [(utfLength_eq_length_iff _).mpr ascii, IntersectionMatrix.toString, List.length_map,
      IntersectionMatrix.length_cells]
    decide
  have latin1 := jvNewStringLatin1_encodeString ascii
  have tests : ∀ bytes, jtsRelatePattern engine (some g1) g2 (some bytes) =
      withHandler 2 (Run.ofJava (im.matches (jvNewStringLatin1 bytes)) >>= fun b =>
        pure (charOfBool b)) := fun bytes => by
    simp only [jtsRelatePattern, cxxStringOf, invoke, Engine.relatePattern, computed, Run.pure_bind]
  refine ⟨?_, latin1, tests, ?_⟩
  · simp only [jtsRelate, invoke, computed, Run.ofJava_ok, Run.pure_bind,
      stringToCharText_of_lt bounded]
    rfl
  · rw [tests, latin1, IntersectionMatrix.matches_toString, Run.ofJava_ok, Run.pure_bind]
    rfl

/-- `JTSGeomToWKT` then `JTSGeomFromWKT`: for WKT text of U+0001..U+007F, the writer's text
comes back as its bytes, and the reader is handed the text the writer produced. -/
theorem jtsGeomFromWKT_jtsGeomToWKT {g : Geometry Coord} {wkt : JString}
    (written : engine.toString g = .ok wkt) (ascii : ∀ ch ∈ wkt, IsAsciiUnit ch)
    (short : wkt.length < 2 ^ 31) :
    jtsGeomToWKT engine (some g) =
        ⟨[.notice (cString "JTSGeomToWKT called") []], .returns (some (encodeString wkt))⟩ ∧
      jtsGeomFromWKT engine (encodeString wkt) =
        withHandler none (Run.report (.notice (cString "JTSGeomFromWKT called") []) >>= fun _ =>
          Run.ofJava (engine.readWKT wkt)) := by
  have bounded : utfLength wkt < 2 ^ 31 := by rwa [(utfLength_eq_length_iff wkt).mpr ascii]
  refine ⟨?_, by rw [jtsGeomFromWKT, jvNewStringLatin1_encodeString ascii]⟩
  simp only [jtsGeomToWKT, invoke, written, Run.ofJava_ok, Run.pure_bind, Run.report_bind,
    stringToCharText_of_lt bounded]
  rfl

/-- **The strings' round trips.** Below 2^31 bytes `StringToChar` returns the whole encoding
with its true length as a `jsize`, and beyond that the 32-bit length fails the allocation or
cuts the text; text of U+0001..U+007F survives `StringToChar` then `JvNewStringLatin1`. So the
matrix text `JTSRelate` returns is the pattern `JTSRelatePattern` tests the matrix against,
and matches; and for a geometry whose WKT is ASCII, the reader `JTSGeomFromWKT` calls on the
text of `JTSGeomToWKT` parses exactly that WKT. -/
theorem string_round_trips :
    (∀ (s : JString) (beyond : Nat → JChar), utfLength s < 2 ^ 31 →
      ∃ run, stringToChar (some s) beyond = .ok run ∧ run.text.map BitVec.toNat = modifiedUtf8 s ∧
        ((modifiedUtf8 s).length : Int) = (jvGetStringUTFLength s).toInt) ∧
    (∀ (s : JString) (beyond : Nat → JChar),
      (2 ^ 31 ≤ utfLength s % 2 ^ 32 → stringToChar (some s) beyond = .error outOfMemoryError) ∧
        (utfLength s % 2 ^ 32 < 2 ^ 31 → ∃ run, stringToChar (some s) beyond = .ok run ∧
          run.text = (encodeString s).take (utfLength s % 2 ^ 32))) ∧
    (∀ s : JString, (∀ ch ∈ s, IsAsciiUnit ch) → s.length < 2 ^ 31 →
      ∃ text, stringToCharText (some s) = pure text ∧ jvNewStringLatin1 text = s) ∧
    (∀ g1 g2 im, engine.relate g1 g2 = .ok (some im) →
      jtsRelate engine (some g1) g2 = pure (some (encodeString im.toString)) ∧
        jvNewStringLatin1 (encodeString im.toString) = im.toString ∧
        (∀ bytes, jtsRelatePattern engine (some g1) g2 (some bytes) =
          withHandler 2 (Run.ofJava (im.matches (jvNewStringLatin1 bytes)) >>= fun b =>
            pure (charOfBool b))) ∧
        jtsRelatePattern engine (some g1) g2 (some (encodeString im.toString)) = pure 1) ∧
    (∀ g wkt, engine.toString g = .ok wkt → (∀ ch ∈ wkt, IsAsciiUnit ch) → wkt.length < 2 ^ 31 →
      jtsGeomToWKT engine (some g) =
          ⟨[.notice (cString "JTSGeomToWKT called") []], .returns (some (encodeString wkt))⟩ ∧
        jtsGeomFromWKT engine (encodeString wkt) =
          withHandler none (Run.report (.notice (cString "JTSGeomFromWKT called") []) >>= fun _ =>
            Run.ofJava (engine.readWKT wkt))) :=
  ⟨fun _ beyond bounded => stringToChar_text_of_lt bounded beyond,
    stringToChar_by_length,
    fun _ ascii short => stringToCharText_ascii ascii short,
    fun _ _ _ computed => jtsRelatePattern_jtsRelate engine computed,
    fun _ _ written ascii short => jtsGeomFromWKT_jtsGeomToWKT engine written ascii short⟩

/-- 715827883 code units U+0800 take 2147483649 bytes, which the 32-bit length reads as the
`jsize` -2147483647: the length is not the encoding's, and `Jv_AllocBytes` fails, so
`StringToChar` gives no text at all. -/
theorem stringToChar_long_string_fails :
    ¬ ∀ s : JString, ((modifiedUtf8 s).length : Int) = (jvGetStringUTFLength s).toInt ∧
      ∃ run, stringToChar (some s) (fun _ => 0) = .ok run ∧ run.text.map BitVec.toNat = modifiedUtf8 s := by
  intro exact
  have three : utfCharLength (BitVec.ofNat 16 0x800) = 3 := by decide
  have long : utfLength (List.replicate 715827883 (BitVec.ofNat 16 0x800)) = 2147483649 := by
    rw [utfLength_replicate, three]
  obtain ⟨-, run, returns, -⟩ := exact (List.replicate 715827883 (BitVec.ofNat 16 0x800))
  rw [stringToChar_some_of_negative _ _ (by rw [long]; decide)] at returns
  cases returns

end JtsC
