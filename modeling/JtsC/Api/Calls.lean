import JtsC.Api.Accessors
import JtsC.Api.TypeId
import JtsC.Api.Wkb

/-! # Every exported call, and when it comes back

`JtsC.Export` is a call of one of the functions `jts_c.h` declares, with its arguments, and
`JtsC.Export.run` runs it; `JtsC.Value` is what it returns to C. Each family of
near-identical functions is one constructor with the member named (`JtsC.BinaryPredicate`,
`JtsC.UnaryPredicate`, `JtsC.Overlay`, `JtsC.Derived`), and each member keeps its own
exported function.

Every call returns to its caller (`JtsC.exports_return`) when its arguments are those the
header admits (`JtsC.Export.Admissible`: handles and a pattern that are not NULL, the variant
an accessor is documented for, a WKB size below 2^31 that the caller's buffer holds) and JTS
behaves as the wrapper needs (`JtsC.Engine.WellBehaved`): every exception it throws carries
a message `StringToChar` converts, `relate` always computes a matrix, and the texts it
returns are below 2^31 bytes. Without these, an exception or undefined behaviour gets
through, as the boundary, accessor and WKB modules show.

Coming back is a fact about control, and three things stay outside it. Memory: `StringToChar`
stores its NUL at `buf[len]`, one past its `len`-byte block, for every text, and for text
outside U+0001..U+007F its region stores run past the block too (`JtsC.stringToChar`,
`JtsC.stringToChar_strays_iff`); a call that comes back has still made those stores. The
callbacks: a report is taken to return, as a callback that prints does; one that exits, like
the test program's `log_and_exit`, ends the process instead (`JtsC.Run.host`). Linkage:
`JTSGetSRID` and `JTSHasZ` are declared in `jts_c.h` but missing from the `extern "C"` list of
`jts_c.cpp`, so they have C++ linkage and a C caller cannot link them, and `JTSHasZ` returns
`bool` where the header declares `char`; they are among the calls here as the C++ functions
they are.
-/

namespace JtsC

/-- The binary predicates, `JTSDisjoint` to `JTSEquals`. -/
inductive BinaryPredicate
  | disjoint | touches | intersects | crosses | within | contains | overlaps | equals
  deriving DecidableEq, Repr

/-- The unary predicates `JTSisValid`, `JTSisEmpty` and `JTSisSimple`. -/
inductive UnaryPredicate
  | isValid | isEmpty | isSimple
  deriving DecidableEq, Repr

/-- The overlays `JTSIntersection`, `JTSDifference`, `JTSSymDifference` and `JTSUnion`. -/
inductive Overlay
  | intersection | difference | symDifference | union
  deriving DecidableEq, Repr

/-- The geometries made from one geometry: `JTSConvexHull`, `JTSBoundary`,
`JTSPointOnSurface` and `JTSGetCentroid`. -/
inductive Derived
  | convexHull | boundary | pointOnSurface | centroid
  deriving DecidableEq, Repr

section

variable {Coord : Type} (engine : Engine Coord)

/-- The JTS method behind each binary predicate. -/
def BinaryPredicate.method : BinaryPredicate → Geometry Coord → Handle Coord → Except Throwable Bool
  | .disjoint => engine.disjoint
  | .touches => engine.touches
  | .intersects => engine.intersects
  | .crosses => engine.crosses
  | .within => engine.within
  | .contains => engine.contains
  | .overlaps => engine.overlaps
  | .equals => engine.equals

/-- The exported function of each binary predicate. -/
def BinaryPredicate.exported : BinaryPredicate → Handle Coord → Handle Coord → Run Byte
  | .disjoint => jtsDisjoint engine
  | .touches => jtsTouches engine
  | .intersects => jtsIntersects engine
  | .crosses => jtsCrosses engine
  | .within => jtsWithin engine
  | .contains => jtsContains engine
  | .overlaps => jtsOverlaps engine
  | .equals => jtsEquals engine

theorem BinaryPredicate.exported_eq (op : BinaryPredicate) :
    op.exported engine = binaryPredicate (op.method engine) := by
  cases op <;> rfl

/-- The JTS method behind each unary predicate. -/
def UnaryPredicate.method : UnaryPredicate → Geometry Coord → Except Throwable Bool
  | .isValid => engine.isValid
  | .isEmpty => engine.isEmpty
  | .isSimple => engine.isSimple

/-- The exported function of each unary predicate. -/
def UnaryPredicate.exported : UnaryPredicate → Handle Coord → Run Byte
  | .isValid => jtsIsValid engine
  | .isEmpty => jtsIsEmpty engine
  | .isSimple => jtsIsSimple engine

theorem UnaryPredicate.exported_eq (op : UnaryPredicate) :
    op.exported engine = unaryPredicate (op.method engine) := by
  cases op <;> rfl

/-- The JTS method behind each overlay. -/
def Overlay.method : Overlay → Geometry Coord → Handle Coord → Except Throwable (Handle Coord)
  | .intersection => engine.intersection
  | .difference => engine.difference
  | .symDifference => engine.symDifference
  | .union => engine.union

/-- The exported function of each overlay. -/
def Overlay.exported : Overlay → Handle Coord → Handle Coord → Run (Handle Coord)
  | .intersection => jtsIntersection engine
  | .difference => jtsDifference engine
  | .symDifference => jtsSymDifference engine
  | .union => jtsUnion engine

theorem Overlay.exported_eq (op : Overlay) (g1 g2 : Handle Coord) :
    op.exported engine g1 g2 = withHandler none (invoke g1 (op.method engine · g2)) := by
  cases op <;> rfl

/-- The JTS method behind each derived geometry. -/
def Derived.method : Derived → Geometry Coord → Except Throwable (Handle Coord)
  | .convexHull => engine.convexHull
  | .boundary => engine.getBoundary
  | .pointOnSurface => engine.getInteriorPoint
  | .centroid => engine.getCentroid

/-- The exported function of each derived geometry. -/
def Derived.exported : Derived → Handle Coord → Run (Handle Coord)
  | .convexHull => jtsConvexHull engine
  | .boundary => jtsBoundary engine
  | .pointOnSurface => jtsPointOnSurface engine
  | .centroid => jtsGetCentroid engine

theorem Derived.exported_eq (op : Derived) (g1 : Handle Coord) :
    op.exported engine g1 = withHandler none (invoke g1 (op.method engine)) := by
  cases op <;> rfl

end

/-- What an exported function returns to C. -/
inductive Value (Coord : Type)
  /-- A predicate's `char`: 0, 1, or 2 after an error. -/
  | char (c : Byte)
  | int (i : Int)
  /-- A `Geometry *`. -/
  | geometry (h : Handle Coord)
  /-- A `char *`: NULL or a text. -/
  | text (t : Option CString)
  /-- `JTSversion`'s `const char *`. -/
  | version (t : CString)
  /-- `JTSHasZ`'s `bool`. -/
  | bool (b : Bool)
  /-- `JTSGeomToWKB`'s pointer with the size it stores, or NULL. -/
  | wkb (w : Option (List Byte × SizeT))
  /-- `JTSSetSRID` returns nothing: the geometry it changed. -/
  | changed (g : Geometry Coord)

/-- **A call of an exported function**, with its arguments. `getSRID` and `hasZ` are the C++
functions `JTSGetSRID` and `JTSHasZ`, which `jts_c.cpp` does not give C linkage. -/
inductive Export (Coord : Type)
  | binary (op : BinaryPredicate) (g1 g2 : Handle Coord)
  | relatePattern (g1 g2 : Handle Coord) (pat : Option CString)
  | relate (g1 g2 : Handle Coord)
  | unary (op : UnaryPredicate) (g1 : Handle Coord)
  | geomTypeId (g1 : Handle Coord)
  | isRing (g1 : Handle Coord)
  | geomType (g1 : Handle Coord)
  | overlay (op : Overlay) (g1 g2 : Handle Coord)
  | buffer (g1 : Handle Coord) (width : Float) (quadrantSegments : Int)
  | derived (op : Derived) (g1 : Handle Coord)
  | setSRID (g : Handle Coord) (srid : Int)
  | getNumCoordinate (g1 : Handle Coord)
  | getNumInteriorRings (g1 : Handle Coord)
  | getNumGeometries (g1 : Handle Coord)
  | getGeometryN (g1 : Handle Coord) (n : BitVec 32)
  | getExteriorRing (g1 : Handle Coord)
  | getInteriorRingN (g1 : Handle Coord) (n : BitVec 32)
  | polygonize (geoms : List (Handle Coord))
  | getSRID (g1 : Handle Coord)
  | version
  | hasZ (g : Handle Coord)
  | geomToWKT (g1 : Handle Coord)
  | geomToWKB (g1 : Handle Coord)
  | geomFromWKT (wkt : CString)
  | geomFromWKB (wkb : List Byte) (size : SizeT)

variable {Coord α : Type} (engine : Engine Coord)

/-- The call run against JTS. -/
def Export.run : Export Coord → Run (Value Coord)
  | .binary op g1 g2 => .char <$> op.exported engine g1 g2
  | .relatePattern g1 g2 pat => .char <$> jtsRelatePattern engine g1 g2 pat
  | .relate g1 g2 => .text <$> jtsRelate engine g1 g2
  | .unary op g1 => .char <$> op.exported engine g1
  | .geomTypeId g1 => .int <$> jtsGeomTypeId g1
  | .isRing g1 => .char <$> jtsIsRing engine g1
  | .geomType g1 => .text <$> jtsGeomType g1
  | .overlay op g1 g2 => .geometry <$> op.exported engine g1 g2
  | .buffer g1 width quadrantSegments => .geometry <$> jtsBuffer engine g1 width quadrantSegments
  | .derived op g1 => .geometry <$> op.exported engine g1
  | .setSRID g srid => .changed <$> jtsSetSRID g srid
  | .getNumCoordinate g1 => .int <$> jtsGetNumCoordinate engine g1
  | .getNumInteriorRings g1 => .int <$> jtsGetNumInteriorRings g1
  | .getNumGeometries g1 => .int <$> jtsGetNumGeometries g1
  | .getGeometryN g1 n => .geometry <$> jtsGetGeometryN g1 n
  | .getExteriorRing g1 => .geometry <$> jtsGetExteriorRing g1
  | .getInteriorRingN g1 n => .geometry <$> jtsGetInteriorRingN g1 n
  | .polygonize geoms => .geometry <$> jtsPolygonize geoms
  | .getSRID g1 => .int <$> jtsGetSRID g1
  | .version => .version <$> jtsVersion engine
  | .hasZ g => .bool <$> jtsHasZ g
  | .geomToWKT g1 => .text <$> jtsGeomToWKT engine g1
  | .geomToWKB g1 => .wkb <$> jtsGeomToWKB engine g1
  | .geomFromWKT wkt => .geometry <$> jtsGeomFromWKT engine wkt
  | .geomFromWKB wkb size => .geometry <$> jtsGeomFromWKB engine wkb size

/-- The arguments the header admits: handles and a pattern that are not NULL, the variant an
accessor is documented for, a pattern far below the `jsize` limit, and a WKB size below
2^31 that the caller's buffer holds. -/
def Export.Admissible : Export Coord → Prop
  | .binary _ g1 g2 | .relate g1 g2 | .overlay _ g1 g2 => g1.isSome ∧ g2.isSome
  | .relatePattern g1 g2 pat =>
      g1.isSome ∧ g2.isSome ∧ ∃ bytes, pat = some bytes ∧ bytes.length < 2 ^ 29
  | .unary _ g1 | .geomTypeId g1 | .isRing g1 | .geomType g1 | .buffer g1 _ _ | .derived _ g1
  | .setSRID g1 _ | .getNumCoordinate g1 | .getSRID g1 | .geomToWKT g1 | .geomToWKB g1 =>
      g1.isSome
  | .getNumInteriorRings g1 | .getExteriorRing g1 | .getInteriorRingN g1 _ =>
      ∃ g, g1 = some g ∧ g.geometryClass.IsInstanceOf .polygon
  | .getNumGeometries g1 | .getGeometryN g1 _ =>
      ∃ g, g1 = some g ∧ g.geometryClass.IsInstanceOf .geometryCollection
  | .polygonize _ | .version | .hasZ _ | .geomFromWKT _ => True
  | .geomFromWKB wkb size => size.toNat < 2 ^ 31 ∧ size.toNat ≤ wkb.length

/-- **JTS as the wrapper needs it.** Every exception it throws carries a message that
converts, `relate` computes a matrix, and the texts it returns are below 2^31 bytes. -/
structure Engine.WellBehaved : Prop where
  binary : ∀ (op : BinaryPredicate) g h, Converts (op.method engine g (some h))
  relate : ∀ g h, Converts (engine.relate g (some h)) ∧ engine.relate g (some h) ≠ .ok none
  unary : ∀ (op : UnaryPredicate) g, Converts (op.method engine g)
  isRing : ∀ g, Converts (engine.isRing g)
  overlay : ∀ (op : Overlay) g h, Converts (op.method engine g (some h))
  buffer : ∀ g width quadrantSegments, Converts (engine.buffer g width quadrantSegments)
  derived : ∀ (op : Derived) g, Converts (op.method engine g)
  getNumPoints : ∀ g, Converts (engine.getNumPoints g)
  toString : ∀ g, Converts (engine.toString g) ∧
    ∀ wkt, engine.toString g = .ok wkt → utfLength wkt < 2 ^ 31
  writeWKB : ∀ g, Converts (engine.writeWKB (some g))
  readWKT : ∀ text, Converts (engine.readWKT text)
  readWKB : ∀ array, Converts (engine.readWKB array)
  version : ∀ text, engine.version = some text → utfLength text < 2 ^ 31

/-- A run that comes back to its C caller. -/
def Returns (run : Run α) : Prop := ∃ value, run.outcome = .returns value

theorem castCall_of_view_some {V : Type} {view : Geometry Coord → Option V} {g : Geometry Coord}
    {object : V} (instance_ : view g = some object) (member : V → Except Throwable α) :
    castCall view (some g) member = Run.ofJava (member object) := by
  simp only [castCall, instance_]

theorem ofJava_returns {result : Except Throwable α} {value : α}
    (returns : (Run.ofJava result).outcome = .returns value) : result = .ok value := by
  cases result with
  | ok v => cases returns; rfl
  | error thrown => cases returns

theorem returns_map {β : Type} (f : α → β) {run : Run α} (returns : Returns run) :
    Returns (f <$> run) := by
  obtain ⟨value, returned⟩ := returns
  exact ⟨f value, by rw [show f <$> run = run >>= (pure ∘ f) from rfl, Run.bind_of_returns returned]; rfl⟩

theorem withHandler_comes_back (sentinel : α) {body : Run α} (recoverable : Recoverable body) :
    Returns (withHandler sentinel body) :=
  (withHandler_returns sentinel recoverable).imp fun _ both => both.1

theorem converts_map_arrayGet {β γ : Type} (xs : List β) (n : BitVec 32) (f : β → γ) :
    Converts (f <$> arrayGet xs n.toInt) := by
  intro thrown raised
  unfold arrayGet at raised
  split at raised
  · cases raised
  · cases raised
    exact ⟨_, rfl, utfLength_indexMessage_lt n⟩

theorem converts_relatePattern {g : Geometry Coord} {other : Handle Coord} {pattern : JString}
    (relate : Converts (engine.relate g other) ∧ engine.relate g other ≠ .ok none)
    (short : pattern.length < 2 ^ 29) : Converts (engine.relatePattern g other pattern) := by
  intro thrown raised
  unfold Engine.relatePattern at raised
  split at raised
  · unfold IntersectionMatrix.matches at raised
    split at raised
    · cases raised
    · cases raised
      have prefixLength : utfLength (asciiString "Should be length 9: ") = 20 := by decide
      have := utfLength_le pattern
      exact ⟨_, rfl, by rw [utfLength_append, prefixLength]; omega⟩
  · exact absurd ‹_› relate.2
  · cases raised
    exact relate.1 _ ‹_›

/-- One JTS method under the handler: the overlays, the derived geometries, `JTSBuffer` and
`JTSGetNumCoordinate`. -/
theorem withHandler_invoke_returns (sentinel : α) {g : Geometry Coord}
    {method : Geometry Coord → Except Throwable α} (converts : Converts (method g)) :
    Returns (withHandler sentinel (invoke (some g) method)) :=
  withHandler_comes_back _ (.ofJava converts)

theorem polygon_accessors_return {g : Geometry Coord}
    (polygon : g.geometryClass.IsInstanceOf .polygon) (n : BitVec 32) :
    Returns (jtsGetNumInteriorRings (some g)) ∧ Returns (jtsGetExteriorRing (some g)) ∧
      Returns (jtsGetInteriorRingN (some g) n) := by
  obtain ⟨⟨shell, holes⟩, view⟩ :=
    Option.isSome_iff_exists.mp ((Geometry.asPolygon_isSome_iff g).mpr polygon)
  simp only [jtsGetNumInteriorRings, jtsGetExteriorRing, jtsGetInteriorRingN,
    castCall_of_view_some view]
  exact ⟨withHandler_comes_back _ (.pure _), withHandler_comes_back _ (.pure _),
    withHandler_comes_back _ (.ofJava (converts_map_arrayGet holes n _))⟩

theorem collection_accessors_return {g : Geometry Coord}
    (collection : g.geometryClass.IsInstanceOf .geometryCollection) (n : BitVec 32) :
    Returns (jtsGetNumGeometries (some g)) ∧ Returns (jtsGetGeometryN (some g) n) := by
  obtain ⟨members, view⟩ :=
    Option.isSome_iff_exists.mp ((Geometry.asCollection_isSome_iff g).mpr collection)
  simp only [jtsGetNumGeometries, jtsGetGeometryN, castCall_of_view_some view]
  exact ⟨withHandler_comes_back _ (.pure _),
    withHandler_comes_back _ (.ofJava (converts_map_arrayGet members n _))⟩

section

variable {engine} (wellBehaved : engine.WellBehaved)
include wellBehaved

theorem BinaryPredicate.exported_returns (op : BinaryPredicate) (g h : Geometry Coord) :
    Returns (op.exported engine (some g) (some h)) := by
  rw [BinaryPredicate.exported_eq]
  exact withHandler_comes_back _ ((Recoverable.ofJava (wellBehaved.binary op g h)).bind
    fun _ _ => .pure _)

theorem UnaryPredicate.exported_returns (op : UnaryPredicate) (g : Geometry Coord) :
    Returns (op.exported engine (some g)) := by
  rw [UnaryPredicate.exported_eq]
  exact withHandler_comes_back _ ((Recoverable.ofJava (wellBehaved.unary op g)).bind
    fun _ _ => .pure _)

/-- The pattern is copied, widened and matched; a short pattern keeps the message of a
refused one convertible. -/
theorem jtsRelatePattern_returns (g h : Geometry Coord) {bytes : CString}
    (short : bytes.length < 2 ^ 29) :
    Returns (jtsRelatePattern engine (some g) (some h) (some bytes)) := by
  have pattern : (jvNewStringLatin1 bytes).length < 2 ^ 29 := by
    rwa [jvNewStringLatin1, List.length_map]
  refine withHandler_comes_back _ ?_
  show Recoverable (cxxStringOf (some bytes) >>= _)
  rw [show cxxStringOf (some bytes) = pure bytes from rfl, Run.pure_bind]
  exact (Recoverable.ofJava (converts_relatePattern engine (wellBehaved.relate g h) pattern)).bind
    fun _ _ => .pure _

/-- The matrix text is nine bytes, far below `StringToChar`'s limit. -/
theorem jtsRelate_returns (g h : Geometry Coord) : Returns (jtsRelate engine (some g) (some h)) := by
  refine withHandler_comes_back _
    ((Recoverable.ofJava (wellBehaved.relate g h).1).bind fun matrix _ => ?_)
  cases matrix with
  | none => exact .pure _
  | some im =>
      have bounded : utfLength im.toString < 2 ^ 31 := by
        rw [(utfLength_eq_length_iff _).mpr im.toString_ascii, IntersectionMatrix.toString,
          List.length_map, IntersectionMatrix.length_cells]
        decide
      show Recoverable (stringToCharText (some im.toString) >>= _)
      rw [stringToCharText_of_lt bounded]
      exact (Recoverable.pure _).bind fun _ _ => .pure _

theorem jtsIsRing_returns (g : Geometry Coord) : Returns (jtsIsRing engine (some g)) := by
  rw [jtsIsRing_some]
  split
  · exact withHandler_comes_back _ ((Recoverable.ofJava (wellBehaved.isRing g)).bind
      fun _ _ => .pure _)
  · exact ⟨0, rfl⟩

theorem jtsVersion_returns : Returns (jtsVersion engine) := by
  unfold jtsVersion
  split
  · exact ⟨_, rfl⟩
  · case h_2 text named =>
      rw [stringToCharText_of_lt (wellBehaved.version text named)]
      exact ⟨_, rfl⟩

theorem jtsGeomToWKT_returns (g : Geometry Coord) : Returns (jtsGeomToWKT engine (some g)) := by
  refine withHandler_comes_back _ ((Recoverable.report _).bind fun _ _ =>
    (Recoverable.ofJava (wellBehaved.toString g).1).bind fun wkt written => ?_)
  show Recoverable (stringToCharText (some wkt) >>= _)
  rw [stringToCharText_of_lt ((wellBehaved.toString g).2 wkt (ofJava_returns written))]
  exact (Recoverable.pure _).bind fun _ _ => .pure _

theorem jtsGeomToWKB_returns (g : Geometry Coord) : Returns (jtsGeomToWKB engine (some g)) :=
  withHandler_comes_back _ ((Recoverable.report _).bind fun _ _ =>
    (Recoverable.ofJava (wellBehaved.writeWKB g)).bind fun _ _ => .pure _)

theorem jtsGeomFromWKT_returns (wkt : CString) : Returns (jtsGeomFromWKT engine wkt) :=
  withHandler_comes_back _ ((Recoverable.report _).bind fun _ _ =>
    .ofJava (wellBehaved.readWKT _))

theorem jtsGeomFromWKB_returns {wkb : List Byte} {size : SizeT} (small : size.toNat < 2 ^ 31)
    (inBuffer : size.toNat ≤ wkb.length) : Returns (jtsGeomFromWKB engine wkb size) := by
  obtain ⟨array, -, call⟩ := jtsGeomFromWKB_of_lt engine wkb small inBuffer
  rw [call]
  exact withHandler_comes_back _ ((Recoverable.report _).bind fun _ _ =>
    .ofJava (wellBehaved.readWKB array))

end

variable {engine}

/-- **Every admissible call comes back.** On an engine that behaves, each exported function
returns to its caller on every argument the header admits. This is control only: the stores
`StringToChar` makes past its block (the NUL for every text) are not excluded, reports are
taken to return, and `JTSGetSRID` and `JTSHasZ` are counted with their C++ linkage. -/
theorem exports_return (wellBehaved : engine.WellBehaved) (call : Export Coord)
    (admissible : call.Admissible) : ∃ value, (call.run engine).outcome = .returns value := by
  cases call with
  | binary op g1 g2 =>
      obtain ⟨g, rfl⟩ := Option.isSome_iff_exists.mp admissible.1
      obtain ⟨h, rfl⟩ := Option.isSome_iff_exists.mp admissible.2
      exact returns_map _ (BinaryPredicate.exported_returns wellBehaved op g h)
  | relatePattern g1 g2 pat =>
      obtain ⟨some1, some2, bytes, rfl, short⟩ := admissible
      obtain ⟨g, rfl⟩ := Option.isSome_iff_exists.mp some1
      obtain ⟨h, rfl⟩ := Option.isSome_iff_exists.mp some2
      exact returns_map _ (jtsRelatePattern_returns wellBehaved g h short)
  | relate g1 g2 =>
      obtain ⟨g, rfl⟩ := Option.isSome_iff_exists.mp admissible.1
      obtain ⟨h, rfl⟩ := Option.isSome_iff_exists.mp admissible.2
      exact returns_map _ (jtsRelate_returns wellBehaved g h)
  | unary op g1 =>
      obtain ⟨g, rfl⟩ := Option.isSome_iff_exists.mp admissible
      exact returns_map _ (UnaryPredicate.exported_returns wellBehaved op g)
  | geomTypeId g1 =>
      obtain ⟨g, rfl⟩ := Option.isSome_iff_exists.mp admissible
      exact returns_map _ ⟨_, by rw [jtsGeomTypeId_some]; rfl⟩
  | isRing g1 =>
      obtain ⟨g, rfl⟩ := Option.isSome_iff_exists.mp admissible
      exact returns_map _ (jtsIsRing_returns wellBehaved g)
  | geomType g1 =>
      obtain ⟨g, rfl⟩ := Option.isSome_iff_exists.mp admissible
      exact returns_map _ ⟨_, by rw [jtsGeomType_some]; rfl⟩
  | overlay op g1 g2 =>
      obtain ⟨g, rfl⟩ := Option.isSome_iff_exists.mp admissible.1
      obtain ⟨h, rfl⟩ := Option.isSome_iff_exists.mp admissible.2
      rw [Export.run, Overlay.exported_eq]
      exact returns_map _ (withHandler_invoke_returns _ (wellBehaved.overlay op g h))
  | buffer g1 width quadrantSegments =>
      obtain ⟨g, rfl⟩ := Option.isSome_iff_exists.mp admissible
      exact returns_map _ (withHandler_invoke_returns _ (wellBehaved.buffer g width quadrantSegments))
  | derived op g1 =>
      obtain ⟨g, rfl⟩ := Option.isSome_iff_exists.mp admissible
      rw [Export.run, Derived.exported_eq]
      exact returns_map _ (withHandler_invoke_returns _ (wellBehaved.derived op g))
  | setSRID g1 srid =>
      obtain ⟨g, rfl⟩ := Option.isSome_iff_exists.mp admissible
      exact returns_map _ ⟨_, rfl⟩
  | getNumCoordinate g1 =>
      obtain ⟨g, rfl⟩ := Option.isSome_iff_exists.mp admissible
      exact returns_map _ (withHandler_invoke_returns _ (wellBehaved.getNumPoints g))
  | getNumInteriorRings g1 =>
      obtain ⟨g, rfl, polygon⟩ := admissible
      exact returns_map _ (polygon_accessors_return polygon 0).1
  | getExteriorRing g1 =>
      obtain ⟨g, rfl, polygon⟩ := admissible
      exact returns_map _ (polygon_accessors_return polygon 0).2.1
  | getInteriorRingN g1 n =>
      obtain ⟨g, rfl, polygon⟩ := admissible
      exact returns_map _ (polygon_accessors_return polygon n).2.2
  | getNumGeometries g1 =>
      obtain ⟨g, rfl, collection⟩ := admissible
      exact returns_map _ (collection_accessors_return collection 0).1
  | getGeometryN g1 n =>
      obtain ⟨g, rfl, collection⟩ := admissible
      exact returns_map _ (collection_accessors_return collection n).2
  | polygonize geoms => exact returns_map _ ⟨none, rfl⟩
  | getSRID g1 =>
      obtain ⟨g, rfl⟩ := Option.isSome_iff_exists.mp admissible
      exact returns_map _ ⟨_, rfl⟩
  | version => exact returns_map _ (jtsVersion_returns wellBehaved)
  | hasZ g => exact returns_map _ ⟨false, rfl⟩
  | geomToWKT g1 =>
      obtain ⟨g, rfl⟩ := Option.isSome_iff_exists.mp admissible
      exact returns_map _ (jtsGeomToWKT_returns wellBehaved g)
  | geomToWKB g1 =>
      obtain ⟨g, rfl⟩ := Option.isSome_iff_exists.mp admissible
      exact returns_map _ (jtsGeomToWKB_returns wellBehaved g)
  | geomFromWKT wkt => exact returns_map _ (jtsGeomFromWKT_returns wellBehaved wkt)
  | geomFromWKB wkb size =>
      exact returns_map _ (jtsGeomFromWKB_returns wellBehaved admissible.1 admissible.2)

theorem converts_error_default {β : Type} : Converts (.error default : Except Throwable β) :=
  fun _ raised => by cases raised; exact ⟨[], rfl, by decide⟩

theorem converts_ok {β : Type} (value : β) : Converts (.ok value : Except Throwable β) :=
  fun _ raised => by cases raised

/-- The default engine, which throws a `Throwable` with an empty message from most calls,
behaves. -/
theorem default_wellBehaved : (default : Engine Unit).WellBehaved := by
  refine ⟨fun op _ _ => ?_, fun _ _ => ⟨converts_error_default, nofun⟩, fun op _ => ?_,
    fun _ => converts_error_default, fun op _ _ => ?_, fun _ _ _ => ?_, fun op _ => ?_,
    fun _ => converts_error_default, fun _ => ⟨converts_error_default, nofun⟩,
    fun _ => converts_error_default, fun _ => ?_, fun _ => ?_, nofun⟩ <;>
  (try cases op) <;> first | exact converts_error_default | exact converts_ok _

/-- The default engine with `disjoint` answering `false`, on which `JTSDisjoint` returns its
answer rather than the sentinel. -/
def disjointFalse : Engine Unit := { (default : Engine Unit) with disjoint := fun _ _ => .ok false }

theorem disjointFalse_wellBehaved : disjointFalse.WellBehaved :=
  { default_wellBehaved with
    binary := fun op _ _ => by
      cases op <;> first | exact converts_ok false | exact converts_error_default }

theorem exports_return_disjoint :
    ((default : Engine Unit).WellBehaved ∧
      (Export.binary .disjoint (some (.point 0 none)) (some (.point 0 none)) : Export Unit).Admissible ∧
      ∃ value, ((Export.binary .disjoint (some (.point 0 none)) (some (.point 0 none)) : Export Unit).run
        default).outcome = .returns value) ∧
    (disjointFalse.WellBehaved ∧
      (Export.binary .disjoint (some (.point 0 none)) (some (.point 0 none)) : Export Unit).Admissible ∧
      ∃ value, ((Export.binary .disjoint (some (.point 0 none)) (some (.point 0 none)) : Export Unit).run
        disjointFalse).outcome = .returns value) :=
  ⟨⟨default_wellBehaved, ⟨rfl, rfl⟩, exports_return default_wellBehaved _ ⟨rfl, rfl⟩⟩,
    ⟨disjointFalse_wellBehaved, ⟨rfl, rfl⟩, exports_return disjointFalse_wellBehaved _ ⟨rfl, rfl⟩⟩⟩

end JtsC
