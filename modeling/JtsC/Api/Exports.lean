import JtsC.Geometry.Engine

/-! # The exported functions

Each `extern "C"` function of `jts_c.cpp`, as the source writes it. All but four put their
body under the same handler, `try { ... } catch (Throwable *t) { ERROR_MESSAGE
(StringToChar (t->getMessage ())); return sentinel; }` (`JtsC.withHandler`); the sentinels are
2 for the `char` predicates, NULL for geometries and strings, 0 for the `int` accessors.
`JTSGeomTypeId`, `JTSSetSRID` and `JTSversion` have no handler, and `JTSPolygonize` only
reports.

Calls on a handle go through `JtsC.invoke`, where NULL faults into a `NullPointerException`.
The accessors that the source documents as "call only on polygon" or "only call on GCs" cast
the handle with no check (`JtsC.castCall`), which is undefined behaviour on any other object.
-/

namespace JtsC

/-- An ASCII literal of the source, as a C string. -/
def cString (text : String) : CString := text.toList.map fun c => BitVec.ofNat 8 c.toNat

/-- A C++ `bool` returned as the `char` 0 or 1. -/
def charOfBool (b : Bool) : Byte := if b then 1 else 0

section

variable {Coord : Type} {α : Type}

/-- `g->m (...)` through a handle: NULL faults, and libgcj raises the fault as a
`NullPointerException`. -/
def invoke (h : Handle Coord) (method : Geometry Coord → Except Throwable α) : Run α :=
  match h with
  | none => Run.throwJava nullPointerException
  | some g => Run.ofJava (method g)

/-- `((C *) g)->m (...)`: the handle cast to class `C` with no check, seen through the
downcast `view`, then a member of `C` called. NULL faults as in `JtsC.invoke`; on an object
that is not an instance of `C` the call is undefined behaviour. -/
def castCall {V : Type} (view : Geometry Coord → Option V) (h : Handle Coord)
    (member : V → Except Throwable α) : Run α :=
  match h with
  | none => Run.throwJava nullPointerException
  | some g =>
      match view g with
      | some object => Run.ofJava (member object)
      | none => Run.undefinedBehaviour

end

/-- `ERROR_MESSAGE (StringToChar (t->getMessage ()))`: the message, converted, is the
callback's format, with no argument. -/
def reportThrowable (thrown : Throwable) : Run Unit := do
  let text ← stringToCharText thrown.message
  Run.report (.error text [])

/-- **The wrapper's handler.** `try { body } catch (Throwable *t) { ERROR_MESSAGE (...);
return sentinel; }` -/
def withHandler {α : Type} (sentinel : α) (body : Run α) : Run α :=
  catchThrowable body fun thrown => do
    reportThrowable thrown
    pure sentinel

/-- `std::string s = pat;`: the C++ library refuses a NULL pointer with a `std::logic_error`. -/
def cxxStringOf : Option CString → Run CString
  | none => ⟨[], .unwinds (.cxx "std::logic_error")⟩
  | some bytes => pure bytes

/-- The codes `JTSGeomTypeId` returns, `POINTTYPE` to `COLLECTIONTYPE`. -/
def pointType : Int := 1
def lineType : Int := 2
def polygonType : Int := 3
def multiPointType : Int := 4
def multiLineType : Int := 5
def multiPolygonType : Int := 6
def collectionType : Int := 7

/-- The `strcmp` chain of `JTSGeomTypeId`, in the source's order. -/
def typeNames : List (String × Int) :=
  [("Point", pointType), ("Polygon", polygonType), ("LineString", lineType),
    ("LinearRing", lineType), ("MultiLineString", multiLineType),
    ("MultiPoint", multiPointType), ("MultiPolygon", multiPolygonType),
    ("GeometryCollection", collectionType)]

/-- The code of the first name in the chain equal to `type`. -/
def typeIdOf (type : CString) : Option Int :=
  (typeNames.find? fun entry => cString entry.1 = type).map Prod.snd

/-- `size_t`, 64 bits wide on the LP64 targets. -/
abbrev SizeT := BitVec 64

/-- `JvGetArrayLength`: an array's length as a `jsize`. -/
def jvGetArrayLength (array : JByteArray) : BitVec 32 := BitVec.ofNat 32 array.bytes.length

/-- The implicit conversion of a `size_t` argument to a `jsize` parameter: its low 32 bits. -/
def sizeToJsize (size : SizeT) : BitVec 32 := size.setWidth 32

theorem toNat_lt_of_toInt_nonneg {x : BitVec 32} (nonneg : ¬ x.toInt < 0) : x.toNat < 2 ^ 31 := by
  rw [BitVec.toInt_eq_toNat_cond] at nonneg
  split at nonneg <;> omega

/-- `JvNewByteArray (length)`: a zeroed array, or `NegativeArraySizeException` for a
negative length. -/
def jvNewByteArray (length : BitVec 32) : Run JByteArray :=
  if negative : length.toInt < 0 then Run.throwJava negativeArraySizeException
  else pure ⟨List.replicate length.toNat 0, by
    rw [List.length_replicate]; exact toNat_lt_of_toInt_nonneg negative⟩

/-- `memcpy (elements (array), wkb, size)`: the caller's first `size` bytes over the array's.
Copying past the end of the array, or of the caller's buffer, is undefined behaviour. -/
def memcpyInto (array : JByteArray) (wkb : List Byte) (size : SizeT) : Run JByteArray :=
  if fits : size.toNat ≤ array.bytes.length ∧ size.toNat ≤ wkb.length then
    pure ⟨wkb.take size.toNat ++ array.bytes.drop size.toNat, by
      have := array.length_lt
      simp only [List.length_append, List.length_take, List.length_drop]
      omega⟩
  else Run.undefinedBehaviour

section

variable {Coord : Type} (engine : Engine Coord)

/-- The binary predicates: `g1->op (g2)` as 0 or 1, and 2 once the error is reported. -/
def binaryPredicate (op : Geometry Coord → Handle Coord → Except Throwable Bool)
    (g1 g2 : Handle Coord) : Run Byte :=
  withHandler 2 do
    let result ← invoke g1 (op · g2)
    pure (charOfBool result)

/-- The unary predicates: `g1->op ()` as 0 or 1, and 2 once the error is reported. -/
def unaryPredicate (op : Geometry Coord → Except Throwable Bool) (g1 : Handle Coord) : Run Byte :=
  withHandler 2 do
    let result ← invoke g1 op
    pure (charOfBool result)

def jtsDisjoint (g1 g2 : Handle Coord) : Run Byte := binaryPredicate engine.disjoint g1 g2
def jtsTouches (g1 g2 : Handle Coord) : Run Byte := binaryPredicate engine.touches g1 g2
def jtsIntersects (g1 g2 : Handle Coord) : Run Byte := binaryPredicate engine.intersects g1 g2
def jtsCrosses (g1 g2 : Handle Coord) : Run Byte := binaryPredicate engine.crosses g1 g2
def jtsWithin (g1 g2 : Handle Coord) : Run Byte := binaryPredicate engine.within g1 g2
def jtsContains (g1 g2 : Handle Coord) : Run Byte := binaryPredicate engine.contains g1 g2
def jtsOverlaps (g1 g2 : Handle Coord) : Run Byte := binaryPredicate engine.overlaps g1 g2
def jtsEquals (g1 g2 : Handle Coord) : Run Byte := binaryPredicate engine.equals g1 g2

/-- `JTSRelatePattern`: the pattern copied into a `std::string` first, then
`g1->relate (g2, JvNewStringLatin1 (pat))`. -/
def jtsRelatePattern (g1 g2 : Handle Coord) (pat : Option CString) : Run Byte :=
  withHandler 2 do
    let bytes ← cxxStringOf pat
    let result ← invoke g1 fun g => engine.relatePattern g g2 (jvNewStringLatin1 bytes)
    pure (charOfBool result)

/-- `JTSRelate`: the text of `g1->relate (g2)`, NULL for a NULL matrix. -/
def jtsRelate (g1 g2 : Handle Coord) : Run (Option CString) :=
  withHandler none do
    let matrix ← invoke g1 (engine.relate · g2)
    match matrix with
    | none => pure none
    | some im =>
        let text ← stringToCharText (some im.toString)
        pure (some text)

def jtsIsValid (g1 : Handle Coord) : Run Byte := unaryPredicate engine.isValid g1
def jtsIsEmpty (g1 : Handle Coord) : Run Byte := unaryPredicate engine.isEmpty g1
def jtsIsSimple (g1 : Handle Coord) : Run Byte := unaryPredicate engine.isSimple g1

/-- `JTSGeomTypeId`, which has no handler: the type name through `StringToChar`, then the
`strcmp` chain; an unknown name is reported with an explicit `%s` and gives -1. -/
def jtsGeomTypeId (g1 : Handle Coord) : Run Int := do
  let name ← invoke g1 fun g => .ok g.getGeometryType
  let type ← stringToCharText (some name)
  match typeIdOf type with
  | some id => pure id
  | none =>
      Run.report (.error (cString "JTSGeomTypeId: unknown geometry type: %s") [type])
      pure (-1)

/-- `JTSisRing`: `isRing ()` through a `LineString` cast when the type code is `LINETYPE`,
0 otherwise. -/
def jtsIsRing (g1 : Handle Coord) : Run Byte :=
  withHandler 2 do
    let type ← jtsGeomTypeId g1
    if type = lineType then
      let ring ← castCall Geometry.asLineString g1 engine.isRing
      pure (charOfBool ring)
    else pure 0

/-- `JTSGeomType`: the type name through `StringToChar`. -/
def jtsGeomType (g1 : Handle Coord) : Run (Option CString) :=
  withHandler none do
    let name ← invoke g1 fun g => .ok g.getGeometryType
    let text ← stringToCharText (some name)
    pure (some text)

def jtsIntersection (g1 g2 : Handle Coord) : Run (Handle Coord) :=
  withHandler none (invoke g1 (engine.intersection · g2))
def jtsBuffer (g1 : Handle Coord) (width : Float) (quadrantSegments : Int) : Run (Handle Coord) :=
  withHandler none (invoke g1 (engine.buffer · width quadrantSegments))
def jtsConvexHull (g1 : Handle Coord) : Run (Handle Coord) :=
  withHandler none (invoke g1 engine.convexHull)
def jtsDifference (g1 g2 : Handle Coord) : Run (Handle Coord) :=
  withHandler none (invoke g1 (engine.difference · g2))
def jtsBoundary (g1 : Handle Coord) : Run (Handle Coord) :=
  withHandler none (invoke g1 engine.getBoundary)
def jtsSymDifference (g1 g2 : Handle Coord) : Run (Handle Coord) :=
  withHandler none (invoke g1 (engine.symDifference · g2))
def jtsUnion (g1 g2 : Handle Coord) : Run (Handle Coord) :=
  withHandler none (invoke g1 (engine.union · g2))
def jtsPointOnSurface (g1 : Handle Coord) : Run (Handle Coord) :=
  withHandler none (invoke g1 engine.getInteriorPoint)
def jtsGetCentroid (g : Handle Coord) : Run (Handle Coord) :=
  withHandler none (invoke g engine.getCentroid)

/-- `JTSSetSRID`, which has no handler: the geometry the handle points to afterwards. -/
def jtsSetSRID (g : Handle Coord) (srid : Int) : Run (Geometry Coord) :=
  invoke g fun g => .ok (g.setSRID srid)

def jtsGetNumCoordinate (g1 : Handle Coord) : Run Int :=
  withHandler 0 (invoke g1 engine.getNumPoints)

/-- `JTSGetNumInteriorRings`: `((Polygon *) g1)->getNumInteriorRing ()`. -/
def jtsGetNumInteriorRings (g1 : Handle Coord) : Run Int :=
  withHandler 0 (castCall Geometry.asPolygon g1 fun (_, holes) => .ok holes.length)

/-- `JTSGetNumGeometries`: `((GeometryCollection *) g1)->getNumGeometries ()`. -/
def jtsGetNumGeometries (g1 : Handle Coord) : Run Int :=
  withHandler 0 (castCall Geometry.asCollection g1 fun members => .ok members.length)

/-- `JTSGetGeometryN`: `((GeometryCollection *) g1)->getGeometryN (n)`, that is
`geometries[n]`. -/
def jtsGetGeometryN (g1 : Handle Coord) (n : BitVec 32) : Run (Handle Coord) :=
  withHandler none (castCall Geometry.asCollection g1 fun members =>
    some <$> arrayGet members n.toInt)

/-- `JTSGetExteriorRing`: `((Polygon *) g1)->getExteriorRing ()`. -/
def jtsGetExteriorRing (g1 : Handle Coord) : Run (Handle Coord) :=
  withHandler none (castCall Geometry.asPolygon g1 fun (shell, _) => .ok (some shell.toGeometry))

/-- `JTSGetInteriorRingN`: `((Polygon *) g1)->getInteriorRingN (n)`, that is `holes[n]`. -/
def jtsGetInteriorRingN (g1 : Handle Coord) (n : BitVec 32) : Run (Handle Coord) :=
  withHandler none (castCall Geometry.asPolygon g1 fun (_, holes) =>
    (some ·.toGeometry) <$> arrayGet holes n.toInt)

/-- `JTSPolygonize`: reported as unimplemented, NULL. -/
def jtsPolygonize (_geoms : List (Handle Coord)) : Run (Handle Coord) := do
  Run.report (.error (cString "JTS polygonize unimplemented") [])
  pure none

def jtsGetSRID (g1 : Handle Coord) : Run Int :=
  withHandler 0 (invoke g1 fun g => .ok g.getSRID)

/-- `JTSversion`, which has no handler: "UNDEFINED" without a version object. -/
def jtsVersion : Run CString :=
  match engine.version with
  | none => pure (cString "UNDEFINED")
  | some text => stringToCharText (some text)

/-- `JTSHasZ`: always false. -/
def jtsHasZ (_g : Handle Coord) : Run Bool := pure false

/-- `JTSGeomToWKT`: a notice, then the WKT text through `StringToChar`. -/
def jtsGeomToWKT (g1 : Handle Coord) : Run (Option CString) :=
  withHandler none do
    Run.report (.notice (cString "JTSGeomToWKT called") [])
    let wkt ← invoke g1 engine.toString
    let text ← stringToCharText (some wkt)
    pure (some text)

/-- `JTSGeomToWKB`: a notice, then the array `w->write (g1)` returns, with `*size` set to
`JvGetArrayLength` converted to `size_t`. The handle is the writer's argument, not the object
of a call, so a NULL one goes to the writer. -/
def jtsGeomToWKB (g1 : Handle Coord) : Run (Option (List Byte × SizeT)) :=
  withHandler none do
    Run.report (.notice (cString "JTSasWKB called") [])
    let wkb ← Run.ofJava (engine.writeWKB g1)
    pure (some (wkb.bytes, (jvGetArrayLength wkb).signExtend 64))

/-- `JTSGeomFromWKT`: a notice, then `WKTReader.read` on the text widened by
`JvNewStringLatin1`. -/
def jtsGeomFromWKT (wkt : CString) : Run (Handle Coord) :=
  withHandler none do
    Run.report (.notice (cString "JTSGeomFromWKT called") [])
    Run.ofJava (engine.readWKT (jvNewStringLatin1 wkt))

/-- `JTSGeomFromWKB`: a notice, a Java array of `size` elements (after the conversion to
`jsize`), the caller's bytes copied into it, and `WKBReader.read` on it. -/
def jtsGeomFromWKB (wkb : List Byte) (size : SizeT) : Run (Handle Coord) :=
  withHandler none do
    Run.report (.notice (cString "JTSGeomFromWKB called") [])
    let array ← jvNewByteArray (sizeToJsize size)
    let filled ← memcpyInto array wkb size
    Run.ofJava (engine.readWKB filled)

end

end JtsC
