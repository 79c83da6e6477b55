import JtsC.Api.Boundary

/-! # The type queries

`JTSGeomTypeId` converts the class name of its geometry with `StringToChar` and looks it up
with a chain of `strcmp`. Every class's name is in the chain, under the code the header
gives it (`JtsC.typeCode`, `JtsC.jtsGeomTypeId_some`), so the "unknown geometry type" report
never happens. `JTSisRing` casts to `LineString` only after that lookup says `LINETYPE`,
which is exactly the instances of `LineString` (`JtsC.typeCode_eq_lineType_iff`): unlike the
polygon and collection accessors, its cast is always defined (`JtsC.jtsIsRing_some`). These
are the steps `JtsC.exports_return` takes through the three functions.
-/

namespace JtsC

variable {Coord : Type}

/-- The code `JTSGeomTypeId` gives each class: `LINETYPE` for both line classes. -/
def typeCode : GeometryClass → Int
  | .point => pointType
  | .lineString | .linearRing => lineType
  | .polygon => polygonType
  | .multiPoint => multiPointType
  | .multiLineString => multiLineType
  | .multiPolygon => multiPolygonType
  | .geometryCollection => collectionType

theorem typeCode_eq_lineType_iff (c : GeometryClass) :
    typeCode c = lineType ↔ c.IsInstanceOf .lineString := by
  cases c <;> decide

theorem typeIdOf_getGeometryType (g : Geometry Coord) :
    utfLength g.getGeometryType < 2 ^ 31 ∧
      typeIdOf (encodeString g.getGeometryType) = some (typeCode g.geometryClass) := by
  unfold Geometry.getGeometryType
  cases g.geometryClass <;> decide

/-- `JTSGeomTypeId` finds every class's name in its chain, and reports nothing. -/
theorem jtsGeomTypeId_some (g : Geometry Coord) :
    jtsGeomTypeId (some g) = pure (typeCode g.geometryClass) := by
  obtain ⟨bounded, found⟩ := typeIdOf_getGeometryType g
  simp only [jtsGeomTypeId, invoke, Run.ofJava_ok, Run.pure_bind, stringToCharText_of_lt bounded,
    found]

/-- `JTSGeomType` returns the bytes of the class name. -/
theorem jtsGeomType_some (g : Geometry Coord) :
    jtsGeomType (some g) = pure (some (encodeString g.getGeometryType)) := by
  simp only [jtsGeomType, invoke, Run.ofJava_ok, Run.pure_bind,
    stringToCharText_of_lt (typeIdOf_getGeometryType g).1]
  rfl

theorem Geometry.asLineString_of_instance {g : Geometry Coord}
    (line : g.geometryClass.IsInstanceOf .lineString) : g.asLineString = some g := by
  rcases g with _ | _ | _ | _ | ⟨cls⟩ <;> (try cases cls) <;> simp_all [Geometry.asLineString]

variable (engine : Engine Coord)

/-- `JTSisRing` asks `isRing` of the line classes through a cast they satisfy, and answers 0
for the others. -/
theorem jtsIsRing_some (g : Geometry Coord) :
    jtsIsRing engine (some g) =
      if g.geometryClass.IsInstanceOf .lineString then
        withHandler 2 (Run.ofJava (engine.isRing g) >>= fun ring => pure (charOfBool ring))
      else pure 0 := by
  unfold jtsIsRing
  rw [jtsGeomTypeId_some, Run.pure_bind]
  by_cases line : g.geometryClass.IsInstanceOf .lineString
  · simp only [(typeCode_eq_lineType_iff _).mpr line, ↓reduceIte, line, castCall,
      Geometry.asLineString_of_instance line]
  · simp only [mt (typeCode_eq_lineType_iff _).mp line, ↓reduceIte, line]
    rfl

end JtsC
