import JtsC.Runtime.StringToChar

/-! # The JTS objects behind a handle

A `JTSGeom` handle is a pointer to a JTS `Geometry`, or NULL when a call failed
(`JtsC.Handle`). The wrapper reads a geometry's own fields only through the accessors of its
class: the type name, the SRID, a polygon's rings and a collection's members
(`JtsC.Geometry`). What the wrapper calls on them beyond that, from the predicates to the
WKT and WKB codecs, it delegates whole to JTS; `JtsC.Engine` takes each of those calls as
given, result or thrown exception, so that what is proved about the wrapper holds for every
behaviour of the library.

The classes form JTS's hierarchy: `LinearRing` extends `LineString`, and the three `Multi*`
classes extend `GeometryCollection` (`JtsC.GeometryClass.IsInstanceOf`). The downcasts the
wrapper writes as C-style casts are `JtsC.Geometry.asLineString`, `JtsC.Geometry.asPolygon`
and `JtsC.Geometry.asCollection`; each succeeds exactly on the instances of its class
(`JtsC.Geometry.asPolygon_isSome_iff` and its siblings).
-/

namespace JtsC

/-- The concrete JTS geometry classes. -/
inductive GeometryClass
  | point | lineString | linearRing | polygon
  | multiPoint | multiLineString | multiPolygon | geometryCollection
  deriving DecidableEq, Repr

namespace GeometryClass

/-- The direct superclass below `Geometry`, where there is one. -/
@[simp] def superclass : GeometryClass → Option GeometryClass
  | linearRing => some lineString
  | multiPoint | multiLineString | multiPolygon => some geometryCollection
  | _ => none

/-- Java's `instanceof` between the concrete classes. -/
@[simp] def IsInstanceOf (c target : GeometryClass) : Prop := c = target ∨ c.superclass = some target

instance (c target : GeometryClass) : Decidable (c.IsInstanceOf target) :=
  inferInstanceAs (Decidable (_ ∨ _))

end GeometryClass

/-- The collection classes, which share `GeometryCollection`'s members. -/
inductive CollectionClass
  | multiPoint | multiLineString | multiPolygon | geometryCollection
  deriving DecidableEq, Repr

/-- The class object of each collection class. -/
@[simp] def CollectionClass.geometryClass : CollectionClass → GeometryClass
  | .multiPoint => .multiPoint
  | .multiLineString => .multiLineString
  | .multiPolygon => .multiPolygon
  | .geometryCollection => .geometryCollection

variable {Coord : Type}

/-- A `LinearRing` held by a polygon: its SRID and its points. -/
structure Ring (Coord : Type) where
  srid : Int
  points : List Coord
  deriving DecidableEq, Repr

/-- **A JTS geometry object.** Every variant carries its SRID; coordinates are left abstract,
since the wrapper never reads one. -/
inductive Geometry (Coord : Type)
  | point (srid : Int) (coordinate : Option Coord)
  | lineString (srid : Int) (points : List Coord)
  | linearRing (srid : Int) (points : List Coord)
  | polygon (srid : Int) (shell : Ring Coord) (holes : List (Ring Coord))
  | collection (cls : CollectionClass) (srid : Int) (members : List (Geometry Coord))
  deriving Repr

/-- A `JTSGeom`: a geometry, or NULL. -/
abbrev Handle (Coord : Type) := Option (Geometry Coord)

/-- A ring as the `LinearRing` object a polygon returns. -/
def Ring.toGeometry (ring : Ring Coord) : Geometry Coord := .linearRing ring.srid ring.points

namespace Geometry

/-- The class of the object. -/
@[simp] def geometryClass : Geometry Coord → GeometryClass
  | point .. => .point
  | lineString .. => .lineString
  | linearRing .. => .linearRing
  | polygon .. => .polygon
  | collection cls .. => cls.geometryClass

/-- Modelled from the spec: `getGeometryType ()`, the name of the object's class. -/
def getGeometryType (g : Geometry Coord) : JString :=
  asciiString <| match g.geometryClass with
    | .point => "Point"
    | .lineString => "LineString"
    | .linearRing => "LinearRing"
    | .polygon => "Polygon"
    | .multiPoint => "MultiPoint"
    | .multiLineString => "MultiLineString"
    | .multiPolygon => "MultiPolygon"
    | .geometryCollection => "GeometryCollection"

/-- Modelled from the spec: `getSRID ()`. -/
def getSRID : Geometry Coord → Int
  | point srid _ | lineString srid _ | linearRing srid _ | polygon srid _ _
  | collection _ srid _ => srid

/-- Modelled from the spec: `setSRID (SRID)` rewrites the SRID and nothing else. -/
def setSRID (g : Geometry Coord) (srid : Int) : Geometry Coord :=
  match g with
  | point _ c => point srid c
  | lineString _ ps => lineString srid ps
  | linearRing _ ps => linearRing srid ps
  | polygon _ shell holes => polygon srid shell holes
  | collection cls _ members => collection cls srid members

/-- `(LineString *) g`: the object itself when it is a `LineString` or a `LinearRing`. -/
def asLineString : Geometry Coord → Option (Geometry Coord)
  | g@(lineString ..) | g@(linearRing ..) => some g
  | _ => none

/-- `(Polygon *) g`: the shell and the holes of a polygon. -/
def asPolygon : Geometry Coord → Option (Ring Coord × List (Ring Coord))
  | polygon _ shell holes => some (shell, holes)
  | _ => none

/-- `(GeometryCollection *) g`: the members of a collection of any of the four classes. -/
def asCollection : Geometry Coord → Option (List (Geometry Coord))
  | collection _ _ members => some members
  | _ => none

theorem asLineString_isSome_iff (g : Geometry Coord) :
    g.asLineString.isSome ↔ g.geometryClass.IsInstanceOf .lineString := by
  rcases g with _ | _ | _ | _ | ⟨cls⟩ <;> (try cases cls) <;> simp [asLineString]

theorem asPolygon_isSome_iff (g : Geometry Coord) :
    g.asPolygon.isSome ↔ g.geometryClass.IsInstanceOf .polygon := by
  rcases g with _ | _ | _ | _ | ⟨cls⟩ <;> (try cases cls) <;> simp [asPolygon]

theorem asCollection_isSome_iff (g : Geometry Coord) :
    g.asCollection.isSome ↔ g.geometryClass.IsInstanceOf .geometryCollection := by
  rcases g with _ | _ | _ | _ | ⟨cls⟩ <;> (try cases cls) <;> simp [asCollection]

@[simp] theorem getSRID_setSRID (g : Geometry Coord) (srid : Int) : (g.setSRID srid).getSRID = srid := by
  cases g <;> rfl

@[simp] theorem geometryClass_setSRID (g : Geometry Coord) (srid : Int) :
    (g.setSRID srid).geometryClass = g.geometryClass := by
  cases g <;> rfl

end Geometry

/-- Modelled from the spec: a Java array access `a[n]`, which raises
`ArrayIndexOutOfBoundsException` for an index outside the array. -/
def arrayGet {α : Type} (a : List α) (n : Int) : Except Throwable α :=
  if h : 0 ≤ n ∧ n.toNat < a.length then .ok (a.get ⟨n.toNat, h.2⟩)
  else .error (arrayIndexOutOfBoundsException n)

/-- A Java `byte[]`: its length is a `jsize`, below 2^31. -/
@[ext] structure JByteArray where
  bytes : List Byte
  length_lt : bytes.length < 2 ^ 31

end JtsC
