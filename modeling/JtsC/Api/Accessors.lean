import JtsC.Api.Boundary

/-! # The polygon and collection accessors

`JTSGetNumInteriorRings`, `JTSGetExteriorRing` and `JTSGetInteriorRingN` cast their handle to
`Polygon *`, and `JTSGetNumGeometries` and `JTSGetGeometryN` cast it to
`GeometryCollection *`, with no check: the source documents them as "call only on polygon"
and "only call on GCs". On an instance of the class cast to, each does what its JTS member
does; an index outside the array raises `ArrayIndexOutOfBoundsException`, whose message (the
index in decimal) always converts, so the handler reports it and returns NULL
(`JtsC.elementAt`, `JtsC.withHandler_map_arrayGet`). On any other geometry the cast is
undefined behaviour, so that no sentinel comes back (`JtsC.accessors_of_variant`,
`JtsC.jtsGetNumInteriorRings_point`).
-/

namespace JtsC

/-- The decimal text of a C `int` has at most eleven characters, the sign included. -/
theorem length_toString_toInt_le (n : BitVec 32) : (toString n.toInt).length ≤ 11 := by
  have small : n.toInt.natAbs < 10 ^ 10 := by
    have := n.isLt
    rw [BitVec.toInt_eq_toNat_cond]
    split <;> omega
  rcases toInt : n.toInt with m | m <;> rw [toInt] at small
  · exact (Nat.repr_length m 10 (by decide) small).trans (by decide)
  · show ("-" ++ Nat.repr (m + 1)).length ≤ 11
    have := Nat.repr_length (m + 1) 10 (by decide) small
    rw [String.length_append, show "-".length = 1 from rfl]
    omega

/-- The message of an index error converts: it is far below `StringToChar`'s limit. -/
theorem utfLength_indexMessage_lt (n : BitVec 32) :
    utfLength (asciiString (toString n.toInt)) < 2 ^ 31 := by
  have short : (asciiString (toString n.toInt)).length ≤ 11 := by
    rw [asciiString, List.length_map]
    exact length_toString_toInt_le n
  have := utfLength_le (asciiString (toString n.toInt))
  omega

variable {Coord α : Type}

/-- The report the handler makes of an `ArrayIndexOutOfBoundsException` for index `n`. -/
def indexReport (n : BitVec 32) : Report :=
  .error (encodeString (asciiString (toString n.toInt))) []

/-- **An element by index, as the accessors return it.** The `n`-th element when `0 ≤ n` is
below the length, and otherwise NULL after the report of the index. -/
def elementAt (xs : List (Geometry Coord)) (n : BitVec 32) : Run (Handle Coord) :=
  if inRange : 0 ≤ n.toInt ∧ n.toInt.toNat < xs.length then pure (some (xs.get ⟨_, inRange.2⟩))
  else ⟨[indexReport n], .returns none⟩

/-- Reading `xs[n]` under the handler, with the element then wrapped as a geometry. -/
theorem withHandler_map_arrayGet (xs : List α) (n : BitVec 32) (wrap : α → Geometry Coord) :
    withHandler none (Run.ofJava ((fun x => some (wrap x)) <$> arrayGet xs n.toInt)) =
      elementAt (xs.map wrap) n := by
  unfold arrayGet elementAt
  simp only [List.length_map]
  split_ifs with inRange
  · simp only [List.get_eq_getElem, List.getElem_map]
    rfl
  · exact withHandler_message none [] _ (utfLength_indexMessage_lt n)

@[simp] theorem withHandler_undefinedBehaviour (sentinel : α) :
    withHandler sentinel Run.undefinedBehaviour = Run.undefinedBehaviour := rfl

/-- A cast to a class the object is not an instance of, seen through its downcast, is
undefined behaviour. -/
theorem castCall_of_view_none {V : Type} {view : Geometry Coord → Option V} {g : Geometry Coord}
    (notInstance : view g = none) (member : V → Except Throwable α) :
    castCall view (some g) member = Run.undefinedBehaviour := by
  simp only [castCall, notInstance]

/-- **The accessors, variant by variant.** On a polygon the ring accessors return the shell,
the count of holes and the `n`-th hole; on a collection of any of the four classes the member
accessors return the count and the `n`-th member; an index outside the array gives NULL after
one report. On a geometry that is not an instance of the class cast to, the call is
undefined behaviour. -/
theorem accessors_of_variant (g : Geometry Coord) (n : BitVec 32) :
    (∀ srid shell holes, g = .polygon srid shell holes →
      jtsGetExteriorRing (some g) = pure (some shell.toGeometry) ∧
        jtsGetNumInteriorRings (some g) = pure holes.length ∧
        jtsGetInteriorRingN (some g) n = elementAt (holes.map Ring.toGeometry) n) ∧
      (∀ cls srid members, g = .collection cls srid members →
        jtsGetNumGeometries (some g) = pure members.length ∧
          jtsGetGeometryN (some g) n = elementAt members n) ∧
      (¬ g.geometryClass.IsInstanceOf .polygon →
        jtsGetExteriorRing (some g) = Run.undefinedBehaviour ∧
          jtsGetNumInteriorRings (some g) = Run.undefinedBehaviour ∧
          jtsGetInteriorRingN (some g) n = Run.undefinedBehaviour) ∧
      (¬ g.geometryClass.IsInstanceOf .geometryCollection →
        jtsGetNumGeometries (some g) = Run.undefinedBehaviour ∧
          jtsGetGeometryN (some g) n = Run.undefinedBehaviour) := by
  refine ⟨?polygon, ?collection, fun notPolygon => ?other, fun notCollection => ?otherMembers⟩
  case polygon =>
    rintro srid shell holes rfl
    exact ⟨rfl, rfl, withHandler_map_arrayGet holes n Ring.toGeometry⟩
  case collection =>
    rintro cls srid members rfl
    exact ⟨rfl, (withHandler_map_arrayGet members n id).trans (by rw [List.map_id])⟩
  case other =>
    have none : g.asPolygon = none :=
      Option.not_isSome_iff_eq_none.mp (mt (Geometry.asPolygon_isSome_iff g).mp notPolygon)
    simp only [jtsGetExteriorRing, jtsGetNumInteriorRings, jtsGetInteriorRingN,
      castCall_of_view_none none, withHandler_undefinedBehaviour, and_self]
  case otherMembers =>
    have none : g.asCollection = none :=
      Option.not_isSome_iff_eq_none.mp (mt (Geometry.asCollection_isSome_iff g).mp notCollection)
    simp only [jtsGetNumGeometries, jtsGetGeometryN, castCall_of_view_none none,
      withHandler_undefinedBehaviour, and_self]

/-- A point is not a polygon, and `JTSGetNumInteriorRings` on it does not return the 0
sentinel: its behaviour is undefined. -/
theorem jtsGetNumInteriorRings_point :
    ¬ ∀ g : Geometry Unit, ¬ g.geometryClass.IsInstanceOf .polygon →
      (jtsGetNumInteriorRings (some g)).outcome = .returns 0 := by
  intro sentinel
  nomatch sentinel (.point 0 none) (by decide)

end JtsC
