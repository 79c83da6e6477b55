import JtsC.Geometry.Model

/-! # The library calls the wrapper delegates to

`JtsC.Engine` is JTS as the wrapper sees it: for each method it calls, a result or a thrown
`Throwable`. The one result the wrapper looks into is the DE-9IM matrix of `relate`
(`JtsC.IntersectionMatrix`), which `JTSRelate` turns into text and `JTSRelatePattern` hands
back to JTS as a pattern. A matrix always matches its own text (`JtsC.matches_toString`).
-/

namespace JtsC

/-- Modelled from the spec: a cell of the matrix, the largest dimension of an intersection
(`F` for none, then point, curve, area). -/
inductive Dimension
  | F | P | L | A
  deriving DecidableEq, Repr

/-- The three locations of a geometry. -/
inductive Location
  | interior | boundary | exterior
  deriving DecidableEq, Repr

/-- Modelled from the spec: the `IntersectionMatrix` that `relate` computes. -/
structure IntersectionMatrix where
  cell : Location → Location → Dimension

/-- Modelled from the spec: `Dimension.toDimensionSymbol`. -/
def Dimension.symbol : Dimension → JChar
  | F => jchar 'F'
  | P => jchar '0'
  | L => jchar '1'
  | A => jchar '2'

/-- Modelled from the spec: whether a cell meets one symbol of a pattern: `*` anything, `T`
a non-empty intersection, `F` an empty one, a digit that dimension. -/
def Dimension.matchesSymbol (d : Dimension) (c : JChar) : Bool :=
  if c = jchar '*' then true
  else if c = jchar 'T' then d ≠ F
  else if c = jchar 'F' then d = F
  else if c = jchar '0' then d = P
  else if c = jchar '1' then d = L
  else if c = jchar '2' then d = A
  else false

namespace IntersectionMatrix

/-- The cells in row-major order, as `toString` and `matches` walk them. -/
def cells (im : IntersectionMatrix) : List Dimension :=
  [Location.interior, .boundary, .exterior].flatMap fun a =>
    [Location.interior, .boundary, .exterior].map (im.cell a)

/-- Modelled from the spec: `toString ()`, the nine symbols in row-major order. -/
def toString (im : IntersectionMatrix) : JString := im.cells.map Dimension.symbol

/-- Modelled from the spec: `matches (pattern)`, which refuses a pattern that is not nine
symbols long and otherwise tests every cell against its symbol. -/
def «matches» (im : IntersectionMatrix) (pattern : JString) : Except Throwable Bool :=
  if pattern.length = 9 then .ok ((im.cells.zip pattern).all fun (d, c) => d.matchesSymbol c)
  else .error ⟨"java.lang.IllegalArgumentException",
    some (asciiString "Should be length 9: " ++ pattern)⟩

theorem length_cells (im : IntersectionMatrix) : im.cells.length = 9 := rfl

theorem matchesSymbol_symbol (d : Dimension) : d.matchesSymbol d.symbol = true := by
  cases d <;> decide

theorem all_matchesSymbol_symbol (ds : List Dimension) :
    (ds.zip (ds.map Dimension.symbol)).all (fun (d, c) => d.matchesSymbol c) = true := by
  induction ds with
  | nil => rfl
  | cons d ds ih => simp only [List.map_cons, List.zip_cons_cons, List.all_cons,
      matchesSymbol_symbol, ih, Bool.and_self]

/-- A matrix matches its own text. -/
theorem matches_toString (im : IntersectionMatrix) : im.matches im.toString = .ok true := by
  have nine : (im.cells.map Dimension.symbol).length = 9 := by rw [List.length_map, length_cells]
  simp only [«matches», nine, ↓reduceIte, toString, all_matchesSymbol_symbol]

/-- The matrix text is made of U+0001..U+007F. -/
theorem toString_ascii (im : IntersectionMatrix) : ∀ ch ∈ im.toString, IsAsciiUnit ch := by
  intro ch mem
  obtain ⟨d, -, rfl⟩ := List.mem_map.mp mem
  cases d <;> decide

end IntersectionMatrix

variable {Coord : Type}

/-- **The JTS calls the wrapper makes**, each a result or a thrown `Throwable`: the binary
predicates, `relate`, the unary predicates, `LineString.isRing`, the overlays and the other
geometry-valued operations, `getNumPoints`, the WKT writer (`toString`) and reader, the WKB
writer and reader, and `JTSVersion.CURRENT_VERSION` (NULL or its text). The WKB writer is
handed the handle itself, as `w->write (g1)` is: what it does with NULL is its own. -/
structure Engine (Coord : Type) where
  (disjoint touches intersects crosses within contains overlaps equals :
    Geometry Coord → Handle Coord → Except Throwable Bool)
  relate : Geometry Coord → Handle Coord → Except Throwable (Option IntersectionMatrix)
  (isValid isEmpty isSimple isRing : Geometry Coord → Except Throwable Bool)
  (intersection difference symDifference union :
    Geometry Coord → Handle Coord → Except Throwable (Handle Coord))
  buffer : Geometry Coord → Float → Int → Except Throwable (Handle Coord)
  (convexHull getBoundary getInteriorPoint getCentroid :
    Geometry Coord → Except Throwable (Handle Coord))
  getNumPoints : Geometry Coord → Except Throwable Int
  toString : Geometry Coord → Except Throwable JString
  writeWKB : Handle Coord → Except Throwable JByteArray
  readWKT : JString → Except Throwable (Handle Coord)
  readWKB : JByteArray → Except Throwable (Handle Coord)
  version : Option JString
  deriving Inhabited

/-- Modelled from the spec: `relate (other, pattern)` tests the matrix `relate (other)`
computes against the pattern. -/
def Engine.relatePattern (engine : Engine Coord) (g : Geometry Coord) (other : Handle Coord)
    (pattern : JString) : Except Throwable Bool :=
  match engine.relate g other with
  | .ok (some im) => im.matches pattern
  | .ok none => .error nullPointerException
  | .error thrown => .error thrown

end JtsC
