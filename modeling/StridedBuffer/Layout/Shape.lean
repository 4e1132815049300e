/-! # Shapes

A shape lists the extents of a view, one per dimension, as signed machine words.
Products of extents wrap around like the words they are made of; a layout that passed
`checkLayout` never wraps.
-/

namespace StridedBuffer

/-- Extents, one per dimension. -/
abbrev Shape := List Int64

namespace Shape

/-- The number of elements: the product of the extents, `1` for the scalar shape. -/
def numElements (s : Shape) : Int64 :=
  s.foldl (· * ·) 1

/-- The first negative extent and its index, if any. -/
def firstNegative (s : Shape) : Option (Nat × Int64) :=
  (s.zipIdx.find? fun p => p.1 < 0).map fun p => (p.2, p.1)

/-- Why a shape is invalid, if it is. -/
def problem (s : Shape) : Option String :=
  s.firstNegative.map fun p =>
    "invalid dimension at index " ++ toString p.1 ++ ": " ++ toString p.2.toInt ++
      " (must be >= 0)"

/-- Row-major byte strides: each is `itemSize` times the extents after it. -/
def contiguousStrides (s : Shape) (itemSize : Int64) : List Int64 :=
  (s.foldr (fun d (acc : List Int64 × Int64) => (acc.2 :: acc.1, acc.2 * d)) ([], itemSize)).1

/-- Whether the strides are row-major, dimensions of extent at most one aside. -/
def isContiguous (s : Shape) (strides : List Int64) (itemSize : Int64) : Bool :=
  ((s.zip strides).zip (contiguousStrides s itemSize)).all fun p =>
    !(p.1.1 > 1 && p.1.2 != p.2)

theorem contiguousStrides_length (s : Shape) (itemSize : Int64) :
    (contiguousStrides s itemSize).length = s.length := by
  unfold contiguousStrides
  induction s with
  | nil => rfl
  | cons d rest ih => simp [List.foldr, ih]

end Shape

end StridedBuffer
