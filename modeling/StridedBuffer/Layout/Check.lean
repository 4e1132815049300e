import StridedBuffer.Layout.Shape

/-! # Checking a layout against a storage

A layout (extents, byte strides and an item size) fits a storage of `L` bytes when
every element it reaches lies inside the storage. The check walks the dimensions and
tracks the lowest and highest byte offsets reached, stopping as soon as either leaves
`[-L, L]`. A layout with an extent of zero reaches no byte and always fits.

All arithmetic is on signed words, as in the source. Every product and sum is guarded
before it is formed: the element count by a quotient, a dimension's span by
`L / (extent - 1)`, and the running offsets by `±L`.
-/

namespace StridedBuffer.Layout

/-- The smallest signed word. -/
def minWord : Int := -Nat.pow 2 63

/-- The largest signed word. -/
def maxWord : Int := Nat.pow 2 63 - 1

/-- The lowest and highest offsets reached after the given dimensions, or why the walk
stopped. `i` is the index of the first dimension in the list. -/
def reach (limit : Int64) (i : Nat) : List (Int64 × Int64) → Int64 → Int64 →
    Except String (Int64 × Int64)
  | [], lo, hi => .ok (lo, hi)
  | (dim, stride) :: rest, lo, hi =>
      let n := dim - 1
      if n = 0 ∨ stride = 0 then reach limit (i + 1) rest lo hi
      else if stride = Int64.minValue then
        .error ("stride " ++ toString stride.toInt ++ " at dimension " ++ toString i ++
          " is out of range")
      else
        let mag := if stride < 0 then -stride else stride
        if mag > limit / n then
          .error ("dimension " ++ toString i ++ " spans more than " ++ toString limit.toInt ++
            " bytes")
        else if stride < 0 then
          let lo := lo - n * mag
          if lo < -limit then .error ("negative strides reach byte offset " ++ toString lo.toInt)
          else reach limit (i + 1) rest lo hi
        else
          let hi := hi + n * mag
          if hi > limit then .error ("strides reach byte offset " ++ toString hi.toInt)
          else reach limit (i + 1) rest lo hi

/-- Whether `n` times the extents stays within a word, tested before each product by
comparing `n` with the largest word divided by the next extent. The extents are positive
here. -/
def countFits (n : Int64) : List Int64 → Bool
  | [] => true
  | d :: rest => if n > Int64.maxValue / d then false else countFits (n * d) rest

/-- Why a layout does not fit a storage of `storageLen` bytes, if it does not. -/
def problem (shape strides : List Int64) (itemSize storageLen : Nat) : Option String :=
  let size := Int64.ofNat itemSize
  let limit := Int64.ofNat storageLen
  if shape.length ≠ strides.length then
    some ("rank mismatch: " ++ toString shape.length ++ " extents, " ++ toString strides.length ++
      " strides")
  else match Shape.problem shape with
  | some p => some p
  | none =>
      if shape.any (· == 0) then none
      else if !countFits size shape then some "element count overflows"
      else match reach limit 0 (shape.zip strides) 0 0 with
        | .error p => some p
        | .ok (lo, hi) =>
            if lo < 0 then some ("negative strides reach byte offset " ++ toString lo.toInt)
            else if hi > limit - size then
              some ("last element ends at byte " ++ toString (hi + size).toInt)
            else none

/-- The byte offset of an element, or why the indices do not name one. -/
def offset (shape strides indices : List Int64) : Except String Int64 :=
  if indices.length ≠ shape.length then
    .error ("expected " ++ toString shape.length ++ " indices, got " ++ toString indices.length)
  else
    let rec go (i : Nat) (acc : Int64) : List (Int64 × Int64 × Int64) → Except String Int64
      | [] => .ok acc
      | (idx, dim, stride) :: rest =>
          if idx < 0 ∨ idx ≥ dim then
            .error ("index " ++ toString idx.toInt ++ " out of bounds for dimension " ++
              toString i ++ " (size " ++ toString dim.toInt ++ ")")
          else go (i + 1) (acc + idx * stride) rest
    go 0 0 (indices.zip (shape.zip strides))

/-- All index tuples of extents in row-major order. -/
def indexTuples : List Int64 → List (List Int64)
  | [] => [[]]
  | d :: rest =>
      let tails := indexTuples rest
      (List.range d.toInt.toNat).flatMap fun i => tails.map fun t => (Int64.ofNat i) :: t

/-- All index tuples of a shape in row-major order; none when an extent is zero. -/
def rowMajorIndices (shape : List Int64) : List (List Int64) :=
  if shape.any (· ≤ 0) then [] else indexTuples shape

end StridedBuffer.Layout
