import StridedBuffer.Report.Element
import StridedBuffer.View

/-! # Documents for views -/

namespace StridedBuffer.Report

/-- Signed words as a document. -/
def words (xs : List Int64) : Doc :=
  .list (xs.map fun x => .int x.toInt)

/-- The largest element count for which a view lists its elements. -/
def elementsShown : Int := 64

/-- A view's layout, state and text; a live view also gives its sizes and, when it has at
most `elementsShown` of them, its elements in row-major order. -/
def view (v : View) (s : Storage) : Outcome Doc := do
  let base : List (String × Doc) :=
    [("format", .text v.dtype.tagText), ("released", .bool v.released),
      ("shape", words v.shape), ("strides", words v.strides)]
  let str ← v.text s
  if v.released then return .record (base ++ [("string", .text str)])
  let sizes : List (String × Doc) :=
    [("byte_len", .int v.byteLen.toInt), ("contiguous", .bool v.isContiguous),
      ("ndim", .int v.ndim), ("num_elements", .int v.numElements.toInt), ("string", .text str)]
  if v.numElements.toInt ≤ elementsShown then
    let els ← v.elements s
    return .record (base ++ sizes ++ [("elements", .list (els.map value))])
  return .record (base ++ sizes)

/-- A value or the failure of reading it. -/
def valueOr (r : Outcome Value) : Doc :=
  match r with
  | .ok v => value v
  | .error f => fault f

end StridedBuffer.Report
