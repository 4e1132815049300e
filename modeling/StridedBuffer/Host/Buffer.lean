import StridedBuffer.Host.Extract
import StridedBuffer.Element.Tag
import StridedBuffer.View

/-! # Host buffers

A host buffer owns one view. Building one parses the format, reads the host's elements
into a fresh storage, fills in row-major strides when none are given, and creates the
view: the first failure of these steps is the answer.
-/

namespace StridedBuffer

/-- A view over a fresh storage `id` holding the host's elements. -/
def construct (d : HostData) (shape : Shape) (strides : Option (List Int64))
    (format : List UInt8) (id : Nat) : Outcome (View × Storage) := do
  let t ← DataType.parseFormat format
  let raw ← extract d t
  let strides := strides.getD (shape.contiguousStrides (Int64.ofNat t.size))
  newView (some (id, Storage.ofBytes raw)) shape strides t.code

/-- The text of a buffer holding view `v`. -/
def bufferText (v : View) (s : Storage) : Outcome String := do
  if v.released then return "Buffer(released)"
  return "Buffer(shape=" ++ Text.spaced v.shape ++ ", strides=" ++ Text.spaced v.strides ++
    ", format=" ++ Text.Quoted.quote v.dtype.tagText ++ ", data=" ++
    (← v.preview s defaultPreview) ++ "...)"

end StridedBuffer
