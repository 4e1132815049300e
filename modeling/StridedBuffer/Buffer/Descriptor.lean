import StridedBuffer.Buffer.Flags
import StridedBuffer.View

/-! # Exported descriptors

Exporting a view hands a consumer its storage's memory with snapshots of the layout. The
descriptor pins the storage until it is released; releasing clears every field but the
item size and gives the pin back. A consumer that does not understand strides, or that
asks for row-major strides, gets a descriptor only for a row-major view.

A descriptor reads and writes the storage's bytes directly, released storage or not, so
long as it has not itself been released.
-/

namespace StridedBuffer

/-- A buffer-protocol descriptor of a view. -/
structure Descriptor where
  storage : Nat
  released : Bool
  len : Int64
  itemSize : Nat
  ndim : Nat
  shape : List Int64
  strides : List Int64
  flags : Flags
  dtype : DataType
  /-- Whether the storage was empty at export, so that no memory was handed over. -/
  empty : Bool

namespace Descriptor

/-- Whether the descriptor hands over no memory. -/
def bufNull (d : Descriptor) : Bool := d.released || d.empty

/-- The format tag, empty once released. -/
def formatText (d : Descriptor) : String := if d.released then "" else d.dtype.tagText

/-- The memory handed over: the whole storage, or none. -/
def window (d : Descriptor) (s : Storage) : Option ByteArray :=
  if d.bufNull then none else some s.bytes

/-- The byte offset of the element at the indices. -/
def offset (d : Descriptor) (indices : List Int64) : Outcome Int64 :=
  match Layout.offset (d.shape.take d.ndim) d.strides indices with
  | .ok o => .ok o
  | .error e => .error (.plain e)

/-- The descriptor after release, with the storage after its pin is given back. Releasing
twice changes nothing. -/
def release (d : Descriptor) (s : Storage) : Descriptor × Storage × Option Fault :=
  if d.released then (d, s, none)
  else
    let r := s.unpin
    ({ d with released := true, len := 0, ndim := 0, shape := [], strides := [] }, r.1, r.2)

end Descriptor

/-- A descriptor of view `v`, with the storage after its pin. -/
def exportView (v : View) (s : Storage) (flags : Flags) : Outcome (Descriptor × Storage) := do
  if v.released then throw (.context "export" .released)
  if flags.requiresContiguous && !v.isContiguous then
    throw (.context ("export shape " ++ Text.spaced v.shape ++ " strides " ++
      Text.spaced v.strides) .notContiguous)
  let s ← s.pin
  let d : Descriptor :=
    { storage := v.storage, released := false, len := v.byteLen, itemSize := v.itemSize
      ndim := v.ndim, shape := v.shape, strides := v.strides, flags := flags
      dtype := v.dtype, empty := s.len == 0 }
  return (d, s)

/-- Bytes written at an offset into a window, if they fit. -/
def writeWindow (w : ByteArray) (start : Nat) (bs : ByteArray) : Option ByteArray :=
  if start + bs.size ≤ w.size then some (bs.copySlice 0 w start bs.size) else none

end StridedBuffer
