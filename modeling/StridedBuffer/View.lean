import StridedBuffer.Storage
import StridedBuffer.Layout.Check
import StridedBuffer.Element.Value

/-! # Strided views

A view reads a storage as elements of one type, laid out by extents and byte strides.
It holds one reference to its storage from its creation to its release. Creating a
view checks the layout against the storage first and takes the reference last, so a
failed creation leaves the storage untouched.

Views name their storage by a number, and the operations that read bytes are given the
storage itself.
-/

namespace StridedBuffer

/-- A typed, shaped and strided window onto a storage. -/
structure View where
  storage : Nat
  shape : Shape
  strides : List Int64
  dtype : DataType
  released : Bool
  deriving Repr

/-- The number of elements shown by a view's text. -/
def defaultPreview : Int := 10

namespace View

/-- The byte size of one element. -/
def itemSize (v : View) : Nat := v.dtype.size

/-- The number of dimensions. -/
def ndim (v : View) : Nat := v.shape.length

/-- The number of elements. -/
def numElements (v : View) : Int64 := v.shape.numElements

/-- The logical extent in bytes. -/
def byteLen (v : View) : Int64 := v.numElements * Int64.ofNat v.itemSize

/-- Whether the strides are row-major. -/
def isContiguous (v : View) : Bool :=
  v.shape.isContiguous v.strides (Int64.ofNat v.itemSize)

/-- The layout failure of a shape and strides over a storage, if any. -/
def layoutFault (shape strides : List Int64) (itemSize storageLen : Nat) : Option Fault :=
  (Layout.problem shape strides itemSize storageLen).map fun reason =>
    .shape shape strides (Int64.ofNat itemSize) (Int64.ofNat storageLen) reason

end View

/-- A new view over storage `id`, with the storage after the view's reference is taken.
A missing storage, a code that names no type and a layout that does not fit fail in
that order; a released storage stops with a panic once the layout has passed. -/
def newView (target : Option (Nat × Storage)) (shape : Shape) (strides : List Int64)
    (code : Int) : Outcome (View × Storage) :=
  match target with
  | none => .error (.plain "new view: nil storage")
  | some (id, s) =>
      match DataType.ofCode? code with
      | none => .error (.plain ("new view: unknown data type " ++ toString code))
      | some t =>
          match View.layoutFault shape strides t.size s.len with
          | some f => .error (.context "new view" f)
          | none => do
              let s ← s.retain
              return (⟨id, shape, strides, t, false⟩, s)

/-- A new row-major view. -/
def newContiguous (target : Option (Nat × Storage)) (shape : Shape) (code : Int) :
    Outcome (View × Storage) :=
  match DataType.ofCode? code with
  | none => .error (.plain ("new view: unknown data type " ++ toString code))
  | some t => newView target shape (shape.contiguousStrides (Int64.ofNat t.size)) code

namespace View

/-- The byte offset of the element at the indices. -/
def offset (v : View) (indices : List Int64) : Outcome Int64 :=
  match Layout.offset v.shape v.strides indices with
  | .ok o => .ok o
  | .error e => .error (.plain e)

/-- The element at the indices. -/
def element (v : View) (s : Storage) (indices : List Int64) : Outcome Value := do
  if v.released then throw .released
  let o ← v.offset indices
  let data ← s.data
  if o < 0 ∨ o.toInt + v.itemSize > data.size then
    throw (.panic ("tensor: element at byte " ++ toString o.toInt ++ " outside storage of " ++
      toString data.size ++ " bytes"))
  return Value.read v.dtype data o.toInt.toNat

/-- Up to `limit` elements from the front of the storage, in storage order. -/
def head (v : View) (s : Storage) (limit : Int) : Outcome (List Value) := do
  if v.released then return []
  let data ← s.data
  return leadingValues v.dtype data limit

/-- The first `limit` elements as text. -/
def preview (v : View) (s : Storage) (limit : Int) : Outcome String := do
  return valuesText (← v.head s limit)

/-- A diagnostic summary with a short preview of the data. -/
def text (v : View) (s : Storage) : Outcome String := do
  let front := "View(shape=" ++ Text.spaced v.shape ++ ", strides=" ++ Text.spaced v.strides ++
    ", format=" ++ Text.Quoted.quote v.dtype.tagText
  if v.released then return front ++ ", released)"
  return front ++ ", data=" ++ (← v.preview s defaultPreview) ++ "...)"

/-- A new view of the same layout sharing the storage, with the storage after its new
reference. -/
def clone (v : View) (s : Storage) : Outcome (View × Storage) := do
  if v.released then throw (.panic "tensor: clone of released view")
  let s ← s.retain
  return ({ v with released := false }, s)

/-- The view after release, with its storage after the reference is dropped. Releasing
twice changes nothing. -/
def release (v : View) (s : Storage) : View × Storage × Option Fault :=
  if v.released then (v, s, none)
  else
    let r := s.release
    ({ v with released := true }, r.1, r.2)

/-- The view with a new layout, which must fit the storage. -/
def reshape (v : View) (s : Storage) (shape : Shape) (strides : List Int64) : Outcome View :=
  if v.released then .error .released
  else match layoutFault shape strides v.itemSize s.len with
    | some f => .error (.context "reshape" f)
    | none => .ok { v with shape := shape, strides := strides }

/-- All elements in row-major order. -/
def elements (v : View) (s : Storage) : Outcome (List Value) :=
  (Layout.rowMajorIndices v.shape).mapM (v.element s)

end View

end StridedBuffer
