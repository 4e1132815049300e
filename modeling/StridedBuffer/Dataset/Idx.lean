import StridedBuffer.View
import StridedBuffer.Text.Hex
import StridedBuffer.Parallel.Ranges

/-! # IDX files

An IDX file starts with two zero bytes, an element type byte and a rank byte, then one
big-endian 32-bit extent per dimension, then the elements in big-endian order. Extents
are checked one by one against the elements present, so no product can overflow; data
after the elements is ignored. The elements are stored in little-endian order.
-/

namespace StridedBuffer.Dataset

/-- The element type of an IDX type byte. -/
def idxType? (b : UInt8) : Option DataType :=
  if b = 0x08 then some .uint8
  else if b = 0x09 then some .int8
  else if b = 0x0B then some .int16
  else if b = 0x0C then some .int32
  else if b = 0x0D then some .float32
  else if b = 0x0E then some .float64
  else none

/-- The big-endian 32-bit word at `pos`. -/
def bigWord (bs : ByteArray) (pos : Nat) : Nat :=
  (List.range 4).foldl (fun acc i => acc * 256 + (bs[pos + i]?.getD 0).toNat) 0

/-- Checks the extents in order against the `available` elements, the count so far
being `count`; returns the element count or the failing prefix of the shape. -/
def checkExtents (available : Nat) : List Nat → Nat → List Nat → Except (List Nat) Nat
  | [], count, _ => .ok count
  | d :: rest, count, seen =>
      let seen := seen ++ [d]
      if d ≠ 0 ∧ count > available / d then .error seen
      else checkExtents available rest (count * d) seen

/-- Element `e` of `size` bytes with its bytes in reverse order, in place. -/
def reverseElement (size : Nat) (data : ByteArray) (e : Nat) : ByteArray :=
  data.extract 0 (e * size) ++ ⟨(data.extract (e * size) (e * size + size)).data.reverse⟩ ++
    data.extract (e * size + size) data.size

/-- The elements of the range `[lo, hi)`, each with its bytes in reverse order. -/
def reverseRange (size : Nat) (data : ByteArray) (r : Int64 × Int64) : ByteArray :=
  (Parallel.span r.1 r.2).foldl (fun acc e => reverseElement size acc e.toInt.toNat) data

/-- The processors the byte swap is split over. The bytes come out the same for every
split, so one count stands for the machine's. -/
def swapProcessors : Int64 := 4

/-- Every element of `size` bytes with its bytes in reverse order, in place, the elements
split into ranges as work is split by default. A split that never finishes leaves the
bytes as they were; below `2^62` elements every split finishes. -/
def swapElements (data : ByteArray) (size : Nat) : ByteArray :=
  if size ≤ 1 then data
  else match Parallel.ranges (Parallel.defaultConfig swapProcessors) (Int64.ofNat (data.size / size)) with
    | some rs => rs.foldl (reverseRange size) data
    | none => data

/-- A failure of IDX parsing. -/
def idxFault (detail : String) : Fault := .invalidIdx detail

/-- A row-major view over a new storage `id` holding the elements of an IDX file. -/
def parseIdx (data : ByteArray) (id : Nat) : Outcome (View × Storage) := do
  if data.size < 4 then
    throw (idxFault (toString data.size ++ " bytes is too short for a magic number"))
  if data[0]?.getD 0 ≠ 0 ∨ data[1]?.getD 0 ≠ 0 then
    throw (idxFault ("magic 0x" ++ Text.Hex.ofNatWidth 8 (bigWord data 0)))
  let code := data[2]?.getD 0
  let some t := idxType? code | throw (idxFault ("unknown element type 0x" ++ Text.Hex.ofByte code))
  let rank := (data[3]?.getD 0).toNat
  let headerLen := 4 + 4 * rank
  if data.size < headerLen then throw (idxFault ("truncated extents for rank " ++ toString rank))
  let bodyLen := data.size - headerLen
  let available := bodyLen / t.size
  let dims := (List.range rank).map fun i => bigWord data (4 + 4 * i)
  let count ← match checkExtents available dims 1 [] with
    | .ok c => pure c
    | .error seen =>
        throw (idxFault ("shape " ++ Text.bracketed " " (seen.map toString) ++
          " needs more than the " ++ toString available ++ " elements present"))
  let want := count * t.size
  if want > bodyLen then
    throw (.panic ("runtime error: slice bounds out of range [:" ++ toString want ++
      "] with capacity " ++ toString bodyLen))
  let body := swapElements (data.extract headerLen (headerLen + want)) t.size
  newContiguous (some (id, Storage.ofBytes body)) (dims.map Int64.ofNat) t.code

end StridedBuffer.Dataset
