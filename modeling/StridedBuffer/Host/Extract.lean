import StridedBuffer.Element.DataType
import StridedBuffer.Binary.Convert
import StridedBuffer.Fault

/-! # Host element containers

A host hands over elements in a container of one element type. Raw bytes fit any format
whose item size divides their length; a typed container fits only the formats of its own
type; integers of the host's word size are range-checked against the integer formats;
and double-precision floats fit every float format, rounded to it. Everything is stored
little-endian.
-/

namespace StridedBuffer

/-- The element containers a host can pass. Floats are given by their bit patterns. -/
inductive HostData where
  | bytes (b : ByteArray)
  | bools (xs : List Bool)
  | int8s (xs : List Int8)
  | int16s (xs : List Int16)
  | uint16s (xs : List UInt16)
  | int32s (xs : List Int32)
  | int64s (xs : List Int64)
  /-- Integers of the host's word size. -/
  | words (xs : List Int64)
  | float32s (xs : List UInt32)
  | float64s (xs : List UInt64)
  | uint32s (xs : List UInt32)
  | text (s : String)
  | nothing

namespace HostData

/-- The host's name for the container type. -/
def typeName : HostData → String
  | bytes _ => "[]uint8"
  | bools _ => "[]bool"
  | int8s _ => "[]int8"
  | int16s _ => "[]int16"
  | uint16s _ => "[]uint16"
  | int32s _ => "[]int32"
  | int64s _ => "[]int64"
  | words _ => "[]int"
  | float32s _ => "[]float32"
  | float64s _ => "[]float64"
  | uint32s _ => "[]uint32"
  | text _ => "string"
  | nothing => "<nil>"

end HostData

/-- The low `width` bytes of `n`, least significant first. -/
def littleEndianBytes (width n : Nat) : List UInt8 :=
  (List.range width).map fun i => UInt8.ofNat (n / Nat.pow 256 i)

/-- Words of one width laid out one after another. -/
def packWords (width : Nat) (xs : List Nat) : ByteArray :=
  ⟨(xs.flatMap (littleEndianBytes width)).toArray⟩

/-- A double rounded to a format given by its pattern. -/
def doubleTo (t : DataType) (x : UInt64) : Nat :=
  match t with
  | .float16 => (Binary.singleToHalf (Binary.doubleToSingle x)).toNat
  | .bfloat16 => (Binary.singleToBrain (Binary.doubleToSingle x)).toNat
  | .float32 => (Binary.doubleToSingle x).toNat
  | _ => x.toNat

/-- The range of values a host integer may take in an integer format. -/
def intRange? : DataType → Option (Int × Int)
  | .bool => some (0, 1)
  | .uint8 => some (0, 255)
  | .int8 => some (-128, 127)
  | .int16 => some (-32768, 32767)
  | .int32 => some (-2147483648, 2147483647)
  | .int64 => some (-9223372036854775808, 9223372036854775807)
  | _ => none

/-- Host integers checked against a format's range and stored in it. -/
def encodeWords (t : DataType) (fail : String → Fault) (xs : List Int64) : Outcome ByteArray :=
  match intRange? t with
  | none => .error (fail "integers cannot be stored as floating-point format")
  | some (lo, hi) =>
      match xs.zipIdx.find? (fun p => p.1.toInt < lo ∨ p.1.toInt > hi) with
      | some (v, i) =>
          .error (fail ("element " ++ toString i ++ " value " ++ toString v.toInt ++
            " out of range for " ++ t.name))
      | none => .ok (packWords t.size (xs.map fun v => v.toUInt64.toNat))

/-- The storage bytes of a container read as format `t`. -/
def extract (d : HostData) (t : DataType) : Outcome ByteArray :=
  let fail := fun (reason : String) => Fault.extraction d.typeName t.tagText reason
  let mismatch : Outcome ByteArray := .error (fail "type mismatch")
  match d with
  | .bytes b =>
      if b.size % t.size ≠ 0 then
        .error (fail (toString b.size ++ " bytes is not a multiple of item size " ++
          toString t.size))
      else .ok b
  | .bools xs =>
      if t = .bool then .ok (packWords 1 (xs.map fun b => if b then 1 else 0)) else mismatch
  | .int8s xs => if t = .int8 then .ok (packWords 1 (xs.map fun v => v.toUInt8.toNat)) else mismatch
  | .int16s xs =>
      if t = .int16 then .ok (packWords 2 (xs.map fun v => v.toUInt16.toNat)) else mismatch
  | .uint16s xs =>
      if t = .float16 ∨ t = .bfloat16 ∨ t = .int16 then .ok (packWords 2 (xs.map UInt16.toNat))
      else mismatch
  | .int32s xs =>
      if t = .int32 then .ok (packWords 4 (xs.map fun v => v.toUInt32.toNat)) else mismatch
  | .int64s xs =>
      if t = .int64 then .ok (packWords 8 (xs.map fun v => v.toUInt64.toNat)) else mismatch
  | .float32s xs => if t = .float32 then .ok (packWords 4 (xs.map UInt32.toNat)) else mismatch
  | .float64s xs =>
      if t.isFloat then .ok (packWords t.size (xs.map (doubleTo t))) else mismatch
  | .words xs => encodeWords t fail xs
  | .uint32s _ | .text _ | .nothing => .error (fail "unsupported element container")

end StridedBuffer
