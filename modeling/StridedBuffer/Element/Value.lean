import StridedBuffer.Element.DataType
import StridedBuffer.Binary.Convert
import StridedBuffer.Decimal.Notation
import StridedBuffer.Text.Hex
import StridedBuffer.Fault

/-! # Decoded elements

Elements are stored little-endian. The three narrow float types all decode to a
thirty-two-bit float: the sixteen-bit one exactly, the brain float by appending zero
bits. A value prints as its shortest round-trip decimal, in exponent form when the first
digit's exponent is below `-4` or at least `6`.
-/

namespace StridedBuffer

open Binary Decimal

/-- A decoded element. Floats keep their bit patterns. -/
inductive Value where
  | bool (b : Bool)
  | int8 (v : Int8)
  | int16 (v : Int16)
  | int32 (v : Int32)
  | int64 (v : Int64)
  | uint8 (v : UInt8)
  | float32 (bits : UInt32)
  | float64 (bits : UInt64)
  deriving DecidableEq, Repr, Inhabited

/-- The unsigned little-endian number in `n` bytes from `start`; bytes past the end read as
zero. -/
def littleEndian (bs : ByteArray) (start n : Nat) : Nat :=
  (List.range n).foldr (fun i acc => acc * 256 + (bs[start + i]?.getD 0).toNat) 0

namespace Value

/-- How a float value prints. -/
def floatNotation : Notation := ⟨-4, 6, 2, "NaN", "+Inf", "-Inf"⟩

/-- The name of the value's type. -/
def typeName : Value → String
  | bool _ => "bool"
  | int8 _ => "int8"
  | int16 _ => "int16"
  | int32 _ => "int32"
  | int64 _ => "int64"
  | uint8 _ => "uint8"
  | float32 _ => "float32"
  | float64 _ => "float64"

/-- The printed form. -/
def text : Value → String
  | bool b => if b then "true" else "false"
  | int8 v => toString v.toInt
  | int16 v => toString v.toInt
  | int32 v => toString v.toInt
  | int64 v => toString v.toInt
  | uint8 v => toString v.toNat
  | float32 b => floatNotation.render Format.single b.toNat
  | float64 b => floatNotation.render Format.double b.toNat

/-- The bit pattern of a float in lowercase hex. -/
def bits? : Value → Option String
  | float32 b => some (Text.Hex.ofNatWidth 8 b.toNat)
  | float64 b => some (Text.Hex.ofNatWidth 16 b.toNat)
  | _ => none

/-- The element of type `t` stored at byte `start`. -/
def read (t : DataType) (bs : ByteArray) (start : Nat) : Value :=
  let n := littleEndian bs start t.size
  match t with
  | .bool => bool (n != 0)
  | .int8 => int8 (UInt8.ofNat n).toInt8
  | .int16 => int16 (UInt16.ofNat n).toInt16
  | .int32 => int32 (UInt32.ofNat n).toInt32
  | .int64 => int64 (UInt64.ofNat n).toInt64
  | .uint8 => uint8 (UInt8.ofNat n)
  | .float16 => float32 (halfToSingle (UInt16.ofNat n))
  | .float32 => float32 (UInt32.ofNat n)
  | .float64 => float64 (UInt64.ofNat n)
  | .bfloat16 => float32 (brainToSingle (UInt16.ofNat n))

end Value

/-- Decodes the first element of `bs` as the type with code `code`. -/
def decodeElement (code : Int) (bs : ByteArray) : Outcome Value :=
  match DataType.ofCode? code with
  | none => .error (.plain ("decode: unknown data type " ++ toString code))
  | some t =>
      if bs.size < t.size then
        .error (.plain ("decode " ++ t.name ++ ": need " ++ toString t.size ++ " bytes, have " ++
          toString bs.size))
      else .ok (Value.read t bs 0)

/-- The first up to `limit` elements of `bs`, in storage order. -/
def leadingValues (t : DataType) (bs : ByteArray) (limit : Int) : List Value :=
  if limit ≤ 0 then []
  else
    let n := min limit.toNat (bs.size / t.size)
    (List.range n).map fun i => Value.read t bs (i * t.size)

/-- Values as `[a, b, c]`. -/
def valuesText (vs : List Value) : String :=
  Text.bracketed ", " (vs.map Value.text)

end StridedBuffer
