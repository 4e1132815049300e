/-! # Element types

Ten element encodings, each named by a one-character format tag. Outside the library an
element type travels as a signed code, and a code outside `0 … 9` names no type.
-/

namespace StridedBuffer

/-- The encodings of a single element. -/
inductive DataType where
  | bool
  | int8
  | int16
  | int32
  | int64
  | uint8
  | float16
  | float32
  | float64
  | bfloat16
  deriving DecidableEq, Repr, Inhabited

namespace DataType

/-- Every type, in code order. -/
def all : List DataType :=
  [bool, int8, int16, int32, int64, uint8, float16, float32, float64, bfloat16]

/-- The code of a type. -/
def code : DataType → Nat
  | bool => 0
  | int8 => 1
  | int16 => 2
  | int32 => 3
  | int64 => 4
  | uint8 => 5
  | float16 => 6
  | float32 => 7
  | float64 => 8
  | bfloat16 => 9

/-- The type with a given code, if any. -/
def ofCode? (c : Int) : Option DataType :=
  all.find? fun t => (t.code : Int) = c

/-- The number of bytes of one element. -/
def size : DataType → Nat
  | bool | int8 | uint8 => 1
  | int16 | float16 | bfloat16 => 2
  | int32 | float32 => 4
  | int64 | float64 => 8

/-- The format tag. -/
def tag : DataType → Char
  | bool => '?'
  | int8 => 'b'
  | int16 => 'h'
  | int32 => 'i'
  | int64 => 'q'
  | uint8 => 'B'
  | float16 => 'e'
  | float32 => 'f'
  | float64 => 'd'
  | bfloat16 => 'v'

/-- The human-readable name. -/
def name : DataType → String
  | bool => "bool"
  | int8 => "int8"
  | int16 => "int16"
  | int32 => "int32"
  | int64 => "int64"
  | uint8 => "uint8"
  | float16 => "float16"
  | float32 => "float32"
  | float64 => "float64"
  | bfloat16 => "bfloat16"

/-- Whether elements are floating-point numbers. -/
def isFloat : DataType → Bool
  | float16 | float32 | float64 | bfloat16 => true
  | _ => false

/-- The tag as a one-character string. -/
def tagText (t : DataType) : String := String.singleton t.tag

/-- The type named by a tag byte, if any. -/
def ofTag? (b : UInt8) : Option DataType :=
  all.find? fun t => t.tag.toNat = b.toNat

/-- The name of a code, `"unknown"` when it names no type. -/
def codeName (c : Int) : String :=
  match ofCode? c with
  | some t => t.name
  | none => "unknown"

theorem ofCode_code (t : DataType) : ofCode? t.code = some t := by
  cases t <;> rfl

theorem ofTag_tag (t : DataType) : ofTag? t.tag.toNat.toUInt8 = some t := by
  cases t <;> rfl

end DataType

end StridedBuffer
