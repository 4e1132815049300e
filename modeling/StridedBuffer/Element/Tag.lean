import StridedBuffer.Element.DataType
import StridedBuffer.Fault

/-! # Parsing format tags

A format string names a type when it is exactly one byte long and that byte is a tag.
A single tag byte that names no type is reported as the character with that code, so a
byte above `0x7F` shows as its two-byte UTF-8 form.
-/

namespace StridedBuffer.DataType

/-- The UTF-8 bytes of the character whose code is the byte `b`. -/
def charBytes (b : UInt8) : List UInt8 :=
  if b < 0x80 then [b] else [(0xC0 : UInt8) ||| (b >>> 6), (0x80 : UInt8) ||| (b &&& 0x3F)]

/-- The type named by a tag byte. -/
def fromTag (b : UInt8) : Outcome DataType :=
  match ofTag? b with
  | some t => .ok t
  | none => .error (.format (charBytes b))

/-- The type named by a format string, given as bytes. -/
def parseFormat (bs : List UInt8) : Outcome DataType :=
  match bs with
  | [b] => fromTag b
  | _ => .error (.format bs)

theorem parseFormat_tag (t : DataType) : parseFormat [t.tag.toNat.toUInt8] = .ok t := by
  cases t <;> rfl

end StridedBuffer.DataType
