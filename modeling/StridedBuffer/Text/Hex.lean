/-! # Hexadecimal text

Bytes are written as two lowercase digits each, high half first; reading accepts both
cases and refuses an odd number of digits or any other character.
-/

namespace StridedBuffer.Text.Hex

/-- The lowercase digit for a value below sixteen. -/
def digit (n : Nat) : Char :=
  if n < 10 then Char.ofNat (48 + n) else Char.ofNat (87 + n)

/-- The two digits of one byte. -/
def ofByte (b : UInt8) : String :=
  String.ofList [digit (b.toNat / 16), digit (b.toNat % 16)]

/-- All bytes of a list, two digits each. -/
def ofList (bs : List UInt8) : String :=
  bs.foldl (fun acc b => acc ++ ofByte b) ""

/-- All bytes of an array, two digits each. -/
def encode (bs : ByteArray) : String :=
  bs.foldl (fun acc b => (acc.push (digit (b.toNat / 16))).push (digit (b.toNat % 16))) ""

/-- A value written with a fixed number of digits, most significant first. -/
def ofNatWidth (width n : Nat) : String :=
  String.ofList ((List.range width).reverse.map fun i => digit (n / Nat.pow 16 i % 16))

/-- A value in the fewest lowercase digits, at least one. -/
def ofNat (n : Nat) : String :=
  String.ofList (Nat.toDigits 16 n)

/-- The value of one hexadecimal digit of either case. -/
def value? (c : Char) : Option Nat :=
  if '0' ≤ c ∧ c ≤ '9' then some (c.toNat - 48)
  else if 'a' ≤ c ∧ c ≤ 'f' then some (c.toNat - 87)
  else if 'A' ≤ c ∧ c ≤ 'F' then some (c.toNat - 55)
  else none

/-- Digits read in pairs after the bytes `acc`; `none` for an odd count or a character
that is no digit. -/
def decodeList (acc : ByteArray) : List Char → Option ByteArray
  | [] => some acc
  | [_] => none
  | hi :: lo :: rest =>
      match value? hi, value? lo with
      | some h, some l => decodeList (acc.push (16 * h + l).toUInt8) rest
      | _, _ => none

/-- The bytes a hexadecimal text stands for. -/
def decode? (s : String) : Option ByteArray :=
  decodeList ByteArray.empty s.toList

end StridedBuffer.Text.Hex
