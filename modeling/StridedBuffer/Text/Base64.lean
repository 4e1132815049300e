/-! # Base64

The standard alphabet `A-Z a-z 0-9 + /`, four characters to three bytes, with `=`
padding a last group of two or three characters to four. Line breaks anywhere are
skipped; any other character outside the alphabet, a group cut short, or anything after
the padding is an error. Bits left over in a padded group are ignored.
-/

namespace StridedBuffer.Text.Base64

/-- The six-bit value of a character of the alphabet. -/
def value? (c : Char) : Option Nat :=
  if 'A' ≤ c ∧ c ≤ 'Z' then some (c.toNat - 65)
  else if 'a' ≤ c ∧ c ≤ 'z' then some (c.toNat - 71)
  else if '0' ≤ c ∧ c ≤ '9' then some (c.toNat + 4)
  else if c = '+' then some 62
  else if c = '/' then some 63
  else none

/-- Decodes groups of four characters. -/
def groups : List Char → Option (List UInt8)
  | [] => some []
  | [a, b, '=', '='] => do
      let x ← value? a
      let y ← value? b
      return [UInt8.ofNat (x * 4 + y / 16)]
  | [a, b, c, '='] => do
      let x ← value? a
      let y ← value? b
      let z ← value? c
      return [UInt8.ofNat (x * 4 + y / 16), UInt8.ofNat (y % 16 * 16 + z / 4)]
  | a :: b :: c :: d :: rest => do
      let x ← value? a
      let y ← value? b
      let z ← value? c
      let w ← value? d
      let tail ← groups rest
      return UInt8.ofNat (x * 4 + y / 16) :: UInt8.ofNat (y % 16 * 16 + z / 4) ::
        UInt8.ofNat (z % 4 * 64 + w) :: tail
  | _ => none

/-- The bytes a base64 text stands for, if it is well formed. -/
def decode (s : String) : Option (List UInt8) :=
  groups (s.toList.filter fun c => c != '\n' && c != '\r')

end StridedBuffer.Text.Base64
