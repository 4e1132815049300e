import StridedBuffer.Binary.Format

/-! # Reading decimals into a binary format

A decimal `m * 10^k` is rounded once, exactly, to the nearest pattern of the format.
Magnitudes beyond `10^400` or below `10^-400` are past every format here, so they go
straight to an infinity or a zero without building their powers of ten.
-/

namespace StridedBuffer.Decimal

open Binary

/-- The number of decimal digits of `m`, at least one. -/
def digitCount (m : Nat) : Nat := (Nat.toDigits 10 m).length

/-- The pattern nearest to `± m * 10^k`. -/
def nearestPattern (f : Format) (neg : Bool) (m : Nat) (k : Int) : Nat :=
  if m = 0 then f.pack neg 0 0
  else if k > 400 then f.infinity neg
  else if (digitCount m : Int) + k < -400 then f.pack neg 0 0
  else f.nearest neg (m * Nat.pow 10 k.toNat) (Nat.pow 10 (-k).toNat)

end StridedBuffer.Decimal
