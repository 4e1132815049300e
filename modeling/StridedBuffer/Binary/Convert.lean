import StridedBuffer.Binary.Format

/-! # Conversions between binary formats

Widening is exact. Narrowing rounds to the nearest pattern of the smaller format, a tie
going to the even significand, and overflows to an infinity. A NaN keeps its sign and the
top bits of its payload, and narrowing and the sixteen-bit widening also set the quiet bit.
The brain-float format is the top half of a single pattern: widening appends sixteen zero
bits and narrowing drops them.
-/

namespace StridedBuffer.Binary

open Format

/-- The value of a finite magnitude as a fraction `num / den`. -/
def fractionOf (m : Nat) (e : Int) : Nat × Nat :=
  (m * Nat.pow 2 e.toNat, Nat.pow 2 (-e).toNat)

/-- A sixteen-bit pattern widened to thirty-two bits. -/
def halfToSingle (h : UInt16) : UInt32 :=
  let bits := h.toNat
  let neg := half.negative bits
  let out := match half.magnitude bits with
    | .zero => single.pack neg 0 0
    | .finite m e => let q := fractionOf m e; single.nearest neg q.1 q.2
    | .infinite => single.infinity neg
    | .nan => single.pack neg single.topField (Nat.pow 2 22 + half.fraction bits * Nat.pow 2 13 % Nat.pow 2 22)
  out.toUInt32

/-- A thirty-two-bit pattern narrowed to sixteen bits. -/
def singleToHalf (x : UInt32) : UInt16 :=
  let bits := x.toNat
  let neg := single.negative bits
  let out := match single.magnitude bits with
    | .zero => half.pack neg 0 0
    | .finite m e => let q := fractionOf m e; half.nearest neg q.1 q.2
    | .infinite => half.infinity neg
    | .nan => half.pack neg half.topField (Nat.pow 2 9 + single.fraction bits / Nat.pow 2 13 % Nat.pow 2 9)
  out.toUInt16

/-- A sixty-four-bit pattern narrowed to thirty-two bits. -/
def doubleToSingle (x : UInt64) : UInt32 :=
  let bits := x.toNat
  let neg := double.negative bits
  let out := match double.magnitude bits with
    | .zero => single.pack neg 0 0
    | .finite m e => let q := fractionOf m e; single.nearest neg q.1 q.2
    | .infinite => single.infinity neg
    | .nan => single.pack neg single.topField (Nat.pow 2 22 + double.fraction bits / Nat.pow 2 29 % Nat.pow 2 22)
  out.toUInt32

/-- A thirty-two-bit pattern widened to sixty-four bits. -/
def singleToDouble (x : UInt32) : UInt64 :=
  let bits := x.toNat
  let neg := single.negative bits
  let out := match single.magnitude bits with
    | .zero => double.pack neg 0 0
    | .finite m e => let q := fractionOf m e; double.nearest neg q.1 q.2
    | .infinite => double.infinity neg
    | .nan => double.pack neg double.topField (Nat.pow 2 51 + single.fraction bits * Nat.pow 2 29 % Nat.pow 2 51)
  out.toUInt64

/-- A brain-float pattern widened to thirty-two bits. -/
def brainToSingle (b : UInt16) : UInt32 :=
  b.toUInt32 <<< 16

/-- A thirty-two-bit pattern cut to its brain-float top half. -/
def singleToBrain (x : UInt32) : UInt16 :=
  (x >>> 16).toUInt16

end StridedBuffer.Binary
