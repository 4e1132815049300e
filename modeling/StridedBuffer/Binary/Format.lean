/-! # Binary interchange formats

A binary floating-point format stores a sign bit, an exponent field and a fraction
field. A finite nonzero pattern stands for `m * 2^e` with an integer significand `m`;
the all-ones exponent field holds the infinities and the NaNs. Rounding a real number
to a format goes to the nearest pattern, and a tie goes to the even significand.
-/

namespace StridedBuffer.Binary

/-- A binary format, given by the widths of its fraction and exponent fields. -/
structure Format where
  fractionBits : Nat
  exponentBits : Nat
  deriving DecidableEq, Repr

namespace Format

/-- Sixteen bits: five of exponent, ten of fraction. -/
def half : Format := ⟨10, 5⟩

/-- Thirty-two bits: eight of exponent, twenty-three of fraction. -/
def single : Format := ⟨23, 8⟩

/-- Sixty-four bits: eleven of exponent, fifty-two of fraction. -/
def double : Format := ⟨52, 11⟩

/-- The exponent bias. -/
def bias (f : Format) : Nat := Nat.pow 2 (f.exponentBits - 1) - 1

/-- The all-ones exponent field. -/
def topField (f : Format) : Nat := Nat.pow 2 f.exponentBits - 1

/-- The bits of the significand, the hidden one included. -/
def precision (f : Format) : Nat := f.fractionBits + 1

/-- The number of bits of a whole pattern. -/
def width (f : Format) : Nat := 1 + f.exponentBits + f.fractionBits

/-- The pattern with the given sign, exponent field and fraction field. -/
def pack (f : Format) (neg : Bool) (field fraction : Nat) : Nat :=
  (if neg then Nat.pow 2 (f.exponentBits + f.fractionBits) else 0) +
    field * Nat.pow 2 f.fractionBits + fraction

/-- The sign bit of a pattern. -/
def negative (f : Format) (bits : Nat) : Bool :=
  bits / Nat.pow 2 (f.exponentBits + f.fractionBits) % 2 == 1

/-- The exponent field of a pattern. -/
def field (f : Format) (bits : Nat) : Nat :=
  bits / Nat.pow 2 f.fractionBits % Nat.pow 2 f.exponentBits

/-- The fraction field of a pattern. -/
def fraction (f : Format) (bits : Nat) : Nat :=
  bits % Nat.pow 2 f.fractionBits

end Format

/-- What a pattern stands for, apart from its sign. -/
inductive Magnitude where
  | zero
  /-- `significand * 2 ^ exponent`, with a nonzero significand. -/
  | finite (significand : Nat) (exponent : Int)
  | infinite
  | nan
  deriving DecidableEq, Repr

namespace Format

/-- The magnitude of a pattern. -/
def magnitude (f : Format) (bits : Nat) : Magnitude :=
  let e := f.field bits
  let m := f.fraction bits
  if e = f.topField then (if m = 0 then .infinite else .nan)
  else if e = 0 then
    (if m = 0 then .zero else .finite m (1 - (f.bias : Int) - f.fractionBits))
  else .finite (m + Nat.pow 2 f.fractionBits) ((e : Int) - f.bias - f.fractionBits)

/-- The pattern of an infinity. -/
def infinity (f : Format) (neg : Bool) : Nat := f.pack neg f.topField 0

/-- The quotient of two naturals rounded to the nearest integer, a tie to the even one. -/
def roundDiv (n d : Nat) : Nat :=
  let q := n / d
  let r := n % d
  if 2 * r > d then q + 1
  else if 2 * r = d then q + q % 2
  else q

/-- Whether `num / den` is at least `2 ^ k`. -/
def atLeastPow (num den : Nat) (k : Int) : Bool :=
  decide (num * Nat.pow 2 (-k).toNat ≥ den * Nat.pow 2 k.toNat)

/-- The exponent `t` with `2 ^ t ≤ num / den < 2 ^ (t + 1)`, for positive `num` and `den`. -/
def binaryExponent (num den : Nat) : Int :=
  let t : Int := (Nat.log2 num : Int) - Nat.log2 den
  if atLeastPow num den t then t else t - 1

/-- The pattern nearest to `num / den` (with a sign), a tie going to the even
significand; values past the largest finite one become an infinity. -/
def nearest (f : Format) (neg : Bool) (num den : Nat) : Nat :=
  if num = 0 ∨ den = 0 then f.pack neg 0 0
  else
    let p := f.precision
    let emin : Int := 1 - (f.bias : Int)
    let t := binaryExponent num den
    let s : Int := max t emin - (p - 1 : Nat)
    let m0 := roundDiv (num * Nat.pow 2 (-s).toNat) (den * Nat.pow 2 s.toNat)
    let (m, s) := if m0 ≥ Nat.pow 2 p then (m0 / 2, s + 1) else (m0, s)
    if m < Nat.pow 2 f.fractionBits then f.pack neg 0 m
    else
      let field := s + (p - 1 : Nat) + f.bias
      if field ≥ f.topField then f.infinity neg
      else f.pack neg field.toNat (m - Nat.pow 2 f.fractionBits)

end Format

end StridedBuffer.Binary
