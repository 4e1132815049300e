import StridedBuffer.Binary.Format

/-! # Exact values of binary patterns

Every finite pattern of a binary format is a dyadic number `m * 2^e`. Arithmetic done
in a format is the exact operation on these values followed by one rounding to the
nearest pattern, so products and quotients are computed here on the exact values and
rounded with `Format.nearest`.
-/

namespace StridedBuffer.Binary

/-- The nonnegative number `significand * 2 ^ exponent`. -/
structure Dyadic where
  significand : Nat
  exponent : Int
  deriving DecidableEq, Repr

namespace Dyadic

/-- Zero. -/
def zero : Dyadic := ⟨0, 0⟩

/-- The numerator of the value over `denominator`. -/
def numerator (d : Dyadic) : Nat := d.significand * Nat.pow 2 d.exponent.toNat

/-- A power of two that the value times it is the whole `numerator`. -/
def denominator (d : Dyadic) : Nat := Nat.pow 2 (-d.exponent).toNat

/-- The exact product. -/
def mul (a b : Dyadic) : Dyadic := ⟨a.significand * b.significand, a.exponent + b.exponent⟩

/-- The value rounded toward zero to a natural number. -/
def floor (d : Dyadic) : Nat := d.numerator / d.denominator

/-- Whether the value is at most `n`. -/
def atMost (d : Dyadic) (n : Nat) : Bool := d.numerator ≤ n * d.denominator

/-- Whether the value is at least `n`. -/
def atLeast (d : Dyadic) (n : Nat) : Bool := d.numerator ≥ n * d.denominator

end Dyadic

namespace Format

/-- The magnitude of a finite pattern; `none` for the infinities and NaNs. -/
def value? (f : Format) (bits : Nat) : Option Dyadic :=
  match f.magnitude bits with
  | .zero => some Dyadic.zero
  | .finite m e => some ⟨m, e⟩
  | _ => none

/-- The magnitude nearest to `num / den`; `none` when it rounds past the largest finite
pattern. -/
def roundRatio (f : Format) (num den : Nat) : Option Dyadic :=
  f.value? (f.nearest false num den)

/-- A dyadic number rounded to the format. -/
def roundDyadic (f : Format) (d : Dyadic) : Option Dyadic :=
  f.roundRatio d.numerator d.denominator

end Format

end StridedBuffer.Binary
