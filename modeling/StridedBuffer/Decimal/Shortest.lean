/-! # Shortest decimal digits of a binary value

A positive binary value `m * 2^e` rounds back from every real number in its rounding
interval: halfway to each neighbouring pattern, ends included when `m` is even. The
shortest decimal of the value is found by trying one significant digit, then two, and
so on: on the grid of `n`-digit decimals only the two grid points around the value can
lie in the interval, the first `n` with a hit wins, and of two hits the nearer one, an
exact tie going to the even last digit.
-/

namespace StridedBuffer.Decimal

/-- Decimal digits `d1 … dn` (the first and last nonzero) and the position of the point:
the number is `0.d1…dn × 10^point`. The empty list stands for zero. -/
structure Digits where
  digits : List Nat
  point : Int
  deriving DecidableEq, Repr

/-- The decimal digits of a natural number, most significant first. -/
def natDigits (n : Nat) : List Nat :=
  (Nat.toDigits 10 n).map fun c => c.toNat - 48

/-- Digits without their trailing zeros. -/
def dropTrailingZeros (ds : List Nat) : List Nat :=
  (ds.reverse.dropWhile (· == 0)).reverse

/-- The number `c * 10^k` written as digits and a point. -/
def Digits.ofScaled (c : Nat) (k : Int) : Digits :=
  if c = 0 then ⟨[], 0⟩
  else
    let ds := natDigits c
    ⟨dropTrailingZeros ds, (ds.length : Int) + k⟩

/-- Whether `a * 2^e2 ≥ b * 10^k`, compared in exact integers. -/
def dyadicAtLeast (a : Nat) (e2 : Int) (b : Nat) (k : Int) : Bool :=
  decide (a * Nat.pow 2 e2.toNat * Nat.pow 10 (-k).toNat ≥ b * Nat.pow 2 (-e2).toNat * Nat.pow 10 k.toNat)

/-- The decimal exponent `E` with `10^E ≤ m * 2^e < 10^(E+1)`, for `m > 0`. -/
def decimalExponent (m : Nat) (e : Int) : Int :=
  let guess : Int := ((Nat.log2 m : Int) + e) * 78913 / 262144
  let down := fun (x : Int) => if dyadicAtLeast m e 1 x then x else x - 1
  let up := fun (x : Int) => if dyadicAtLeast m e 1 (x + 1) then x + 1 else x
  up (up (down (down guess)))

/-- The rounding interval of a value, scaled to a common power of two: the value is
`4m * 2^(e-2)`, the ends are `low * 2^(e-2)` and `high * 2^(e-2)`. -/
structure Interval where
  low : Nat
  center : Nat
  high : Nat
  scale : Int
  inclusive : Bool

/-- The interval of `m * 2^e`; `lowerCloser` marks a value whose lower neighbour is half
as far away as its upper one. -/
def Interval.of (m : Nat) (e : Int) (lowerCloser : Bool) : Interval :=
  { low := 4 * m - (if lowerCloser then 1 else 2)
    center := 4 * m
    high := 4 * m + 2
    scale := e - 2
    inclusive := m % 2 == 0 }

/-- The decimal with `n` significant digits chosen from the interval, if one lies in it. -/
def Interval.pick? (iv : Interval) (exp10 : Int) (n : Nat) : Option (Nat × Int) :=
  let k : Int := exp10 - n + 1
  let num := fun (a : Nat) => a * Nat.pow 2 iv.scale.toNat * Nat.pow 10 (-k).toNat
  let den := Nat.pow 2 (-iv.scale).toNat * Nat.pow 10 k.toNat
  let v := num iv.center
  let lo := num iv.low
  let hi := num iv.high
  let inside := fun (c : Nat) =>
    if iv.inclusive then lo ≤ c * den ∧ c * den ≤ hi else lo < c * den ∧ c * den < hi
  let f := v / den
  let below := f
  let above := f + 1
  let dBelow := v - below * den
  let dAbove := above * den - v
  match decide (inside below), decide (inside above) with
  | true, true =>
      if dBelow < dAbove then some (below, k)
      else if dAbove < dBelow then some (above, k)
      else if below % 2 == 0 then some (below, k) else some (above, k)
  | true, false => some (below, k)
  | false, true => some (above, k)
  | false, false => none

/-- The shortest decimal digits of the positive value `m * 2^e`. -/
def shortest (m : Nat) (e : Int) (lowerCloser : Bool) : Digits :=
  let iv := Interval.of m e lowerCloser
  let exp10 := decimalExponent m e
  match (List.range 17).findSome? (fun i => iv.pick? exp10 (i + 1)) with
  | some (c, k) => Digits.ofScaled c k
  | none =>
      let k : Int := exp10 - 16
      let c := (m * Nat.pow 2 e.toNat * Nat.pow 10 (-k).toNat) / (Nat.pow 2 (-e).toNat * Nat.pow 10 k.toNat)
      Digits.ofScaled c k

end StridedBuffer.Decimal
