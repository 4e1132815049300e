import StridedBuffer.Decimal.Shortest
import StridedBuffer.Binary.Format

/-! # Writing a binary value in decimal

The shortest digits of a value are written positionally when the decimal exponent of the
first digit lies in a window, and as `d.ddd` followed by an exponent mark otherwise. The
window, the least number of exponent digits and the words for NaN and the infinities are
the fields of a `Notation`; every other choice is fixed here.
-/

namespace StridedBuffer.Decimal

open StridedBuffer.Binary

/-- The choices a decimal notation makes. Positional form is used when the exponent of
the first digit `x` has `lowExponent ≤ x < highExponent`. -/
structure Notation where
  lowExponent : Int
  highExponent : Int
  exponentDigits : Nat
  nanWord : String
  positiveInfinity : String
  negativeInfinity : String

/-- The text of a digit list. -/
def digitText (ds : List Nat) : String :=
  String.ofList (ds.map fun d => Char.ofNat (48 + d))

/-- A run of zeros. -/
def zeros (n : Nat) : String :=
  String.ofList (List.replicate n '0')

/-- Nonzero digits written positionally. -/
def positional (d : Digits) : String :=
  let n : Int := d.digits.length
  if d.point ≤ 0 then "0." ++ zeros (-d.point).toNat ++ digitText d.digits
  else if d.point ≥ n then digitText d.digits ++ zeros (d.point - n).toNat
  else
    digitText (d.digits.take d.point.toNat) ++ "." ++ digitText (d.digits.drop d.point.toNat)

/-- Nonzero digits written with an exponent. -/
def scientific (nt : Notation) (d : Digits) : String :=
  let x := d.point - 1
  let mantissa := match d.digits with
    | [] => "0"
    | [a] => digitText [a]
    | a :: rest => digitText [a] ++ "." ++ digitText rest
  let expText := toString x.natAbs
  let padded := zeros (nt.exponentDigits - expText.length) ++ expText
  mantissa ++ "e" ++ (if x < 0 then "-" else "+") ++ padded

/-- Nonzero digits in the notation's form. -/
def Notation.digits (nt : Notation) (d : Digits) : String :=
  let x := d.point - 1
  if nt.lowExponent ≤ x ∧ x < nt.highExponent then positional d else scientific nt d

/-- The text of a pattern of a binary format. -/
def Notation.render (nt : Notation) (f : Format) (bits : Nat) : String :=
  let neg := f.negative bits
  let sign := if neg then "-" else ""
  match f.magnitude bits with
  | .nan => nt.nanWord
  | .infinite => if neg then nt.negativeInfinity else nt.positiveInfinity
  | .zero => sign ++ "0"
  | .finite m e =>
      let lowerCloser := f.fraction bits = 0 ∧ f.field bits > 1
      sign ++ nt.digits (shortest m e lowerCloser)

end StridedBuffer.Decimal
