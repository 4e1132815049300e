import StridedBuffer.Binary.Dyadic

/-! # Durations

A duration is a signed count of nanoseconds that fits a 64-bit word. Its text is the
largest units first, `1h2m3.5s`, down to seconds; a duration under a second uses the
one unit that keeps its integer part nonzero (`1.5ms`, `999ns`). Reading a duration
accepts a sign and a run of decimal numbers each followed by a unit; a fraction is
scaled to its unit in double precision, as the usual reading of durations does, so
that a fraction of an hour stays nanosecond-exact.
-/

namespace StridedBuffer.Clock

open Binary

/-- The fraction digits of `v / 10^prec` after a point, trailing zeros dropped and the
point with them when nothing is left; and the integer part. -/
def fractionPart (v prec : Nat) : String × Nat :=
  let digits := Nat.toDigits 10 (v % Nat.pow 10 prec)
  let padded := List.replicate (prec - digits.length) '0' ++ digits
  let kept := (padded.reverse.dropWhile (· == '0')).reverse
  (if kept.isEmpty then "" else "." ++ String.ofList kept, v / Nat.pow 10 prec)

/-- The text of a duration of `d` nanoseconds. -/
def durationText (d : Int) : String :=
  let u := d.natAbs
  let sign := if d < 0 then "-" else ""
  if u = 0 then "0s"
  else if u < 1000000000 then
    let (unit, prec) :=
      if u < 1000 then ("ns", 0) else if u < 1000000 then ("µs", 3) else ("ms", 6)
    let (frac, whole) := fractionPart u prec
    sign ++ toString whole ++ frac ++ unit
  else
    let (frac, secs) := fractionPart u 9
    let seconds := toString (secs % 60) ++ frac ++ "s"
    let mins := secs / 60
    if mins = 0 then sign ++ seconds
    else
      let minutes := toString (mins % 60) ++ "m" ++ seconds
      let hours := mins / 60
      if hours = 0 then sign ++ minutes else sign ++ toString hours ++ "h" ++ minutes

/-- The nanoseconds in one of the unit names. -/
def unitNanos (unit : String) : Option Nat :=
  if unit = "ns" then some 1
  else if unit = "us" ∨ unit = "µs" ∨ unit = "μs" then some 1000
  else if unit = "ms" then some 1000000
  else if unit = "s" then some 1000000000
  else if unit = "m" then some 60000000000
  else if unit = "h" then some 3600000000000
  else none

/-- The limit every partial sum is held under. -/
def durationLimit : Nat := Nat.pow 2 63

/-- The leading decimal digits as a number, with what follows; `none` when the number
passes the limit. -/
def leadingWhole : List Char → Nat → Option (Nat × List Char)
  | [], x => some (x, [])
  | c :: rest, x =>
      if c.isDigit then
        if x > durationLimit / 10 then none
        else
          let y := x * 10 + (c.toNat - 48)
          if y > durationLimit then none else leadingWhole rest y
      else some (x, c :: rest)

/-- The leading decimal digits of a fraction: the digits kept as a number, how many were
kept, and what follows. Digits past what the limit can hold are skipped. -/
def leadingFraction : List Char → Nat → Nat → Bool → Nat × Nat × List Char
  | [], x, k, _ => (x, k, [])
  | c :: rest, x, k, full =>
      if c.isDigit then
        if full ∨ x > (durationLimit - 1) / 10 then leadingFraction rest x k true
        else
          let y := x * 10 + (c.toNat - 48)
          if y > durationLimit then leadingFraction rest x k true
          else leadingFraction rest y (k + 1) false
      else (x, k, c :: rest)

/-- Whether a character continues a number. -/
def numberChar (c : Char) : Bool := c == '.' || c.isDigit

/-- `f / 10^k` of a unit in nanoseconds, rounded as double precision arithmetic does. -/
def scaledFraction (f k unit : Nat) : Option Nat := do
  let whole ← Format.double.roundRatio f 1
  let ratio ← Format.double.roundRatio unit (Nat.pow 10 k)
  let product ← Format.double.roundDyadic (whole.mul ratio)
  return product.floor

/-- Adds the numbers-with-units of the text to `total`. -/
def durationTerms : List Char → Nat → Nat → Option Nat
  | [], total, _ => some total
  | _, _, 0 => none
  | c :: cs, total, fuel + 1 => do
      if !numberChar c then none
      let text := c :: cs
      let (v, afterWhole) ← leadingWhole text 0
      let pre := afterWhole.length != text.length
      let (f, k, afterNumber, post) := match afterWhole with
        | '.' :: r =>
            let (f, k, r') := leadingFraction r 0 0 false
            (f, k, r', r'.length != r.length)
        | r => (0, 0, r, false)
      if !pre && !post then none
      let unitChars := afterNumber.takeWhile (fun c => !numberChar c)
      if unitChars.isEmpty then none
      let unit ← unitNanos (String.ofList unitChars)
      if v > durationLimit / unit then none
      let v := v * unit
      let v ← if f > 0 then do
          let v := v + (← scaledFraction f k unit)
          if v > durationLimit then none else some v
        else some v
      let total := total + v
      if total > durationLimit then none
      durationTerms (afterNumber.drop unitChars.length) total fuel

/-- The nanoseconds of a duration text such as `1h2m3.5s` or `-1.5µs`; `none` when the
text is not a duration or does not fit 64 bits. -/
def parseDuration (s : String) : Option Int :=
  let (neg, cs) := match s.toList with
    | '-' :: r => (true, r)
    | '+' :: r => (false, r)
    | r => (false, r)
  if cs = ['0'] then some 0
  else if cs.isEmpty then none
  else do
    let d ← durationTerms cs 0 (cs.length + 1)
    if neg then some (-(d : Int))
    else if d ≥ durationLimit then none
    else some d

end StridedBuffer.Clock
