/-! # Instants and their RFC 3339 text

An instant is a count of seconds and nanoseconds from the Unix epoch, together with the
offset of the zone it is shown in. Dates are proleptic Gregorian. The calendar counts
seconds in an unsigned sixty-four-bit word from a start some 292 billion years before
the epoch, so a reading before that start wraps around and shows the date `2^64` seconds
later. The zero instant is midnight, 1 January of year 1, in UTC.
-/

namespace StridedBuffer.Clock

/-- A point in time and the zone offset it is shown with. -/
structure Instant where
  /-- Seconds since 1970-01-01T00:00:00Z. -/
  seconds : Int
  /-- Nanoseconds into the second, below `10^9`. -/
  nanos : Nat
  /-- Seconds east of UTC. -/
  offset : Int
  deriving DecidableEq, Repr

/-- Seconds from the start of year 1 to the Unix epoch. -/
def epochFromYearOne : Int := 62135596800

/-- The zero instant. -/
def Instant.zero : Instant := ⟨-epochFromYearOne, 0, 0⟩

/-- Whether an instant is the zero instant, whatever its zone. -/
def Instant.isZero (t : Instant) : Bool := t.seconds == -epochFromYearOne && t.nanos == 0

/-- The same instant shown in UTC. -/
def Instant.utc (t : Instant) : Instant := { t with offset := 0 }

/-- Days from 1970-01-01 to a civil date. -/
def daysFromCivil (y m d : Int) : Int :=
  let y := if m ≤ 2 then y - 1 else y
  let era := y / 400
  let yoe := y - era * 400
  let mp := if m > 2 then m - 3 else m + 9
  let doy := (153 * mp + 2) / 5 + d - 1
  let doe := yoe * 365 + yoe / 4 - yoe / 100 + doy
  era * 146097 + doe - 719468

/-- The civil date `(year, month, day)` of a day count from 1970-01-01. -/
def civilFromDays (z : Int) : Int × Int × Int :=
  let z := z + 719468
  let era := z / 146097
  let doe := z - era * 146097
  let yoe := (doe - doe / 1460 + doe / 36524 - doe / 146096) / 365
  let doy := doe - (365 * yoe + yoe / 4 - yoe / 100)
  let mp := (5 * doy + 2) / 153
  let d := doy - (153 * mp + 2) / 5 + 1
  let m := if mp < 10 then mp + 3 else mp - 9
  (if m ≤ 2 then yoe + era * 400 + 1 else yoe + era * 400, m, d)

/-- Whether a year is a leap year. -/
def isLeap (y : Int) : Bool := y % 4 == 0 && (y % 100 != 0 || y % 400 == 0)

/-- The number of days of a month. -/
def daysIn (m y : Int) : Int :=
  if m = 2 then (if isLeap y then 29 else 28)
  else if m = 4 ∨ m = 6 ∨ m = 9 ∨ m = 11 then 30
  else 31

/-- A natural number in at least `width` digits. -/
def padded (width n : Nat) : String :=
  let s := toString n
  String.ofList (List.replicate (width - s.length) '0') ++ s

/-- A signed number in at least `width` digits, the sign in front. -/
def paddedInt (width : Nat) (n : Int) : String :=
  (if n < 0 then "-" else "") ++ padded width n.natAbs

/-- The nanoseconds as a fraction without trailing zeros, empty when zero. -/
def fractionText (nanos : Nat) : String :=
  if nanos = 0 then ""
  else
    let digits := (padded 9 nanos).toList
    "." ++ String.ofList (digits.reverse.dropWhile (· == '0')).reverse

/-- The zone as `Z` or `±hh:mm`. -/
def zoneText (offset : Int) : String :=
  if offset = 0 then "Z"
  else
    let minutes := offset.natAbs / 60
    (if offset < 0 then "-" else "+") ++ padded 2 (minutes / 60) ++ ":" ++ padded 2 (minutes % 60)

/-- Seconds from the start of the calendar's count to the Unix epoch. -/
def calendarStart : Int := 9223372028683785600

/-- The seconds since the epoch whose date and time of day a wall-clock reading of `wall`
seconds shows: the reading counted from the calendar's start, modulo `2^64`. -/
def calendarSeconds (wall : Int) : Int :=
  (wall + calendarStart) % (Nat.pow 2 64 : Nat) - calendarStart

/-- The date and the time of day of an instant in its own zone, as in
`2024-02-29T12:34:56`. -/
def Instant.wallText (t : Instant) : String :=
  let wall := calendarSeconds (t.seconds + t.offset)
  let days := wall / 86400
  let secs := (wall % 86400).toNat
  let (y, m, d) := civilFromDays days
  paddedInt 4 y ++ "-" ++ padded 2 m.toNat ++ "-" ++ padded 2 d.toNat ++ "T" ++
    padded 2 (secs / 3600) ++ ":" ++ padded 2 (secs / 60 % 60) ++ ":" ++ padded 2 (secs % 60)

/-- The instant as RFC 3339 text in its own zone, with the fraction of a second when
`withFraction` holds and it is not zero. -/
def Instant.text (t : Instant) (withFraction : Bool) : String :=
  t.wallText ++ (if withFraction then fractionText t.nanos else "") ++ zoneText t.offset

/-- The instant as RFC 3339 text in its own zone with exactly three digits of the
second's fraction, cut toward zero. -/
def Instant.millisText (t : Instant) : String :=
  t.wallText ++ "." ++ padded 3 (t.nanos / 1000000) ++ zoneText t.offset

/-- The value of a run of decimal digits. -/
def digitsValue (cs : List Char) : Nat :=
  cs.foldl (fun acc c => acc * 10 + (c.toNat - 48)) 0

/-- Whether a character is a decimal digit. -/
def isDigit (c : Char) : Bool := '0' ≤ c && c ≤ '9'

/-- Exactly `n` digits from the front of the text. -/
def fixedDigits (n : Nat) (cs : List Char) : Option (Nat × List Char) :=
  if (cs.take n).length = n ∧ (cs.take n).all isDigit then some (digitsValue (cs.take n), cs.drop n)
  else none

/-- One or two digits from the front of the text. -/
def shortDigits (cs : List Char) : Option (Nat × List Char) :=
  match cs with
  | a :: b :: rest =>
      if !isDigit a then none
      else if isDigit b then some (digitsValue [a, b], rest) else some (digitsValue [a], b :: rest)
  | [a] => if isDigit a then some (digitsValue [a], []) else none
  | [] => none

/-- A literal character at the front of the text. -/
def literal (c : Char) (cs : List Char) : Option (List Char) :=
  match cs with
  | d :: rest => if c = d then some rest else none
  | [] => none

/-- A fraction of a second at the front of the text, if there is one: a point or comma
and at least one digit. Digits past the ninth are read and dropped. -/
def fraction (cs : List Char) : Nat × List Char :=
  match cs with
  | sep :: d :: rest =>
      if (sep = '.' ∨ sep = ',') ∧ isDigit d then
        let ds := d :: rest.takeWhile isDigit
        let nine := (ds.take 9)
        (digitsValue nine * Nat.pow 10 (9 - nine.length), rest.dropWhile isDigit)
      else (0, cs)
  | _ => (0, cs)

/-- The zone at the end of the text: `Z`, or a sign, two digits of hours, a colon and two
digits of minutes. -/
def zone (cs : List Char) : Option Int :=
  match cs with
  | ['Z'] => some 0
  | [sign, h1, h2, ':', m1, m2] => do
      let (h, _) ← fixedDigits 2 [h1, h2]
      let (m, _) ← fixedDigits 2 [m1, m2]
      if h > 24 ∨ m > 60 then none
      else
        let off : Int := (h * 60 + m) * 60
        if sign = '+' then some off else if sign = '-' then some (-off) else none
  | _ => none

/-- The instant written as RFC 3339 text, if the text is one. -/
def parse (s : String) : Option Instant := do
  let cs := s.toList
  let (year, cs) ← fixedDigits 4 cs
  let cs ← literal '-' cs
  let (month, cs) ← fixedDigits 2 cs
  let cs ← literal '-' cs
  let (day, cs) ← fixedDigits 2 cs
  let cs ← literal 'T' cs
  let (hour, cs) ← shortDigits cs
  let cs ← literal ':' cs
  let (minute, cs) ← fixedDigits 2 cs
  let cs ← literal ':' cs
  let (second, cs) ← fixedDigits 2 cs
  let (nanos, cs) := fraction cs
  let off ← zone cs
  if month < 1 ∨ month > 12 ∨ hour > 23 ∨ minute > 59 ∨ second > 59 then none
  else if day < 1 ∨ (day : Int) > daysIn month year then none
  else
    let wall := daysFromCivil year month day * 86400 + hour * 3600 + minute * 60 + second
    some ⟨wall - off, nanos, off⟩

/-- Wraps an integer to a signed sixty-four-bit word. -/
def wrapWord (x : Int) : Int :=
  let m := x % Nat.pow 2 64
  if m ≥ Nat.pow 2 63 then m - Nat.pow 2 64 else m

/-- The instant `sec` seconds and `nsec` nanoseconds after the epoch, shown in UTC. The
seconds are kept from year 1 in a signed word, which wraps around. -/
def ofUnix (sec : Int) (nsec : Int) : Instant :=
  let sec := sec + nsec / 1000000000
  let nsec := nsec % 1000000000
  ⟨wrapWord (sec + epochFromYearOne) - epochFromYearOne, nsec.toNat, 0⟩

end StridedBuffer.Clock
