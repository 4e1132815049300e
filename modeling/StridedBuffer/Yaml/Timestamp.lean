import StridedBuffer.Clock.Time

/-! # Timestamps

A timestamp is a date `YYYY-M-D` (four-digit year, month and day of one or two digits),
alone or followed by a time `h:m:s` (one or two digits each) with an optional fraction
after `.` or `,`. The time follows a space and then ends the text, or follows `T` or `t`
and then takes a zone: `Z`, or a sign with two-digit hours and minutes. Every field
must lie in its range, the day within its month.
-/

namespace StridedBuffer.Yaml

/-- Reads one or two digits. -/
def shortNumber : List Char → Option (Nat × List Char)
  | a :: b :: rest =>
      if !a.isDigit then none
      else if b.isDigit then some ((a.toNat - 48) * 10 + (b.toNat - 48), rest)
      else some (a.toNat - 48, b :: rest)
  | [a] => if a.isDigit then some (a.toNat - 48, []) else none
  | [] => none

/-- Reads exactly two digits. -/
def fixedPair : List Char → Option (Nat × List Char)
  | a :: b :: rest => if a.isDigit && b.isDigit then some ((a.toNat - 48) * 10 + (b.toNat - 48), rest) else none
  | _ => none

/-- Steps over the character `c`. -/
def expect (c : Char) : List Char → Option (List Char)
  | d :: rest => if c = d then some rest else none
  | [] => none

/-- Reads a date: the year, month and day, and what follows. -/
def readDate (cs : List Char) : Option ((Nat × Nat × Nat) × List Char) := do
  let year := cs.take 4
  if year.length != 4 || !year.all Char.isDigit then none
  let rest ← expect '-' (cs.drop 4)
  let (month, rest) ← shortNumber rest
  let rest ← expect '-' rest
  let (day, rest) ← shortNumber rest
  let y : Nat := year.foldl (fun acc c => acc * 10 + (c.toNat - 48)) 0
  if month < 1 || month > 12 || day < 1 || (day : Int) > Clock.daysIn month y then none
  return ((y, month, day), rest)

/-- Reads a time of day and an optional fraction of a second, giving what follows. -/
def readTime (cs : List Char) : Option (List Char) := do
  let (hour, rest) ← shortNumber cs
  let rest ← expect ':' rest
  let (minute, rest) ← shortNumber rest
  let rest ← expect ':' rest
  let (second, rest) ← shortNumber rest
  if hour ≥ 24 || minute ≥ 60 || second ≥ 60 then none
  match rest with
  | sep :: d :: more =>
      if (sep == '.' || sep == ',') && d.isDigit then some (more.dropWhile Char.isDigit)
      else some rest
  | _ => some rest

/-- Whether a zone is `Z` or `±hh:mm` and ends the text. -/
def zoneOk : List Char → Bool
  | ['Z'] => true
  | sign :: rest =>
      (sign == '+' || sign == '-') &&
        match fixedPair rest with
        | some (h, ':' :: more) =>
            match fixedPair more with
            | some (m, []) => h ≤ 24 && m ≤ 60
            | _ => false
        | _ => false
  | [] => false

/-- Whether a text is a timestamp. -/
def isTimestamp (s : String) : Bool :=
  match readDate s.toList with
  | none => false
  | some (_, []) => true
  | some (_, sep :: rest) =>
      match readTime rest with
      | none => false
      | some after =>
          if sep == ' ' then after.isEmpty
          else if sep == 'T' || sep == 't' then zoneOk after
          else false

end StridedBuffer.Yaml
