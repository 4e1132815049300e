import StridedBuffer.Text.Quoted

/-! # IP address text

An IPv4 address is four decimal fields of at most 255 without leading zeros, separated
by dots. An IPv6 address is up to eight groups of one to four hex digits separated by
colons, where one `::` stands for as many zero groups as are missing, the last two
groups may be written as an IPv4 address, and a zone may follow a `%`. Which of the two
a text is meant to be is decided by which of `.`, `:` and `%` comes first in it.

A text that is not an address is refused with the reason and, where there is one, the
rest of the text from the place it went wrong.
-/

namespace StridedBuffer.Web

/-- Why a text is not an IP address: the whole text, the reason, and the rest of the
text from where reading stopped, when that is not empty. -/
def addressFault (whole : List UInt8) (reason : String) (rest : List UInt8 := []) : String :=
  "ParseAddr(" ++ Text.Quoted.quoteBytes whole ++ "): " ++ reason ++
    (if rest.isEmpty then "" else " (at " ++ Text.Quoted.quoteBytes rest ++ ")")

/-- The value of a hexadecimal digit byte. -/
def hexValue? (c : UInt8) : Option Nat :=
  if 48 ≤ c ∧ c ≤ 57 then some (c.toNat - 48)
  else if 97 ≤ c ∧ c ≤ 102 then some (c.toNat - 87)
  else if 65 ≤ c ∧ c ≤ 70 then some (c.toNat - 55)
  else none

/-- The dot. -/
def dot : UInt8 := 46
/-- The colon. -/
def colon : UInt8 := 58
/-- The percent sign. -/
def percent : UInt8 := 37

/-- Reads the four dotted decimal fields of `s`, part of the address text `whole`.
`value` and `digits` describe the field being read, `dots` counts the dots passed,
`first` tells whether `s` starts the text and `afterDot` whether a dot came just
before. -/
def ipv4Fields (whole : List UInt8) : List UInt8 → Nat → Nat → Nat → Bool → Bool → Except String Unit
  | [], _, _, dots, _, _ =>
      if dots < 3 then .error (addressFault whole "IPv4 address too short") else .ok ()
  | c :: rest, value, digits, dots, first, afterDot =>
      if 48 ≤ c ∧ c ≤ 57 then
        if digits = 1 ∧ value = 0 then
          .error (addressFault whole "IPv4 field has octet with leading zero")
        else
          let value := value * 10 + (c.toNat - 48)
          if value > 255 then .error (addressFault whole "IPv4 field has value >255")
          else ipv4Fields whole rest value (digits + 1) dots false false
      else if c = dot then
        if first || rest.isEmpty || afterDot then
          .error (addressFault whole "IPv4 field must have at least one digit" (c :: rest))
        else if dots = 3 then .error (addressFault whole "IPv4 address too long")
        else ipv4Fields whole rest 0 0 (dots + 1) false true
      else .error (addressFault whole "unexpected character" (c :: rest))

/-- Reads one group of hex digits: its value, its digit count and the rest, or a
failure when it has more than four digits. -/
def hexGroup (whole : List UInt8) (s : List UInt8) : Except String (Nat × Nat × List UInt8) :=
  let digits := s.takeWhile fun c => (hexValue? c).isSome
  if digits.length > 4 then .error (addressFault whole "each group must have 4 or less digits" s)
  else .ok (digits.foldl (fun acc c => acc * 16 + (hexValue? c).getD 0) 0, digits.length,
    s.drop digits.length)

/-- Reads the groups of an IPv6 address from `s`, with `filled` bytes of the address
read and `ellipsis` telling whether a `::` was seen; the result is the bytes filled, the
`::` seen, and the unread rest. -/
def ipv6Groups (whole : List UInt8) : List UInt8 → Nat → Bool → Nat →
    Except String (Nat × Bool × List UInt8)
  | s, filled, ellipsis, 0 => .ok (filled, ellipsis, s)
  | s, filled, ellipsis, fuel + 1 =>
      if filled ≥ 16 then .ok (filled, ellipsis, s)
      else do
        let (_, digits, after) ← hexGroup whole s
        if digits = 0 then
          throw (addressFault whole "each colon-separated field must have at least one digit" s)
        if after.head? = some dot then
          if !ellipsis ∧ filled ≠ 12 then
            throw (addressFault whole
              "embedded IPv4 address must replace the final 2 fields of the address" s)
          if filled + 4 > 16 then
            throw (addressFault whole
              "too many hex fields to fit an embedded IPv4 at the end of the address" s)
          ipv4Fields whole s 0 0 0 true false
          return (filled + 4, ellipsis, [])
        let filled := filled + 2
        match after with
        | [] => return (filled, ellipsis, [])
        | c :: more =>
            if c ≠ colon then throw (addressFault whole "unexpected character, want colon" after)
            match more with
            | [] => throw (addressFault whole "colon must be followed by more characters" after)
            | d :: more' =>
                if d = colon then
                  if ellipsis then throw (addressFault whole "multiple :: in address" more)
                  if more'.isEmpty then return (filled, true, [])
                  ipv6Groups whole more' filled true fuel
                else ipv6Groups whole more filled ellipsis fuel

/-- Checks an IPv6 address with an optional zone. -/
def ipv6Address (whole : List UInt8) : Except String Unit := do
  let addr := whole.takeWhile (· ≠ percent)
  let zone := whole.drop (addr.length + 1)
  if addr.length < whole.length ∧ zone.isEmpty then
    throw (addressFault whole "zone must be a non-empty string")
  let (start, ellipsis) := match addr with
    | 58 :: 58 :: more => (more, true)
    | _ => (addr, false)
  if ellipsis ∧ start.isEmpty then return ()
  let (filled, ellipsis, rest) ← ipv6Groups whole start 0 ellipsis (start.length + 1)
  if !rest.isEmpty then throw (addressFault whole "trailing garbage after address" rest)
  if filled < 16 then
    if !ellipsis then throw (addressFault whole "address string too short")
  else if ellipsis then
    throw (addressFault whole "the :: must expand to at least one field of zeros")

/-- Reads an IP address; the result tells whether it is an IPv4 address. -/
def parseAddress (whole : List UInt8) : Except String Bool :=
  match whole.find? fun c => c = dot ∨ c = colon ∨ c = percent with
  | some 46 => (ipv4Fields whole whole 0 0 0 true false).map fun _ => true
  | some 58 => (ipv6Address whole).map fun _ => false
  | some _ => .error (addressFault whole "missing IPv6 address")
  | none => .error (addressFault whole "unable to parse IP")

end StridedBuffer.Web
