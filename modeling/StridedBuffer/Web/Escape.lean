import StridedBuffer.Web.Address

/-! # Percent-escapes in URLs

Each part of a URL has its own set of bytes that stand for themselves; any other byte is
written `%HH` with upper-case hex digits. Reading undoes the escapes. A host may escape
only bytes past ASCII and the percent sign itself, and may hold no ASCII byte that it
would have to escape; a zone may escape what a host could hold unescaped, a space, or
the percent sign.
-/

namespace StridedBuffer.Web

/-- Where a text stands in a URL, which decides what it may hold unescaped. -/
inductive Part where
  | host
  | zone
  | path
  | userinfo
  | fragment
  deriving DecidableEq, Repr

/-- Whether a byte is an ASCII letter or digit. -/
def isAlnumByte (c : UInt8) : Bool :=
  (97 ≤ c && c ≤ 122) || (65 ≤ c && c ≤ 90) || (48 ≤ c && c ≤ 57)

/-- Whether a byte is one of the characters of a text. -/
def byteIn (chars : String) (c : UInt8) : Bool :=
  chars.toList.any fun ch => ch.toNat = c.toNat

/-- Whether a byte is written escaped in a part. -/
def shouldEscape (part : Part) (c : UInt8) : Bool :=
  if isAlnumByte c then false
  else if (part = .host ∨ part = .zone) && byteIn "!$&'()*+,;=:[]<>\"" c then false
  else if byteIn "-_.~" c then false
  else if byteIn "$&+,/:;=?@" c then
    match part with
    | .path => c = 63
    | .userinfo => c = 64 || c = 47 || c = 63 || c = 58
    | .fragment => false
    | .host | .zone => true
  else !(part = .fragment && byteIn "!()*" c)

/-- The upper-case hex digit of a value below sixteen. -/
def upperHex (n : Nat) : UInt8 :=
  if n < 10 then UInt8.ofNat (48 + n) else UInt8.ofNat (55 + n)

/-- A text with the bytes its part does not hold unescaped written as `%HH`. -/
def escape (part : Part) (s : List UInt8) : List UInt8 :=
  s.flatMap fun c =>
    if shouldEscape part c then [percent, upperHex (c.toNat / 16), upperHex (c.toNat % 16)]
    else [c]

/-- Whether a text is already written as its part would write it: it escapes every byte
that needs it, with the sub-delimiters, `:`, `@`, the brackets and `%` let through. -/
def validEncoded (part : Part) (s : List UInt8) : Bool :=
  s.all fun c => byteIn "!$&'()*+,;=:@[]%" c || !shouldEscape part c

/-- The failure for a malformed escape. -/
def escapeFault (piece : List UInt8) : String :=
  "invalid URL escape " ++ Text.Quoted.quoteBytes piece

/-- Checks the escapes of a text for its part, in order. -/
def checkEscapes (part : Part) : List UInt8 → Except String Unit
  | [] => .ok ()
  | c :: rest =>
      if c = percent then
        match rest with
        | a :: b :: more =>
            match hexValue? a, hexValue? b with
            | some x, some y =>
                let isPercent := a = 50 ∧ b = 53
                let v := x * 16 + y
                if part = .host ∧ x < 8 ∧ ¬isPercent then .error (escapeFault [c, a, b])
                else if part = .zone ∧ ¬isPercent ∧ v ≠ 32 ∧ shouldEscape .host (UInt8.ofNat v) then
                  .error (escapeFault [c, a, b])
                else checkEscapes part more
            | _, _ => .error (escapeFault [c, a, b])
        | _ => .error (escapeFault (c :: rest))
      else if (part = .host ∨ part = .zone) ∧ c < 128 ∧ shouldEscape part c then
        .error ("invalid character " ++ Text.Quoted.quoteBytes [c] ++ " in host name")
      else checkEscapes part rest

/-- The bytes of a text whose escapes are well formed, with each escape undone. -/
def decodeEscapes : List UInt8 → List UInt8
  | [] => []
  | c :: a :: b :: more =>
      if c = percent then
        UInt8.ofNat ((hexValue? a).getD 0 * 16 + (hexValue? b).getD 0) :: decodeEscapes more
      else c :: decodeEscapes (a :: b :: more)
  | c :: rest => c :: decodeEscapes rest

/-- Reads the escapes of a text for its part. -/
def unescape (part : Part) (s : List UInt8) : Except String (List UInt8) :=
  (checkEscapes part s).map fun _ => decodeEscapes s

end StridedBuffer.Web
