import StridedBuffer.Decimal.Read
import StridedBuffer.Text.Base64
import StridedBuffer.Text.Utf8
import StridedBuffer.Yaml.Timestamp
import StridedBuffer.Yaml.Token

/-! # What scalars stand for

A plain scalar is null, a boolean, an integer, a float or text, decided from its first
character and its whole spelling: the null and boolean words are fixed lists; an integer
is decimal or has a `0b`, `0o`, `0x` or bare `0` (octal) prefix, with `_` separators
dropped; a float is a decimal with a point or an exponent, or one of the `.inf` and
`.nan` words; a float that starts with its point may hold `_` between digits. A quoted
or block scalar is text.

A tag overrides this. `!!str` makes any scalar text; `!!null`, `!!bool`, `!!int`,
`!!float` and `!!timestamp` demand that the spelling resolve to that kind (an integer
also serves as a float), and fail otherwise; `!!binary` holds base64 data; any other tag
leaves the scalar as text. The empty tag and `!` leave resolution to the spelling.
-/

namespace StridedBuffer.Yaml

open Binary

/-- What a plain scalar stands for. Integers past the signed 64-bit range but within the
unsigned one are kept apart; a float is its double-precision pattern. -/
inductive Resolved where
  | null
  | bool (b : Bool)
  | int (i : Int)
  | uint (n : Nat)
  | float (bits : Nat)
  | timestamp
  | text (s : String)
  deriving DecidableEq, Repr

/-- The short tag of the kind a value resolved to. -/
def Resolved.tag : Resolved → String
  | .null => "!!null"
  | .bool _ => "!!bool"
  | .int _ | .uint _ => "!!int"
  | .float _ => "!!float"
  | .timestamp => "!!timestamp"
  | .text _ => "!!str"

/-- The spellings of null. -/
def nullWords : List String := ["", "~", "null", "Null", "NULL"]

/-- The spellings of true. -/
def trueWords : List String := ["true", "True", "TRUE"]

/-- The spellings of false. -/
def falseWords : List String := ["false", "False", "FALSE"]

/-- The spellings of a NaN. -/
def nanWords : List String := [".nan", ".NaN", ".NAN"]

/-- The spellings of positive infinity. -/
def infinityWords : List String := [".inf", ".Inf", ".INF", "+.inf", "+.Inf", "+.INF"]

/-- The spellings of negative infinity. -/
def negativeInfinityWords : List String := ["-.inf", "-.Inf", "-.INF"]

/-- The value of a digit in a base, if it is one. -/
def digitIn (base : Nat) (c : Char) : Option Nat :=
  let v :=
    if c.isDigit then c.toNat - 48
    else if 'a' ≤ c ∧ c ≤ 'z' then c.toNat - 87
    else if 'A' ≤ c ∧ c ≤ 'Z' then c.toNat - 55
    else 99
  if v < base then some v else none

/-- The value of a digit string in a base; `none` for an empty string or a bad digit. -/
def digitsValue (base : Nat) (cs : List Char) : Option Nat :=
  if cs.isEmpty then none
  else cs.foldlM (fun acc c => (digitIn base c).map (acc * base + ·)) 0

/-- An unsigned number with an optional base prefix: `0b`, `0o`, `0x`, or a bare leading
zero for octal. -/
def unsignedValue (cs : List Char) : Option Nat :=
  match cs with
  | '0' :: p :: rest =>
      let q := p.toLower
      if q == 'b' && !rest.isEmpty then digitsValue 2 rest
      else if q == 'o' && !rest.isEmpty then digitsValue 8 rest
      else if q == 'x' && !rest.isEmpty then digitsValue 16 rest
      else digitsValue 8 (p :: rest)
  | ['0'] => some 0
  | _ => digitsValue 10 cs

/-- A signed number within the 64-bit range. -/
def signedValue (cs : List Char) : Option Int :=
  let (neg, rest) := match cs with
    | '-' :: r => (true, r)
    | '+' :: r => (false, r)
    | r => (false, r)
  match unsignedValue rest with
  | some n =>
      if neg then (if n ≤ Nat.pow 2 63 then some (-(n : Int)) else none)
      else if n < Nat.pow 2 63 then some n else none
  | none => none

/-- Digits and what follows them. -/
def spanDigits (cs : List Char) : List Char × List Char :=
  (cs.takeWhile Char.isDigit, cs.dropWhile Char.isDigit)

/-- A decimal `[-+]?(.d+|d+(.d*)?)([eE][-+]?d+)?` as its sign, its digits as a number and
the power of ten they are scaled by; `none` when the text has another shape. -/
def decimalParts (cs : List Char) : Option (Bool × Nat × Int) := do
  let (neg, rest) := match cs with
    | '-' :: r => (true, r)
    | '+' :: r => (false, r)
    | r => (false, r)
  let (whole, rest) := spanDigits rest
  let (frac, rest) ← match rest with
    | '.' :: r => pure (spanDigits r)
    | r => pure ([], r)
  if whole.isEmpty && frac.isEmpty then none
  let exponent ← match rest with
    | [] => pure (0 : Int)
    | e :: r =>
        if e != 'e' && e != 'E' then none
        else
          let (eneg, digits) := match r with
            | '-' :: d => (true, d)
            | '+' :: d => (false, d)
            | d => (false, d)
          if digits.isEmpty || !digits.all Char.isDigit then none
          let v : Int := (String.ofList digits).toNat!
          pure (if eneg then -v else v)
  let m := (String.ofList (whole ++ frac)).toNat!
  return (neg, m, exponent - frac.length)

/-- Whether a text has the shape of a decimal float. -/
def decimalShape (cs : List Char) : Bool :=
  match decimalParts cs with
  | some _ => true
  | none => false

/-- The double nearest a decimal float text; `none` when its shape is wrong or it
rounds past the largest double. -/
def decimalDouble (cs : List Char) : Option Nat := do
  let (neg, m, k) ← decimalParts cs
  let bits := Decimal.nearestPattern Format.double neg m k
  if Format.double.magnitude bits == .infinite then none else some bits

/-- Whether the `_` separators of a number stand only between digits, a base prefix
counting as a digit. -/
def underscoresOk (cs : List Char) : Bool :=
  let body := match cs with
    | '-' :: r | '+' :: r => r
    | r => r
  let (saw, rest, hex) := match body with
    | '0' :: p :: r =>
        if p.toLower == 'b' || p.toLower == 'o' || p.toLower == 'x' then ('0', r, p.toLower == 'x')
        else ('^', body, false)
    | _ => ('^', body, false)
  go hex rest saw
where
  go (hex : Bool) : List Char → Char → Bool
    | [], saw => saw != '_'
    | c :: r, saw =>
        if c.isDigit || (hex && (digitIn 16 c).isSome) then go hex r '0'
        else if c == '_' then saw == '0' && go hex r '_'
        else saw != '_' && go hex r '!'

/-- What a scalar's spelling stands for; `timestamps` tells whether a date is read as a
timestamp. -/
def resolveSpelling (timestamps : Bool) (s : String) : Resolved :=
  let cs := s.toList
  let first := cs.head?.getD ' '
  let hinted := cs.isEmpty || "yYnNtTfFoO~.+-0123456789".toList.contains first
  if !hinted then .text s
  else if nullWords.contains s then .null
  else if trueWords.contains s then .bool true
  else if falseWords.contains s then .bool false
  else if nanWords.contains s then .float (Format.double.pack false Format.double.topField 1)
  else if infinityWords.contains s then .float (Format.double.infinity false)
  else if negativeInfinityWords.contains s then .float (Format.double.infinity true)
  else if first == '.' then
    if !underscoresOk cs then .text s
    else match decimalDouble (cs.filter (· != '_')) with
      | some bits => .float bits
      | none => .text s
  else if first == '+' || first == '-' || first.isDigit then
    if timestamps && isTimestamp s then .timestamp
    else
      let plain := cs.filter (· != '_')
      match signedValue plain with
      | some i => .int i
      | none =>
          match unsignedValue plain with
          | some n => if n < Nat.pow 2 64 then .uint n else .text s
          | none =>
              match decimalDouble plain with
              | some bits => .float bits
              | none => .text s
  else .text s

/-- What a plain scalar without a tag stands for. -/
def resolvePlain (s : String) : Resolved := resolveSpelling true s

/-- The short form of a tag: `!!name` for a tag in the standard namespace. -/
def shortTag (tag : String) : String :=
  let standard := "tag:yaml.org,2002:"
  if tag.startsWith standard then "!!" ++ String.ofList (tag.toList.drop standard.length) else tag

/-- The tag a scalar is read under: its own tag in short form unless that is empty or
`!`; else `!!str` for a quoted or block scalar, `!!merge` for a plain `<<`, and none. -/
def scalarTag (text : String) (style : Style) (tag : String) : String :=
  if tag != "" && tag != "!" then shortTag tag
  else if style != .plain then "!!str"
  else if text == "<<" then "!!merge"
  else ""

/-- The tags whose kind resolution checks. -/
def checkedTags : List String := ["!!null", "!!bool", "!!int", "!!float", "!!timestamp"]

/-- The text of bytes, each byte of malformed UTF-8 read as the replacement character. -/
def lossyText (bs : List UInt8) : String :=
  String.ofList ((Text.Utf8.pieces bs).map fun
    | .char c => Char.ofNat c
    | .stray _ => '\uFFFD')

/-- What a scalar stands for under the tag it is read with (see `scalarTag`); a failure
when the tag demands a kind its spelling is not, or base64 data that does not decode. -/
def resolveTagged (tag s : String) : Except Unit Resolved :=
  if tag == "!!str" then .ok (.text s)
  else if tag == "!!binary" then
    match Text.Base64.decode s with
    | some bs => .ok (.text (lossyText bs))
    | none => .error ()
  else if tag != "" && !checkedTags.contains tag then .ok (.text s)
  else
    let r := resolveSpelling (tag == "" || tag == "!!timestamp") s
    if tag == "" || tag == r.tag then .ok r
    else if tag == "!!float" then
      match r with
      | .int i => .ok (.float (Decimal.nearestPattern Format.double (i < 0) i.natAbs 0))
      | _ => .error ()
    else .error ()

/-- What a scalar stands for, by its text, how it was written and its tag. -/
def resolveScalar (text : String) (style : Style) (tag : String) : Except Unit Resolved :=
  resolveTagged (scalarTag text style tag) text

end StridedBuffer.Yaml
