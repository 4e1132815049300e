import StridedBuffer.Text.Printable
import StridedBuffer.Text.Utf8
import StridedBuffer.Text.Hex

/-! # Quoted text

A text is quoted between double quotes. The quote and the backslash get a backslash,
printable characters stay, the seven usual control characters get their letter escape,
other characters below the space and `DEL` get `\xHH`, other code points `\uHHHH` or
`\UHHHHHHHH`, and a stray byte of malformed UTF-8 gets `\xHH`.
-/

namespace StridedBuffer.Text.Quoted

open StridedBuffer.Text

/-- The escape letter of a control character that has one. -/
def letterEscape? (c : Nat) : Option Char :=
  match c with
  | 7 => some 'a'
  | 8 => some 'b'
  | 12 => some 'f'
  | 10 => some 'n'
  | 13 => some 'r'
  | 9 => some 't'
  | 11 => some 'v'
  | _ => none

/-- How one code point is written inside the quotes. -/
def escapeChar (c : Nat) : String :=
  if c = 34 ∨ c = 92 then "\\" ++ String.singleton (Char.ofNat c)
  else if Printable.isPrintable c then String.singleton (Char.ofNat c)
  else match letterEscape? c with
    | some l => String.ofList ['\\', l]
    | none =>
        if c < 32 ∨ c = 127 then "\\x" ++ Hex.ofNatWidth 2 c
        else if c < 0x10000 then "\\u" ++ Hex.ofNatWidth 4 c
        else "\\U" ++ Hex.ofNatWidth 8 c

/-- How one piece is written inside the quotes. -/
def escapePiece : Utf8.Piece → String
  | .char c => escapeChar c
  | .stray b => "\\x" ++ Hex.ofNatWidth 2 b.toNat

/-- The quoted form of a byte string. -/
def quoteBytes (bs : List UInt8) : String :=
  "\"" ++ String.join ((Utf8.pieces bs).map escapePiece) ++ "\""

/-- The quoted form of a text. -/
def quote (s : String) : String :=
  quoteBytes s.toUTF8.toList

/-- The single-quoted form of one code point: the quote and the backslash get a
backslash, the double quote stays as it is, and every other code point is written as
inside double quotes. -/
def quoteCode (c : Nat) : String :=
  let body :=
    if c = 39 ∨ c = 92 then "\\" ++ String.singleton (Char.ofNat c)
    else if c = 34 then "\""
    else escapeChar c
  "'" ++ body ++ "'"

end StridedBuffer.Text.Quoted
