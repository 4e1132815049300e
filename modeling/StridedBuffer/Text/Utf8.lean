/-! # Reading UTF-8 byte by byte

A byte string is read as a sequence of pieces: a well-formed UTF-8 sequence gives its
code point, and a byte that starts no well-formed sequence stands for itself. Overlong
forms, surrogates and code points above `0x10FFFF` are not well formed, so each of their
bytes is a stray byte.
-/

namespace StridedBuffer.Text.Utf8

/-- One piece of a byte string: a decoded code point, or a byte that does not begin a
well-formed sequence. -/
inductive Piece where
  | char (code : Nat)
  | stray (byte : UInt8)
  deriving DecidableEq, Repr, Inhabited

/-- Whether a byte lies in a closed range. -/
@[inline] def inRange (b : UInt8) (lo hi : Nat) : Bool :=
  lo ≤ b.toNat && b.toNat ≤ hi

/-- Whether a byte continues a sequence. -/
@[inline] def isTail (b : UInt8) : Bool := inRange b 0x80 0xBF

/-- The accepted range of the second byte of a sequence led by `b0`. -/
def secondRange (b0 : Nat) : Nat × Nat :=
  if b0 = 0xE0 then (0xA0, 0xBF)
  else if b0 = 0xED then (0x80, 0x9F)
  else if b0 = 0xF0 then (0x90, 0xBF)
  else if b0 = 0xF4 then (0x80, 0x8F)
  else (0x80, 0xBF)

/-- The first piece of a nonempty byte string and the number of bytes it takes. -/
def first (b0 : UInt8) (rest : List UInt8) : Piece × Nat :=
  let n := b0.toNat
  let stray := (Piece.stray b0, 1)
  if n < 0x80 then (.char n, 1)
  else if 0xC2 ≤ n ∧ n ≤ 0xDF then
    match rest with
    | b1 :: _ => if isTail b1 then (.char ((n - 0xC0) * 64 + (b1.toNat - 0x80)), 2) else stray
    | [] => stray
  else if 0xE0 ≤ n ∧ n ≤ 0xEF then
    match rest with
    | b1 :: b2 :: _ =>
        let r := secondRange n
        if inRange b1 r.1 r.2 && isTail b2 then
          (.char ((n - 0xE0) * 4096 + (b1.toNat - 0x80) * 64 + (b2.toNat - 0x80)), 3)
        else stray
    | _ => stray
  else if 0xF0 ≤ n ∧ n ≤ 0xF4 then
    match rest with
    | b1 :: b2 :: b3 :: _ =>
        let r := secondRange n
        if inRange b1 r.1 r.2 && isTail b2 && isTail b3 then
          (.char ((n - 0xF0) * 262144 + (b1.toNat - 0x80) * 4096 + (b2.toNat - 0x80) * 64 +
            (b3.toNat - 0x80)), 4)
        else stray
    | _ => stray
  else stray

/-- All pieces of a byte string, in order. -/
def pieces (bs : List UInt8) : List Piece :=
  match bs with
  | [] => []
  | b0 :: rest =>
      let p := first b0 rest
      p.1 :: pieces (rest.drop (p.2 - 1))
termination_by bs.length
decreasing_by
  simp only [List.length_drop, List.length_cons]
  omega

end StridedBuffer.Text.Utf8
