/-! # LZ4 blocks

An LZ4 block is a run of sequences. Each sequence is a token (four bits of literal
length, four bits of match length less four, fifteen meaning that more length bytes
follow), the literals, and then, except in a block's last sequence, a two-byte
little-endian offset back into the output and the rest of the match length.

The compressor is the fast greedy one: a 65536-entry table maps a hash of the next five
bytes to the last position seen with that hash, candidates are tried at the current
position and the two after it, a match is extended backwards over pending literals and
forwards eight bytes at a time while those eight bytes end before the last fourteen, and
the scan skips ahead faster the longer it goes without a match. No match may start in
the last fourteen bytes, so a block's last sequence always holds literals.
-/

namespace StridedBuffer.Lz4

/-- The little-endian word of `n` bytes at `pos`; bytes past the end read as zero. -/
def word (bs : ByteArray) (pos n : Nat) : Nat :=
  (List.range n).foldr (fun i acc => acc * 256 + (bs[pos + i]?.getD 0).toNat) 0

/-- The shortest match, the window size, and the distance from the end within which no
match may start. -/
def minMatch : Nat := 4
def window : Nat := 65536
def matchLimit : Nat := 14

/-- The table slot of the five low bytes of `x`. -/
def hash (x : UInt64) : Nat :=
  (((x &&& 0xFFFFFFFFFF) * 227718039650203) >>> 48).toNat

/-- Unused table slots hold this value; used ones hold a position modulo the window. -/
def unused : UInt32 := 0xFFFFFFFF

/-- The position a slot points to, read relative to the window that holds `si`; it may
be negative or otherwise out of reach, which the caller checks. -/
def lookup (table : Array UInt32) (h si : Nat) : Int :=
  let raw := table.getD h unused
  let i : Int := (if raw = unused then 0 else raw.toNat) + (si / window * window : Nat)
  if i ≥ si then i - window else i

/-- The table with slot `h` pointing at `si`. -/
def store (table : Array UInt32) (h si : Nat) : Array UInt32 :=
  table.setIfInBounds h (UInt32.ofNat (si % window))

/-- The bytes of a length above fifteen: runs of 255 and a last byte. -/
def lengthBytes (n : Nat) : List UInt8 :=
  List.replicate (n / 255) 0xFF ++ [UInt8.ofNat (n % 255)]

/-- The compressor's state: the scan position, the start of pending literals, the output
and the table. -/
structure State where
  si : Nat
  anchor : Nat
  out : ByteArray
  table : Array UInt32

/-- A sequence: its literals, then a match of `mLen + 4` bytes at `offset`. -/
def emit (src : ByteArray) (out : ByteArray) (anchor lLen offset mLen : Nat) : ByteArray :=
  let token : UInt8 := UInt8.ofNat (min mLen 15) ||| (if lLen < 15 then UInt8.ofNat (lLen * 16) else 0xF0)
  let out := out.push token
  let out := if lLen ≥ 15 then out ++ ⟨(lengthBytes (lLen - 15)).toArray⟩ else out
  let out := out ++ src.extract anchor (anchor + lLen)
  let out := (out.push (UInt8.ofNat offset)).push (UInt8.ofNat (offset / 256))
  if mLen ≥ 15 then out ++ ⟨(lengthBytes (mLen - 15)).toArray⟩ else out

/-- Steps back over pending literals while the bytes before the match agree. -/
def extendBack (src : ByteArray) : Nat → Nat → Int → Nat → Nat × Nat × Nat
  | 0, si, _, lLen => (si, 0, lLen)
  | fuel + 1, si, tOff, lLen =>
      if lLen > 0 ∧ tOff ≥ 0 ∧ si ≥ 1 ∧ src[si - 1]?.getD 0 = src[tOff.toNat]?.getD 0 then
        let r := extendBack src fuel (si - 1) (tOff - 1) (lLen - 1)
        (r.1, r.2.1 + 1, r.2.2)
      else (si, 0, lLen)

/-- How many of the eight bytes from `si` agree with those `offset` back, counting from
the first up to the first that differs. -/
def agreeing (src : ByteArray) (si offset : Nat) : Nat :=
  ((List.range 8).takeWhile fun i => src[si + i]?.getD 0 = src[si - offset + i]?.getD 0).length

/-- Steps forward over the match in groups of eight bytes, for as long as a whole group
ends at or before `stop`: a group that agrees throughout is passed, and in one that does
not, only its agreeing bytes are. -/
def extendForward (src : ByteArray) (stop offset : Nat) : Nat → Nat → Nat
  | 0, si => si
  | fuel + 1, si =>
      if si + 8 ≤ stop then
        let same := agreeing src si offset
        if same = 8 then extendForward src stop offset fuel (si + 8) else si + same
      else si

/-- Whether a candidate position holds a match for the four bytes `w` at distance
`offset`. -/
def holdsMatch (src : ByteArray) (ref offset : Int) (w : Nat) : Bool :=
  offset > 0 && offset < window && ref ≥ 0 && word src ref.toNat 4 == w

/-- Records a match found at `si`, `offset` back, and moves past it. -/
def takeMatch (src : ByteArray) (st : State) (si offset : Nat) : State :=
  let lLen := si - st.anchor
  let (si, back, lLen) := extendBack src lLen si ((si : Int) - offset - 1) lLen
  let base := si + minMatch
  let si := extendForward src (src.size - matchLimit) offset src.size (si + minMatch + back)
  let out := emit src st.out st.anchor lLen offset (si - base)
  { st with si := si, anchor := si, out := out }

/-- The main scan. -/
def scan (src : ByteArray) (sn : Nat) : Nat → State → State
  | 0, st => st
  | fuel + 1, st =>
      if st.si ≥ sn then st
      else
        let si := st.si
        let m := UInt64.ofNat (word src si 8)
        let h := hash m
        let h2 := hash (m >>> 8)
        let ref := lookup st.table h si
        let ref2 := lookup st.table h2 (si + 1)
        let table := store (store st.table h si) h2 (si + 1)
        let found : Option (Nat × Nat × Array UInt32) :=
          if holdsMatch src ref (si - ref) (m.toNat % Nat.pow 2 32) then some (si, (si - ref).toNat, table)
          else
            let h3 := hash (m >>> 16)
            let ref3 := lookup table h3 (si + 2)
            if holdsMatch src ref2 (si + 1 - ref2) ((m >>> 8).toNat % Nat.pow 2 32) then
              some (si + 1, (si + 1 - ref2).toNat, table)
            else
              let table := store table h3 (si + 2)
              if holdsMatch src ref3 (si + 2 - ref3) ((m >>> 16).toNat % Nat.pow 2 32) then
                some (si + 2, (si + 2 - ref3).toNat, table)
              else none
        match found with
        | none =>
            let table := store (store (store st.table h si) h2 (si + 1)) (hash (m >>> 16)) (si + 2)
            let si := si + 2
            scan src sn fuel { st with si := si + 2 + (si - st.anchor) / 128, table := table }
        | some (start, offset, table) =>
            let st := takeMatch src { st with table := table } start offset
            if st.si ≥ sn then st
            else
              let h := hash (UInt64.ofNat (word src (st.si - 2) 8))
              scan src sn fuel { st with table := store st.table h (st.si - 2) }

/-- The last literals, as a final sequence without a match. -/
def lastLiterals (src : ByteArray) (st : State) : ByteArray :=
  let lLen := src.size - st.anchor
  let out := st.out.push (if lLen < 15 then UInt8.ofNat (lLen * 16) else 0xF0)
  let out := if lLen ≥ 15 then out ++ ⟨(lengthBytes (lLen - 15)).toArray⟩ else out
  out ++ src.extract st.anchor src.size

/-- The LZ4 block of `src`. -/
def compress (src : ByteArray) : ByteArray :=
  let st : State := ⟨0, 0, ByteArray.empty, Array.replicate 65536 unused⟩
  if src.size ≤ matchLimit then lastLiterals src st
  else lastLiterals src (scan src (src.size - matchLimit) (src.size + 1) st)

/-- A length continued by bytes from `si`: each byte is added, and 255 means another
follows. -/
def moreLength (src : ByteArray) : Nat → Nat → Nat → Option (Nat × Nat)
  | 0, _, _ => none
  | fuel + 1, si, acc =>
      match src[si]? with
      | none => none
      | some x =>
          if x = 0xFF then moreLength src fuel (si + 1) (acc + 255)
          else some (acc + x.toNat, si + 1)

/-- Appends `n` bytes copied from `offset` back, one at a time so that the copy may
overlap what it writes. -/
def copyMatch (out : ByteArray) (offset : Nat) : Nat → ByteArray
  | 0 => out
  | n + 1 => copyMatch (out.push (out[out.size - offset]?.getD 0)) offset n

/-- Decodes sequences from `si` into `out`, which may grow to `limit` bytes. -/
def decodeFrom (src : ByteArray) (limit : Nat) : Nat → Nat → ByteArray → Option ByteArray
  | 0, _, _ => none
  | fuel + 1, si, out =>
      if si ≥ src.size then some out
      else
        let b := (src[si]?.getD 0).toNat
        let si := si + 1
        let lit : Option (Nat × Nat) :=
          if b / 16 = 15 then moreLength src (src.size + 1) si 15 else some (b / 16, si)
        match lit with
        | none => none
        | some (lLen, si) =>
            if si + lLen > src.size ∨ out.size + lLen > limit then none
            else
              let out := out ++ src.extract si (si + lLen)
              let si := si + lLen
              if si = src.size ∧ b % 16 = 0 then some out
              else if si + 2 > src.size then none
              else
                let offset := word src si 2
                let si := si + 2
                let ml : Option (Nat × Nat) :=
                  if b % 16 = 15 then moreLength src (src.size + 1) si 19 else some (b % 16 + 4, si)
                match ml with
                | none => none
                | some (mLen, si) =>
                    if offset = 0 ∨ offset > out.size ∨ out.size + mLen > limit then none
                    else decodeFrom src limit fuel si (copyMatch out offset mLen)

/-- The bytes an LZ4 block decodes to, at most `limit` of them; none when the block is
malformed or decodes to more. An empty block decodes to nothing. -/
def decompress (src : ByteArray) (limit : Nat) : Option ByteArray :=
  if src.size = 0 then some ByteArray.empty
  else decodeFrom src limit (src.size + 1) 0 ByteArray.empty

end StridedBuffer.Lz4
