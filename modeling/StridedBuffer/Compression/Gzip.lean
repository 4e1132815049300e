import StridedBuffer.Compression.Inflate
import StridedBuffer.Compression.Crc32

/-! # Gzip streams

A gzip stream is one or more members. A member is a ten-byte header (`1f 8b 08`, flags,
time, extra flags, system), optional extra field, name, comment and header checksum, a
DEFLATE stream, and a trailer with the CRC-32 and the length modulo `2^32` of the data.
The stream may end after any whole member. A header with a reserved flag bit set is
a failure once its name and comment are read. A name or comment cut short by the end of
the input ends a later member's header like the end of the input would; any other cut
or mismatch is a failure. A name or comment may be at most 511 bytes.
-/

namespace StridedBuffer.Gzip

/-- What decompressing a gzip stream gives: the data, and whether the stream was broken
(the data then being what came before the break). -/
structure Unpacked where
  data : ByteArray
  failed : Bool

/-- Header flags. -/
def flagHeaderCrc : Nat := 2
def flagExtra : Nat := 4
def flagName : Nat := 8
def flagComment : Nat := 16
/-- The three high flag bits are reserved; a header with any of them set is refused. -/
def flagsReserved : Nat := 0xE0

/-- How reading a header ends: the position of the DEFLATE stream, the end of the input
(clean between members), or a failure. -/
inductive HeaderEnd where
  | body (pos : Nat)
  | finished
  | broken

/-- The little-endian word of `n` bytes at `pos`. -/
def littleWord (bs : ByteArray) (pos n : Nat) : Nat :=
  (List.range n).foldr (fun i acc => acc * 256 + (bs[pos + i]?.getD 0).toNat) 0

/-- The position after a zero-terminated string at `pos`: `none` for a string over 511
bytes, and `some none` for one cut by the end of the input. -/
def stringEnd (bs : ByteArray) (pos : Nat) : Option (Option Nat) :=
  let rec go : Nat → Nat → Option (Option Nat)
    | 0, _ => none
    | fuel + 1, i =>
        match bs[pos + i]? with
        | none => some none
        | some 0 => some (some (pos + i + 1))
        | some _ => go fuel (i + 1)
  go 512 0

/-- Reads a member header at `pos`; `first` tells whether it is the first member, for
which the end of the input is a failure. -/
def readHeader (bs : ByteArray) (pos : Nat) (first : Bool) : HeaderEnd :=
  if pos ≥ bs.size then (if first then .broken else .finished)
  else if pos + 10 > bs.size then .broken
  else if bs[pos]? != some 0x1f || bs[pos + 1]? != some 0x8b || bs[pos + 2]? != some 8 then .broken
  else
    let flags := (bs[pos + 3]?.getD 0).toNat
    let afterExtra : Option Nat :=
      if flags &&& flagExtra == 0 then some (pos + 10)
      else if pos + 12 > bs.size then none
      else
        let stop := pos + 12 + littleWord bs (pos + 10) 2
        if stop > bs.size then none else some stop
    match afterExtra with
    | none => .broken
    | some p =>
        let cutEnd := if first then HeaderEnd.broken else HeaderEnd.finished
        let skipString := fun (p : Nat) (flag : Nat) (k : Nat → HeaderEnd) =>
          if flags &&& flag == 0 then k p
          else match stringEnd bs p with
            | none => HeaderEnd.broken
            | some none => cutEnd
            | some (some q) => k q
        skipString p flagName fun p =>
        skipString p flagComment fun p =>
          if flags &&& flagsReserved != 0 then .broken
          else if flags &&& flagHeaderCrc == 0 then .body p
          else if p + 2 > bs.size then .broken
          else
            let crc := (Crc32.checksum (bs.extract pos p)).toNat % 65536
            if crc != littleWord bs p 2 then .broken else .body (p + 2)

/-- Decompresses the members from `pos` on, appending to `acc`. -/
def members (bs : ByteArray) (first : Bool) : Nat → Nat → ByteArray → Unpacked
  | 0, _, acc => ⟨acc, true⟩
  | fuel + 1, pos, acc =>
      match readHeader bs pos first with
      | .finished => ⟨acc, false⟩
      | .broken => ⟨acc, true⟩
      | .body p =>
          let r := Inflate.inflate bs p
          let acc := acc ++ r.output
          if r.failed then ⟨acc, true⟩
          else if r.next + 8 > bs.size then ⟨acc, true⟩
          else if (Crc32.checksum r.output).toNat != littleWord bs r.next 4 ||
              r.output.size % Nat.pow 2 32 != littleWord bs (r.next + 4) 4 then ⟨acc, true⟩
          else members bs false fuel (r.next + 8) acc

/-- Decompresses a gzip stream. -/
def unpack (bs : ByteArray) : Unpacked :=
  members bs true (bs.size + 1) 0 ByteArray.empty

/-- Whether data starts with the gzip magic bytes. -/
def isGzip (bs : ByteArray) : Bool :=
  bs.size ≥ 2 && bs[0]? == some 0x1f && bs[1]? == some 0x8b

end StridedBuffer.Gzip
