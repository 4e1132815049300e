/-! # CRC-32

The CRC-32 of the IEEE polynomial, bit-reflected (`0xEDB88320`), starting from all ones
and inverted at the end, as gzip trailers and headers use it. The table holds the
remainder of every byte value.
-/

namespace StridedBuffer.Crc32

/-- The reflected polynomial. -/
def polynomial : UInt32 := 0xEDB88320

/-- The remainder of one byte value after eight shifts. -/
def entry (n : Nat) : UInt32 :=
  (List.range 8).foldl (fun c _ => if c &&& 1 == 1 then polynomial ^^^ (c >>> 1) else c >>> 1)
    (UInt32.ofNat n)

/-- The remainders of all byte values. -/
def table : Array UInt32 := (Array.range 256).map entry

/-- Continues a running checksum over more bytes. -/
def update (crc : UInt32) (bs : ByteArray) : UInt32 :=
  ~~~(bs.foldl (fun c b => table.getD ((c ^^^ b.toUInt32) &&& 0xFF).toNat 0 ^^^ (c >>> 8)) (~~~crc))

/-- The checksum of a byte string. -/
def checksum (bs : ByteArray) : UInt32 := update 0 bs

end StridedBuffer.Crc32
