import StridedBuffer.Snapshot.Header
import StridedBuffer.Compression.Lz4
import StridedBuffer.Digest.Blake3
import StridedBuffer.View

/-! # Snapshot files

A snapshot file is a fixed prefix (the magic `NDBF`, a little-endian 32-bit version and
flags word, and a 64-bit header length), the CBOR header, and the payload: the storage,
or its LZ4 block when the compressed flag is set.

Reading checks the prefix, decodes and validates the header, reads exactly the payload,
decompresses it, compares its checksum and builds the view; the first failure is the
answer and bytes after the payload are ignored. Writing compresses only when the block
comes out nonempty and strictly smaller than the storage.

The header codec, the block compression and the digest are libraries of their own; the
reader and the writer take them as `Codecs`, the ones linked in by default.
-/

namespace StridedBuffer.Snapshot

open Clock

/-- The libraries a snapshot file goes through: the CBOR codec of its header, the LZ4
block codec of its payload and the digest of its storage. -/
structure Codecs where
  encodeHeader : Header → ByteArray
  decodeHeader : ByteArray → Option Header
  compress : ByteArray → ByteArray
  decompress : ByteArray → Nat → Option ByteArray
  digest : ByteArray → ByteArray

/-- The codecs the program is built with. -/
def Codecs.linked : Codecs where
  encodeHeader := Header.encode
  decodeHeader := Header.decode
  compress := Lz4.compress
  decompress := Lz4.decompress
  digest := Blake3.hash

/-- The bytes a reader takes data from. A source that fails reports `fault` on its
first read. -/
structure Source where
  bytes : ByteArray
  fault : Option String := none

/-- The magic bytes, the version and the size of the fixed prefix. -/
def magic : List UInt8 := [0x4E, 0x44, 0x42, 0x46]
def version : Nat := 1
def prefixSize : Nat := 20

/-- Exactly `n` bytes from `pos`: nothing left is `EOF`, too few is `unexpected EOF`. -/
def readFull (src : Source) (pos n : Nat) : Except String (ByteArray × Nat) :=
  if n = 0 then .ok (ByteArray.empty, pos)
  else match src.fault with
    | some f => .error f
    | none =>
        if pos ≥ src.bytes.size then .error "EOF"
        else if pos + n > src.bytes.size then .error "unexpected EOF"
        else .ok (src.bytes.extract pos (pos + n), pos + n)

/-- A read step, its failure put in context. -/
def step {α : Type} (what : String) (r : Except String α) : Outcome α :=
  match r with
  | .ok a => .ok a
  | .error e => .error (.context what (.plain e))

/-- The level a raw level number stands for: 0 strict, 2 none, and anything else
normal. -/
def Level.ofInt (n : Int) : Level :=
  if n = 0 then .strict else if n = 2 then .none else .normal

/-- The header, the flags and the position after the header. -/
def readHeader (src : Source) (level : Level) (c : Codecs := .linked) :
    Outcome (Header × UInt32 × Nat) := do
  let (fixed, pos) ← step "failed to read fixed header" (readFull src 0 prefixSize)
  if fixed.toList.take 4 ≠ magic then throw (.sentinel .invalidMagic "")
  let ver := Lz4.word fixed 4 4
  if ver ≠ version then
    throw (.sentinel .unsupportedVersion ("got " ++ toString ver ++ ", expected " ++ toString version))
  let flags := UInt32.ofNat (Lz4.word fixed 8 4)
  let size := Lz4.word fixed 12 8
  if size > maxHeaderSize then throw (.sentinel .headerTooLarge "")
  let (raw, pos) ← step "failed to read header" (readFull src pos size)
  let some h := c.decodeHeader raw | throw (.context "failed to unmarshal header" (.codec .cbor))
  match h.validate flags level with
  | .error f => throw (.context "validation failed" f)
  | .ok () => return (h, flags, pos)

/-- The first eight bytes of a digest in hex. -/
def shortHex (b : ByteArray) : String := Text.Hex.encode (b.extract 0 8)

/-- Compares a checksum with the digest of the data. -/
def checkDigest (data stored : ByteArray) (c : Codecs := .linked) : Outcome Unit :=
  let computed := c.digest data
  if computed.toList = stored.toList then .ok ()
  else .error (.sentinel .checksumMismatch
    ("stored " ++ shortHex stored ++ ", computed " ++ shortHex computed))

/-- The digest of everything a source yields; a source that fails fails the hash. -/
def checksumReader (src : Source) (c : Codecs := .linked) : Outcome ByteArray :=
  match src.fault with
  | some f => .error (.context "hashing" (.plain f))
  | none => .ok (c.digest src.bytes)

/-- The storage bytes of a payload. -/
def unpack (payload : ByteArray) (flags : UInt32) (h : Header) (c : Codecs := .linked) :
    Outcome ByteArray :=
  if flags &&& flagCompressed ≠ 0 then
    let want := h.byteLen.toInt.toNat
    match c.decompress payload want with
    | none => .error (.context "lz4 decompress" (.codec .lz4))
    | some data =>
        if data.size ≠ want then
          .error (.plain ("lz4 decompress: got " ++ toString data.size ++ " bytes, expected " ++
            toString want))
        else .ok data
  else if (payload.size : Int) ≠ h.byteLen.toInt then
    .error (.plain ("payload is " ++ toString payload.size ++ " bytes, header says " ++
      toString h.byteLen.toInt))
  else .ok payload

/-- A view over a new storage `id` holding the file's storage, with the storage and the
header. -/
def read (src : Source) (skipChecksum : Bool) (level : Level) (id : Nat) (c : Codecs := .linked) :
    Outcome (View × Storage × Header) := do
  let (h, flags, pos) ← readHeader src level c
  let t ← DataType.parseFormat h.format.toUTF8.toList
  let lens := "byte_len=" ++ toString h.byteLen.toInt ++ ", payload_len=" ++ toString h.payloadLen.toInt
  if h.payloadLen < 0 ∨ h.payloadLen.toInt > maxPayloadSize ∨ h.byteLen < 0 ∨
      h.byteLen.toInt > maxPayloadSize then
    throw (.sentinel .payloadTooLarge lens)
  let (payload, _) ← step "failed to read payload" (readFull src pos h.payloadLen.toInt.toNat)
  let data ← unpack payload flags h c
  if !skipChecksum then checkDigest data h.checksum c
  let (v, s) ← newView (some (id, Storage.ofBytes data)) h.shape h.strides t.code
  return (v, s, h)

/-- What a write puts in the file besides the view. -/
structure WriteOptions where
  compress : Bool := false
  metadata : List (String × String) := []
  /-- The creation time to record; the zero instant leaves it to the clock. -/
  createdAt : Instant := Instant.zero
  /-- The number of bytes the destination accepts, when limited. -/
  capacity : Option Nat := none

/-- The creation time a write records when the clock reads `now`. -/
def WriteOptions.stamp (opts : WriteOptions) (now : Instant) : Instant :=
  if opts.createdAt.isZero then now else opts.createdAt

theorem WriteOptions.stamp_of_given {opts : WriteOptions} (h : opts.createdAt.isZero = false)
    (now : Instant) : opts.stamp now = opts.createdAt := by
  simp [stamp, h]

theorem WriteOptions.stamp_of_zero {opts : WriteOptions} (h : opts.createdAt.isZero = true)
    (now : Instant) : opts.stamp now = now := by
  simp [stamp, h]

/-- The payload and flags of the storage bytes. -/
def pack (data : ByteArray) (opts : WriteOptions) (c : Codecs := .linked) : ByteArray × UInt32 :=
  let (payload, flags) :=
    if opts.compress then
      let block := c.compress data
      if 0 < block.size ∧ block.size < data.size then (block, flagCompressed) else (data, 0)
    else (data, 0)
  (payload, if opts.metadata.isEmpty then flags else flags ||| flagHasMetadata)

/-- The little-endian bytes of `n` in `w` bytes. -/
def littleBytes (w n : Nat) : List UInt8 :=
  (List.range w).map fun i => UInt8.ofNat (n / Nat.pow 256 i)

/-- The file holding view `v` of storage `s`, written when the clock reads `now`. -/
def write (v : View) (s : Storage) (opts : WriteOptions) (now : Instant) (c : Codecs := .linked) :
    Outcome ByteArray := do
  if v.released then throw (.context "write" .released)
  let data ← s.data
  let (payload, flags) := pack data opts c
  let h : Header :=
    { format := v.dtype.tagText, shape := v.shape, strides := v.strides,
      byteLen := Int64.ofNat data.size, payloadLen := Int64.ofNat payload.size,
      checksum := c.digest data, createdAt := (opts.stamp now).utc, metadata := opts.metadata }
  let cbor := c.encodeHeader h
  if cbor.size > maxHeaderSize then throw (.sentinel .headerTooLarge "")
  let fixed : ByteArray :=
    ⟨(magic ++ littleBytes 4 version ++ littleBytes 4 flags.toNat ++ littleBytes 8 cbor.size).toArray⟩
  let full := fun (what : String) => Fault.context ("failed to write " ++ what) (.plain "writer full")
  match opts.capacity with
  | some cap =>
      if fixed.size > cap then throw (full "fixed header")
      if fixed.size + cbor.size > cap then throw (full "header")
      if fixed.size + cbor.size + payload.size > cap then throw (full "payload")
  | none => pure ()
  return fixed ++ cbor ++ payload

end StridedBuffer.Snapshot
