import StridedBuffer.Snapshot.Cbor
import StridedBuffer.Clock.Time
import StridedBuffer.Text.Blank
import StridedBuffer.Binary.Convert
import StridedBuffer.Element.Tag
import StridedBuffer.Fault

/-! # Snapshot headers

A snapshot file describes its storage in a header: the format tag, the layout, the
lengths of the storage and of the stored payload, a BLAKE3 checksum of the storage, the
creation time and free-form metadata.

On disk the header is a CBOR map keyed by field name, written in the deterministic order
(shorter keys first, then bytewise). Reading matches keys exactly, then ignoring ASCII
case; the first key that matches a field wins and later ones are skipped, unknown keys
are skipped, and integer keys name no field. A null or undefined value, also inside
tags, leaves a field at its zero value. Tag numbers are looked through, except that the
time and bignum tags must hold content of their kind. An integer field also takes a
bignum, or a simple value other than false, true, null and undefined, as its number. A
text is valid only when each of its chunks is valid UTF-8.
-/

namespace StridedBuffer.Snapshot

open Cbor Clock

/-- A snapshot header. -/
structure Header where
  format : String := ""
  shape : List Int64 := []
  strides : List Int64 := []
  byteLen : Int64 := 0
  payloadLen : Int64 := 0
  checksum : ByteArray := ByteArray.empty
  createdAt : Instant := Instant.zero
  /-- Metadata entries with distinct keys. -/
  metadata : List (String × String) := []

/-- The field names, in the order the writer puts them. -/
def fieldNames : List String :=
  ["shape", "format", "strides", "byte_len", "checksum", "metadata", "created_at", "payload_len"]

/-- The text of a text item, if each of its chunks is valid UTF-8 on its own. -/
def textOf (chunks : List ByteArray) : Option String :=
  (chunks.mapM String.fromUTF8?).map String.join

/-- Whether a tag's content is of the kind the tag requires. -/
def tagAdmits (n : Nat) (x : Item) : Bool :=
  match n, x with
  | 0, .text _ => true
  | 0, _ => false
  | 1, .unsigned _ | 1, .negative _ | 1, .float .. => true
  | 1, _ => false
  | 2, .bytes _ | 3, .bytes _ => true
  | 2, _ | 3, _ => false
  | _, _ => true

/-- Whether every tag around an item admits its content. -/
def tagsAdmit : Item → Bool
  | .tag n x => tagAdmits n x && tagsAdmit x
  | _ => true

/-- Whether an item is null or undefined. -/
def isNil : Item → Bool
  | .simple 22 | .simple 23 => true
  | _ => false

/-- The content inside the tags of an item, other than bignum tags. -/
def untag : Item → Item
  | .tag n x => if n = 2 ∨ n = 3 then .tag n x else untag x
  | x => x

/-- The content inside all the tags of an item. -/
def stripTags : Item → Item
  | .tag _ x => stripTags x
  | x => x

/-- Whether an item is null or undefined inside its tags: read into a field, it leaves
the field as it was. -/
def isVoid (x : Item) : Bool := isNil (untag x)

/-- The largest signed word. -/
def maxWord : Nat := Nat.pow 2 63 - 1

/-- The integer an item gives when read into an integer field: an integer, a bignum, or
a simple value other than false, true, null and undefined, which gives its number. -/
def integerOf (x : Item) : Option Int :=
  match untag x with
  | .unsigned n => some n
  | .negative n => some (-1 - (n : Int))
  | .simple n => if 20 ≤ n ∧ n ≤ 23 then none else some n
  | .tag 2 (.bytes b) => some (bigEndian b 0 b.size)
  | .tag 3 (.bytes b) => some (-1 - (bigEndian b 0 b.size : Int))
  | _ => none

/-- An item read as a signed word. -/
def asWord (x : Item) : Option Int64 :=
  (integerOf x).bind fun i =>
    if -1 - (maxWord : Int) ≤ i ∧ i ≤ maxWord then some (Int64.ofInt i) else none

/-- An item read as a byte value. -/
def asByte (x : Item) : Option UInt8 :=
  (integerOf x).bind fun i => if 0 ≤ i ∧ i < 256 then some (UInt8.ofNat i.toNat) else none

/-- An item read as text. -/
def asText (x : Item) : Option String :=
  match untag x with
  | .text cs => textOf cs
  | _ => none

/-- An item read as a list of words; an element that is null inside its tags reads as
zero. -/
def asWords (x : Item) : Option (List Int64) :=
  match untag x with
  | .array xs => xs.mapM fun e => if !tagsAdmit e then none else if isVoid e then some 0 else asWord e
  | _ => none

/-- An item read as bytes: a byte string, a bignum's bytes, or an array of byte values. -/
def asBytes (x : Item) : Option ByteArray :=
  match untag x with
  | .bytes b => some b
  | .tag _ (.bytes b) => some b
  | .array xs =>
      (xs.mapM fun e =>
        if !tagsAdmit e then none
        else if isVoid e then some (0 : UInt8)
        else asByte e).map fun bs => ⟨bs.toArray⟩
  | _ => none

/-- Seconds and nanoseconds of a float time, truncated toward zero as a machine would. -/
def floatSeconds (width bits : Nat) : Option Instant :=
  let d : Nat :=
    if width = 16 then (Binary.singleToDouble (Binary.halfToSingle (UInt16.ofNat bits))).toNat
    else if width = 32 then (Binary.singleToDouble (UInt32.ofNat bits)).toNat
    else bits
  let f := Binary.Format.double
  let neg := f.negative d
  match f.magnitude d with
  | .nan | .infinite => some Instant.zero
  | .zero => some (ofUnix 0 0)
  | .finite m e =>
      let num := m * Nat.pow 2 e.toNat
      let den := Nat.pow 2 (-e).toNat
      let whole := num / den
      -- the fractional part times 10^9, rounded to a double, then truncated
      let fracBits := f.nearest false ((num % den) * 1000000000) den
      let fracNanos := match f.magnitude fracBits with
        | .finite m2 e2 => m2 * Nat.pow 2 e2.toNat / Nat.pow 2 (-e2).toNat
        | _ => 0
      let sec : Int := if whole > maxWord then -Nat.pow 2 63 else (if neg then -(whole : Int) else whole)
      let nsec : Int := if neg then -(fracNanos : Int) else fracNanos
      some (ofUnix sec nsec)

/-- An item read as a time, whatever tags enclose it: RFC 3339 text, or seconds since the
epoch as an integer or float. -/
def asTime (x : Item) : Option Instant :=
  match stripTags x with
  | .text cs => (textOf cs).bind Clock.parse
  | .unsigned n => if n ≤ maxWord then some (ofUnix n 0) else none
  | .negative n => if n ≤ maxWord then some (ofUnix (-1 - n) 0) else none
  | .float w b => floatSeconds w b
  | _ => none

/-- Reads one metadata entry after `key` and `value`, the last key and value read: a key
or value that is null inside its tags repeats the last one, and a later key replaces
an earlier one. -/
def metadataEntry (acc : List (String × String) × String × String) (kv : Item × Item) :
    Option (List (String × String) × String × String) := do
  let (entries, key, value) := acc
  if !tagsAdmit kv.1 then none
  let key ← if isVoid kv.1 then some key else asText kv.1
  if !tagsAdmit kv.2 then none
  let value ← if isVoid kv.2 then some value else asText kv.2
  some ((entries.filter (·.1 != key)) ++ [(key, value)], key, value)

/-- An item read as a text-to-text map. -/
def asTextMap (x : Item) : Option (List (String × String)) :=
  match untag x with
  | .map kvs => (kvs.foldlM metadataEntry ([], "", "")).map (·.1)
  | _ => none

/-- The header with one field set from an item. -/
def setField (h : Header) (name : String) (x : Item) : Option Header :=
  if !tagsAdmit x then none
  else if isVoid x then some h
  else match name with
    | "format" => (asText x).map fun v => { h with format := v }
    | "shape" => (asWords x).map fun v => { h with shape := v }
    | "strides" => (asWords x).map fun v => { h with strides := v }
    | "byte_len" => (asWord x).map fun v => { h with byteLen := v }
    | "payload_len" => (asWord x).map fun v => { h with payloadLen := v }
    | "checksum" => (asBytes x).map fun v => { h with checksum := v }
    | "created_at" => (asTime x).map fun v => { h with createdAt := v }
    | "metadata" => (asTextMap x).map fun v => { h with metadata := v }
    | _ => some h

/-- Whether two ASCII texts are equal ignoring case, byte for byte. -/
def foldEq (a b : String) : Bool :=
  a.utf8ByteSize == b.utf8ByteSize && Text.lowerKey a == Text.lowerKey b &&
    a.toList.all (·.toNat < 128)

/-- The field a key names, if any. -/
def fieldOf (key : String) : Option String :=
  match fieldNames.find? (· == key) with
  | some f => some f
  | none => fieldNames.find? (foldEq key)

/-- Reads the entries of the header map in order; `seen` lists the fields already set. -/
def readEntries (h : Header) (seen : List String) : List (Item × Item) → Option Header
  | [] => some h
  | (k, v) :: rest =>
      match k with
      | .text cs => do
          let key ← textOf cs
          match fieldOf key with
          | none => readEntries h seen rest
          | some f =>
              if seen.contains f then readEntries h seen rest
              else do
                let h ← setField h f v
                readEntries h (f :: seen) rest
      | .unsigned _ => readEntries h seen rest
      | .negative n => if n ≤ maxWord then readEntries h seen rest else none
      | _ => none

/-- The header encoded in CBOR, if it decodes. -/
def Header.decode (bs : ByteArray) : Option Header := do
  let x ← Cbor.decode bs
  if !tagsAdmit x then none
  else if isVoid x then some {}
  else match untag x with
    | .map kvs => readEntries {} [] kvs
    | _ => none

/-- The header in deterministic CBOR. The creation time is RFC 3339 text in UTC, and the
metadata is left out when empty. -/
def Header.encode (h : Header) : ByteArray :=
  let ints := fun (xs : List Int64) => encodeInts (xs.map Int64.toInt)
  let metaPairs := (h.metadata.mergeSort fun a b =>
    decide (a.1.utf8ByteSize < b.1.utf8ByteSize) ||
      (a.1.utf8ByteSize == b.1.utf8ByteSize && decide (a.1 ≤ b.1))).map fun kv =>
        (encodeText kv.1, encodeText kv.2)
  let entries : List (String × ByteArray) :=
    [("shape", ints h.shape), ("format", encodeText h.format), ("strides", ints h.strides),
      ("byte_len", encodeInt h.byteLen.toInt), ("checksum", encodeBytes h.checksum)] ++
    (if h.metadata.isEmpty then [] else [("metadata", encodeMap metaPairs)]) ++
    [("created_at", encodeText (h.createdAt.utc.text true)),
      ("payload_len", encodeInt h.payloadLen.toInt)]
  encodeMap (entries.map fun e => (encodeText e.1, e.2))

/-- How much of a header is checked. -/
inductive Level where
  | strict
  | normal
  | none
  deriving DecidableEq, Repr

/-- The largest header and the largest storage a snapshot may have. -/
def maxHeaderSize : Nat := 1024 * 1024
def maxPayloadSize : Int := 4 * Nat.pow 2 30
def maxRank : Nat := 64
def maxMetadataSize : Nat := 256 * 1024
def maxMetadataKeys : Nat := maxMetadataSize / 16

/-- The payload is an LZ4 block. -/
def flagCompressed : UInt32 := 1
/-- The header has metadata. -/
def flagHasMetadata : UInt32 := 2

/-- Why metadata is too large, if it is. -/
def metadataProblem (entries : List (String × String)) : Option Fault :=
  let size := entries.foldl (fun acc kv => acc + kv.1.utf8ByteSize + kv.2.utf8ByteSize) 0
  if entries.length > maxMetadataKeys then
    some (.validation "metadata_too_large" "metadata"
      (toString entries.length ++ " keys, max " ++ toString maxMetadataKeys))
  else if size > maxMetadataSize then
    some (.validation "metadata_too_large" "metadata"
      (toString size ++ " bytes, max " ++ toString maxMetadataSize))
  else none

/-- Checks a decoded header against the flags of the file. -/
def Header.validate (h : Header) (flags : UInt32) (level : Level) : Outcome Unit :=
  if level = .none then .ok ()
  else match DataType.parseFormat h.format.toUTF8.toList with
  | .error f => .error (.validation "unsupported_format" "format" f.message)
  | .ok _ =>
    if h.shape.length ≠ h.strides.length then
      .error (.validation "rank_mismatch" "strides"
        (toString h.shape.length ++ " extents, " ++ toString h.strides.length ++ " strides"))
    else if h.shape.length > maxRank then
      .error (.validation "rank_too_large" "shape"
        ("rank " ++ toString h.shape.length ++ " > max " ++ toString maxRank))
    else if h.byteLen < 0 ∨ h.payloadLen < 0 then
      .error (.validation "negative_size" ""
        ("byte_len=" ++ toString h.byteLen.toInt ++ ", payload_len=" ++ toString h.payloadLen.toInt))
    else if h.byteLen.toInt > maxPayloadSize ∨ h.payloadLen.toInt > maxPayloadSize then
      .error (.sentinel .payloadTooLarge
        ("byte_len=" ++ toString h.byteLen.toInt ++ ", payload_len=" ++ toString h.payloadLen.toInt))
    else if flags &&& flagCompressed = 0 ∧ h.payloadLen ≠ h.byteLen then
      .error (.validation "payload_size" "payload_len"
        ("uncompressed payload of " ++ toString h.payloadLen.toInt ++ " bytes for " ++
          toString h.byteLen.toInt ++ "-byte storage"))
    else if h.checksum.size ≠ 32 then
      .error (.validation "invalid_checksum" "checksum"
        ("length " ++ toString h.checksum.size ++ ", want 32"))
    else if level = .strict then
      match metadataProblem h.metadata with
      | some f => .error f
      | none => .ok ()
    else .ok ()

end StridedBuffer.Snapshot
