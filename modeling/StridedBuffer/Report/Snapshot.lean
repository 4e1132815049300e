import StridedBuffer.Report.View
import StridedBuffer.Snapshot.File

/-! # Documents for snapshots -/

namespace StridedBuffer.Report

open Snapshot

/-- Metadata larger than this many bytes of keys and values is only summarized. -/
def metadataShown : Nat := 4096

/-- A header's fields. The payload length is left out when `withPayloadLen` fails, and
large metadata is given by its key count and byte total. -/
def header (h : Header) (withPayloadLen : Bool := true) : Doc :=
  let size := h.metadata.foldl (fun acc kv => acc + kv.1.utf8ByteSize + kv.2.utf8ByteSize) 0
  let metaField : String × Doc :=
    if size > metadataShown then
      ("metadata_summary", .record [("bytes", .int size), ("keys", .int h.metadata.length)])
    else ("metadata", .record (h.metadata.map fun kv => (kv.1, .text kv.2)))
  .record ([("byte_len", .int h.byteLen.toInt), ("checksum", .text (Text.Hex.encode h.checksum)),
    ("created_at", .text (h.createdAt.text true)), ("format", .text h.format), metaField] ++
    (if withPayloadLen then [("payload_len", .int h.payloadLen.toInt)] else []) ++
    [("shape", words h.shape), ("strides", words h.strides)])

/-- A read file: its header, the view and the storage bytes. -/
def readResult (r : View × Storage × Header) : Outcome Doc := do
  let (v, s, h) := r
  return .record [("header", header h), ("storage", .text (Text.Hex.encode s.bytes)),
    ("view", ← view v s)]

/-- The largest file given in full; larger ones are given by their digest. -/
def fileShown : Nat := 65536

/-- A written file: its flags, its header read back without validation, the file itself
when not compressed, and what a strict read makes of it. -/
def written (file : ByteArray) : Outcome Doc := do
  let src : Source := ⟨file, none⟩
  let (h, flags, _) ← readHeader src .none
  let compressed := flags &&& flagCompressed ≠ 0
  let body : List (String × Doc) :=
    if compressed then []
    else
      (if file.size > fileShown then [("file_blake3", Doc.text (Text.Hex.encode (Blake3.hash file)))]
        else [("file", Doc.text (Text.Hex.encode file))]) ++ [("file_len", .int file.size)]
  let back : List (String × Doc) :=
    match read src false .strict 0 with
    | .error f => [("roundtrip", fault f)]
    | .ok (v, s, _) =>
        match view v s with
        | .ok d => [("roundtrip", d), ("roundtrip_storage", .text (Text.Hex.encode s.bytes))]
        | .error f => [("roundtrip", fault f)]
  return .record ([("compressed", .bool compressed), ("flags", .int flags.toNat),
    ("header", header h (!compressed))] ++ body ++ back)

end StridedBuffer.Report
