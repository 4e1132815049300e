import StridedBuffer.Report.View
import StridedBuffer.Buffer.Descriptor

/-! # Documents for descriptors and storages -/

namespace StridedBuffer.Report

/-- A storage's counters. -/
def storageCounts (s : Storage) : Doc :=
  .record [("pinned", .bool s.pinned), ("refs", .int s.refs.toInt), ("released", .bool s.released)]

/-- A descriptor's fields, with the memory it hands over. -/
def descriptor (d : Descriptor) (s : Storage) : Doc :=
  .record [("buf_null", .bool d.bufNull),
    ("bytes", match d.window s with | some w => .text (Text.Hex.encode w) | none => .null),
    ("dtype", .text d.dtype.name), ("flags", .int d.flags.toInt),
    ("flags_str", .text d.flags.text), ("format", .text d.formatText),
    ("format_nul", .bool d.released), ("itemsize", .int d.itemSize),
    ("len", .int d.len.toInt), ("ndim", .int d.ndim), ("readonly", .bool false),
    ("released", .bool d.released), ("shape", words d.shape), ("strides", words d.strides),
    ("suboffsets", .bool true)]

/-- The fixed-layout record a native consumer reads, absent once released. Layout arrays
are handed over only when asked for and when there is at least one dimension. -/
def rawRecord (d : Descriptor) : Doc :=
  if d.released then .null
  else
    let layout := fun (bits : Flags) (xs : List Int64) =>
      if d.flags.has bits && d.ndim > 0 then words xs else Doc.null
    .record [("buf_is_data", .bool true), ("buf_null", .bool d.bufNull),
      ("format", if d.flags.has Flags.format then
        .text (Text.Hex.encode ⟨#[d.dtype.tag.toNat.toUInt8, 0]⟩) else .null),
      ("internal_null", .bool true), ("itemsize", .int d.itemSize), ("len", .int d.len.toInt),
      ("ndim", .int d.ndim), ("obj", .int 0), ("readonly", .int 0), ("record_size", .int 80),
      ("same_as_before", .bool true), ("shape", layout Flags.nd d.shape),
      ("strides", layout Flags.strides d.strides), ("suboffsets_null", .bool true)]

end StridedBuffer.Report
