import StridedBuffer.Report.View
import StridedBuffer.Host.Buffer

/-! # Documents for host buffers -/

namespace StridedBuffer.Report

/-- A host buffer: its text, its view and the bytes of its storage. -/
def hostBuffer (v : View) (s : Storage) : Outcome Doc := do
  let data ← s.data
  let str ← bufferText v s
  let info ← view v s
  return .record [("storage_hex", .text (Text.Hex.encode data)), ("string", .text str),
    ("view", info)]

end StridedBuffer.Report
