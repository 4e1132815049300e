import StridedBuffer.Report.Snapshot
import StridedBuffer.Files.Tree

/-! # Documents for files a run leaves behind

A file a run has created or changed is described by its bytes, except a snapshot file
(named `….ndb`), which is read back with strict validation and described by its header,
its storage and its view. The header leaves out the creation time and the payload length,
and says instead whether the payload is compressed and whether a time is set.
-/

namespace StridedBuffer.Report

open Snapshot

/-- A stored header, without its creation time and payload length. -/
def storedHeader (h : Header) : Doc :=
  let fields := match header h false with
    | .record fs => fs.filter (·.1 != "created_at")
    | _ => []
  .record (fields ++ [("compressed", .bool (h.payloadLen != h.byteLen)),
    ("created_at_zero", .bool h.createdAt.isZero)])

/-- A file left behind at `path`. -/
def leftFile (path : String) (data : ByteArray) : Doc :=
  if path.endsWith ".ndb" then
    match read ⟨data, none⟩ false .strict 0 with
    | .error f => .record [("read", fault f)]
    | .ok (v, s, h) =>
        match view v s with
        | .ok d => .record [("header", storedHeader h), ("storage", .text (Text.Hex.encode s.bytes)),
            ("view", d)]
        | .error f => .record [("read", fault f)]
  else .record [("hex", .text (Text.Hex.encode data))]

/-- The files of `after` that are new or changed since `before`, by path. -/
def leftFiles (before after : Files.Tree) : Doc :=
  .record ((Files.Tree.changedFiles before after).map fun (p, data) => (p, leftFile p data))

end StridedBuffer.Report
