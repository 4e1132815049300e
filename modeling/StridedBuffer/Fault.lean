import StridedBuffer.Text.Quoted
import StridedBuffer.Text.Listing

/-! # Failures

Every operation that can fail reports a `Fault`. A fault is a leaf saying what went
wrong, inside any number of context layers saying where: the message is the contexts
and the leaf joined by `": "`, and the kind is the leaf's. A codec leaf carries no text of
its own, so its message stops at the innermost context.
-/

namespace StridedBuffer

/-- The fixed failures of the snapshot reader. -/
inductive Sentinel where
  | invalidMagic
  | unsupportedVersion
  | headerTooLarge
  | payloadTooLarge
  | checksumMismatch
  deriving DecidableEq, Repr

/-- Decoders whose own diagnostics are not reported. -/
inductive Codec where
  | cbor
  | lz4
  | yaml
  | gzip
  deriving DecidableEq, Repr

/-- What went wrong, and where. -/
inductive Fault where
  /-- A format tag outside the ten known ones; the tag's bytes. -/
  | format (tag : List UInt8)
  /-- Host elements that do not fit the requested format. -/
  | extraction (container format reason : String)
  /-- A shape and strides that do not fit a storage. -/
  | shape (extents strides : List Int64) (itemSize storageLen : Int64) (reason : String)
  /-- A snapshot header that decodes but describes an impossible view. -/
  | validation (kind field details : String)
  | released
  | notContiguous
  /-- A fixed reader failure with optional detail text. -/
  | sentinel (s : Sentinel) (detail : String)
  | invalidIdx (detail : String)
  | codec (c : Codec)
  /-- A broken invariant that stops the operation outright. -/
  | panic (text : String)
  /-- A request that names something that does not exist or is malformed. -/
  | request (text : String)
  | plain (text : String)
  | context (place : String) (cause : Fault)
  deriving Repr, Inhabited

/-- The kinds of failures, in the order in which they are told apart. -/
inductive FaultKind where
  | badInput
  | panic
  | unsupportedFormat
  | extraction
  | shapeMismatch
  | validation
  | released
  | notContiguous
  | invalidMagic
  | unsupportedVersion
  | headerTooLarge
  | payloadTooLarge
  | checksumMismatch
  | invalidIdx
  | cbor
  | lz4
  | yaml
  | gzip
  | error
  deriving DecidableEq, Repr

namespace Sentinel

/-- The fixed text of a sentinel. -/
def text : Sentinel → String
  | invalidMagic => "not an .ndb file"
  | unsupportedVersion => "unsupported .ndb version"
  | headerTooLarge => ".ndb header too large"
  | payloadTooLarge => ".ndb payload too large"
  | checksumMismatch => "storage checksum mismatch"

/-- The kind of a sentinel. -/
def kind : Sentinel → FaultKind
  | invalidMagic => .invalidMagic
  | unsupportedVersion => .unsupportedVersion
  | headerTooLarge => .headerTooLarge
  | payloadTooLarge => .payloadTooLarge
  | checksumMismatch => .checksumMismatch

end Sentinel

namespace FaultKind

/-- The label of a kind. -/
def label : FaultKind → String
  | badInput => "bad_input"
  | panic => "panic"
  | unsupportedFormat => "unsupported_format"
  | extraction => "extraction"
  | shapeMismatch => "shape_mismatch"
  | validation => "validation"
  | released => "released"
  | notContiguous => "not_contiguous"
  | invalidMagic => "invalid_magic"
  | unsupportedVersion => "unsupported_version"
  | headerTooLarge => "header_too_large"
  | payloadTooLarge => "payload_too_large"
  | checksumMismatch => "checksum_mismatch"
  | invalidIdx => "invalid_idx"
  | cbor => "cbor"
  | lz4 => "lz4"
  | yaml => "yaml"
  | gzip => "gzip"
  | error => "error"

end FaultKind

namespace Fault

/-- Text with an optional detail after a colon. -/
def withDetail (head detail : String) : String :=
  if detail.isEmpty then head else head ++ ": " ++ detail

/-- The message of a fault. -/
def message : Fault → String
  | format tag =>
      "unsupported data format " ++ Text.Quoted.quoteBytes tag ++ ", expected one of ?bhiqBefdv"
  | extraction container fmt reason =>
      withDetail ("cannot extract " ++ container ++ " as format " ++ Text.Quoted.quote fmt) reason
  | shape extents strides itemSize storageLen reason =>
      "shape " ++ Text.spaced extents ++ " strides " ++ Text.spaced strides ++ " (itemsize " ++
        toString itemSize.toInt ++ ") over " ++ toString storageLen.toInt ++ " bytes: " ++ reason
  | validation kind field details =>
      if field.isEmpty then "invalid header: " ++ kind ++ ": " ++ details
      else "invalid header field " ++ field ++ ": " ++ kind ++ ": " ++ details
  | released => "view has been released"
  | notContiguous => "view is not C-contiguous"
  | sentinel s detail => withDetail s.text detail
  | invalidIdx detail => withDetail "invalid IDX data" detail
  | codec _ => ""
  | panic text => text
  | request text => text
  | plain text => text
  | context pre cause => withDetail pre cause.message

/-- The kind of a fault: that of its innermost leaf. -/
def kind : Fault → FaultKind
  | format _ => .unsupportedFormat
  | extraction .. => .extraction
  | shape .. => .shapeMismatch
  | validation .. => .validation
  | released => .released
  | notContiguous => .notContiguous
  | sentinel s _ => s.kind
  | invalidIdx _ => .invalidIdx
  | codec .cbor => .cbor
  | codec .lz4 => .lz4
  | codec .yaml => .yaml
  | codec .gzip => .gzip
  | panic _ => .panic
  | request _ => .badInput
  | plain _ => .error
  | context _ cause => cause.kind

/-- The innermost leaf of a fault. -/
def leaf : Fault → Fault
  | context _ cause => cause.leaf
  | f => f

theorem kind_context (pre : String) (cause : Fault) : (context pre cause).kind = cause.kind :=
  rfl

end Fault

/-- A computation that may fail. -/
abbrev Outcome (α : Type) := Except Fault α

/-- Puts a context in front of a failure. -/
def Outcome.within {α : Type} (pre : String) : Outcome α → Outcome α
  | .error f => .error (.context pre f)
  | .ok a => .ok a

end StridedBuffer
