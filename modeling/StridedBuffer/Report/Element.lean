import StridedBuffer.Doc
import StridedBuffer.Element.Value

/-! # Documents for element types and values -/

namespace StridedBuffer.Report

/-- A type with its code, name, size, tag and kind. -/
def dataType (t : DataType) : Doc :=
  .record [("code", .int t.code), ("is_float", .bool t.isFloat), ("name", .text t.name),
    ("size", .int t.size), ("tag", .text t.tagText), ("valid", .bool true)]

/-- A failure as a document. -/
def fault (f : Fault) : Doc :=
  .record [("error", .text f.kind.label), ("message", .text f.message)]

/-- A value with its type, text and, for floats, bit pattern. -/
def value (v : Value) : Doc :=
  let base := [("type", Doc.text v.typeName), ("value", .text v.text)]
  match v.bits? with
  | some b => .record (("bits", .text b) :: base)
  | none => .record base

/-- What a raw type code says about itself. A size or tag asked of a code that names no
type stops with a panic. -/
def typeCode (c : Int) : Doc :=
  let unknown := fault (.panic ("unknown data type " ++ toString c))
  match DataType.ofCode? c with
  | some t =>
      .record [("is_float", .bool t.isFloat), ("name", .text t.name), ("size", .int t.size),
        ("tag", .text t.tagText), ("valid", .bool true)]
  | none =>
      .record [("is_float", .bool false), ("name", .text "unknown"), ("size", unknown),
        ("tag", unknown), ("valid", .bool false)]

end StridedBuffer.Report
