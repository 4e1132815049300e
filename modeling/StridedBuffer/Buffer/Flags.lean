import StridedBuffer.Text.Blank
import StridedBuffer.Text.Quoted
import StridedBuffer.Fault

/-! # Buffer request flags

A consumer states what it can handle as a bit set: whether it writes, whether it reads
the format, and how much of the layout (extents only, strides, or row-major strides) it
understands. The strides bits include the extents bit and the row-major bits include the
strides bits, so every richer request contains the poorer ones.
-/

namespace StridedBuffer

/-- A request bit set. -/
abbrev Flags := Int64

namespace Flags

def simple : Flags := 0
def writable : Flags := 0x01
def format : Flags := 0x04
def nd : Flags := 0x08
def strides : Flags := 0x18
def cContiguous : Flags := 0x38
def records : Flags := 0x1D
def full : Flags := 0x1D

/-- Whether every bit of `other` is set in `f`. -/
def has (f other : Flags) : Bool := f &&& other == other

/-- Whether a consumer with these flags needs row-major data: it does not understand
strides, or it asks for row-major strides. -/
def requiresContiguous (f : Flags) : Bool :=
  !f.has strides || f.has cContiguous

/-- The set flags, as in `WRITABLE|FORMAT|STRIDES`. -/
def text (f : Flags) : String :=
  if f == simple then "SIMPLE"
  else
    let layout :=
      if f.has cContiguous then ["C_CONTIGUOUS"]
      else if f.has strides then ["STRIDES"]
      else if f.has nd then ["ND"]
      else []
    "|".intercalate ((if f.has writable then ["WRITABLE"] else []) ++
      (if f.has format then ["FORMAT"] else []) ++ layout)

/-- The flags a name stands for. -/
def named? (key : String) : Option Flags :=
  match key with
  | "simple" => some simple
  | "writable" => some writable
  | "format" => some format
  | "nd" => some nd
  | "strides" => some strides
  | "c_contiguous" => some cContiguous
  | "records" => some records
  | "full" => some full
  | _ => none

/-- The key a field is looked up by: trimmed, lowered, dashes as underscores. -/
def key (field : String) : String :=
  String.ofList ((Text.lowerKey (Text.trimBlank field)).toList.map fun c =>
    if c = '-' then '_' else c)

/-- The union of the flags named in a list separated by `|` or `,`. -/
def parse (s : String) : Outcome Flags :=
  (Text.fieldsBy (fun c => c = '|' ∨ c = ',') s).foldlM (fun acc field =>
    match named? (key field) with
    | some bits => .ok (acc ||| bits)
    | none => .error (.plain ("unknown buffer flag " ++ Text.Quoted.quote field))) simple

end Flags

end StridedBuffer
