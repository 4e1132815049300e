import StridedBuffer.Command.Setup
import StridedBuffer.Host.Buffer
import StridedBuffer.Buffer.Descriptor

/-! # The `export` command

`export FILE` reads one snapshot, wraps its view in a host buffer, lets the view go, and
asks the buffer for a descriptor with the flags of `--flags` (by default
`WRITABLE|FORMAT|STRIDES`). It prints the buffer and the record a native consumer would
read: the layout arrays it was not asked for, or that a view without dimensions does not
have, are `NULL`. The flags are checked before the file is read.

The model has no memory addresses: the memory of storage `n` is shown at
`(n + 1) * 2^16`, and address zero stands for no memory, as for an empty storage.
-/

namespace StridedBuffer.Command

open Snapshot

/-- The flags of `export` besides `--config`. -/
def exportFlags : List FlagSpec :=
  [⟨"flags", .text, Flags.full.text, "request flags, e.g. SIMPLE or WRITABLE|FORMAT|STRIDES"⟩]

/-- The address a descriptor's memory is shown at. -/
def address (d : Descriptor) : Nat :=
  if d.bufNull then 0 else (d.storage + 1) * 65536

/-- A pointer field: its value when the pointer is set, `NULL` when not. -/
def orNull (set : Bool) (value : String) : String :=
  if set then value else "NULL"

/-- The lines `export` prints for buffer view `b` and its descriptor `d`. -/
def exportText (b : View) (s : Storage) (flags : Flags) (d : Descriptor) : Outcome String := do
  let layout := fun (bits : Flags) => d.flags.has bits && d.ndim > 0
  return label "object:" ++ (← bufferText b s) ++ "\n" ++
    label "flags:" ++ flags.text ++ "\n" ++
    label "buf:" ++ "0x" ++ Text.Hex.ofNat (address d) ++ "\n" ++
    label "len:" ++ toString d.len.toInt ++ "\n" ++
    label "itemsize:" ++ toString d.itemSize ++ "\n" ++
    label "readonly:" ++ "0\n" ++
    label "ndim:" ++ toString d.ndim ++ "\n" ++
    label "format:" ++ orNull (d.flags.has Flags.format) (Text.Quoted.quote d.formatText) ++ "\n" ++
    label "shape:" ++ orNull (layout Flags.nd) (Text.spaced d.shape) ++ "\n" ++
    label "strides:" ++ orNull (layout Flags.strides) (Text.spaced d.strides) ++ "\n" ++
    label "suboffsets:" ++ "NULL\n" ++
    "record size: 80 bytes\n"

variable {m : Type → Type} [Monad m] [Machine m]

/-- Runs `export` with its arguments. -/
def exportFile (args : List String) : ExceptT Fault m Unit := do
  let some setup ← ExceptT.mk (prepare "export" exportFlags args) | return ()
  let [path] := setup.args | throw (.plain "export takes exactly one .ndb file")
  let flags ← ExceptT.mk (pure (Flags.parse (setup.flags.get "flags")))
  let within := fun {α : Type} (r : Outcome α) => (r.within ("export " ++ path) : Outcome α)
  let src ← ExceptT.mk (within <$> openSnapshot path)
  let (v, s, _) ← ExceptT.mk (pure (within (read src false .strict 0)))
  let (b, s) ← ExceptT.mk (pure (v.clone s))
  let (_, s, _) := v.release s
  let (d, s) ← ExceptT.mk (pure (within (exportView b s flags)))
  setup.log ⟨.debug, "exported buffer", [("path", .text path), ("flags", .text flags.text)]⟩
  Machine.out (← ExceptT.mk (pure (exportText b s flags d)))

end StridedBuffer.Command
