import StridedBuffer.Command.Setup

/-! # The `inspect` command

`inspect FILE` reads one snapshot with strict validation, its checksum checked unless
`--skip-checksum` is given, and prints its header and a preview of its data, one field a
line with the labels in a column of thirteen. The creation time is shown only when it is
set, and the metadata follows sorted by key.
-/

namespace StridedBuffer.Command

open Snapshot

/-- The flags of `inspect` besides `--config`. -/
def inspectFlags : List FlagSpec :=
  [⟨"skip-checksum", .switch, "false", "do not verify the payload checksum"⟩]

/-- The lines `inspect` prints for a snapshot read from `path`, its preview holding
`shown` elements at most. -/
def inspectText (path : String) (v : View) (s : Storage) (h : Header) (shown : Int) :
    Outcome String := do
  let metaLines := (h.metadata.mergeSort fun a b => decide (a.1 ≤ b.1)).map fun (k, x) =>
    "meta." ++ k ++ ": " ++ x ++ "\n"
  return label "file:" ++ path ++ "\n" ++
    label "format:" ++ Text.Quoted.quote h.format ++ " (" ++ v.dtype.name ++ ")\n" ++
    label "shape:" ++ Text.spaced v.shape ++ "\n" ++
    label "strides:" ++ Text.spaced v.strides ++ "\n" ++
    label "contiguous:" ++ toString v.isContiguous ++ "\n" ++
    label "storage:" ++ toString h.byteLen.toInt ++ " bytes\n" ++
    label "payload:" ++ toString h.payloadLen.toInt ++ " bytes\n" ++
    label "checksum:" ++ Text.Hex.encode h.checksum ++ "\n" ++
    (if h.createdAt.isZero then "" else label "created:" ++ h.createdAt.text false ++ "\n") ++
    String.join metaLines ++
    label "data:" ++ (← v.preview s shown) ++ "\n"

variable {m : Type → Type} [Monad m] [Machine m]

/-- Runs `inspect` with its arguments. -/
def inspect (args : List String) : ExceptT Fault m Unit := do
  let some setup ← ExceptT.mk (prepare "inspect" inspectFlags args) | return ()
  let [path] := setup.args | throw (.plain "inspect takes exactly one .ndb file")
  let within := fun {α : Type} (r : Outcome α) => (r.within ("inspect " ++ path) : Outcome α)
  let src ← ExceptT.mk (within <$> openSnapshot path)
  let skip := setup.flags.get "skip-checksum" == "true"
  let (v, s, h) ← ExceptT.mk (pure (within (read src skip .strict 0)))
  setup.log ⟨.debug, "loaded snapshot", [("path", .text path), ("bytes", .word (toString h.byteLen.toInt))]⟩
  Machine.out (← ExceptT.mk (pure (inspectText path v s h setup.settings.maxElements)))

end StridedBuffer.Command
