import StridedBuffer.Command.Setup
import StridedBuffer.Dataset.Mnist
import StridedBuffer.Files.Path

/-! # The `fetch` command

`fetch` downloads MNIST and writes each split as a snapshot. The files come from
`--base-url`, else from the configured base URL, with a `/` added when it is missing.
The directory of `--out` (by default the working directory) is made with its parents
first. Each download is logged; the splits are then written in name order, each to its
name without `.gz` and with `.ndb`, compressed as the settings say and with its source URL
as metadata, and each written file is logged and printed with its shape.
-/

namespace StridedBuffer.Command

open Snapshot Dataset

/-- The flags of `fetch` besides `--config`. -/
def fetchFlags : List FlagSpec :=
  [⟨"out", .text, ".", "directory for the .ndb snapshots"⟩,
    ⟨"base-url", .text, "", "override datasets.base_url"⟩]

/-- The name of a split's snapshot: the file name without `.gz`, with `.ndb`. -/
def snapshotName (file : String) : String :=
  (if file.endsWith ".gz" then String.ofList (file.toList.take (file.length - 3)) else file) ++ ".ndb"

/-- The base URL downloads come from. -/
def fetchSource (setup : Setup) : String :=
  let given := setup.flags.get "base-url"
  let base := if given.isEmpty then setup.settings.baseUrl else given
  if base.endsWith "/" then base else base ++ "/"

variable {m : Type → Type} [Monad m] [Machine m]

/-- Logs one download. -/
def noteDownload (setup : Setup) (url : String) (f : Fetched) (elapsed : Int) : m Unit :=
  setup.log ⟨.info, "fetched dataset file", [("url", .text url),
    ("bytes", .word (toString f.received)), ("decompressed", .word (toString f.data.size)),
    ("duration", .word (Clock.durationText elapsed))]⟩

/-- Writes one split's snapshot to `target`. The file is created before the snapshot is
encoded, so a snapshot that fails to encode leaves an empty file. -/
def writeSplit (setup : Setup) (source target : String) (split : Split) : ExceptT Fault m Unit := do
  let opts : WriteOptions :=
    { compress := setup.settings.compress, metadata := [("source", source ++ split.name)] }
  let encoded := write split.view split.storage opts (← Machine.now)
  let failed := fun (f : Fault) => Fault.context ("writing " ++ target) f
  let created := fun (f : Files.PathFailure) =>
    failed (.context "failed to create file" (.plain f.message))
  match encoded with
  | .error f =>
      match ← writeWhole target ByteArray.empty with
      | .error e => throw (created e)
      | .ok () => throw (failed f)
  | .ok bytes =>
      match ← writeWhole target bytes with
      | .error e => throw (created e)
      | .ok () => pure ()

/-- Runs `fetch` with its arguments. -/
def fetch (args : List String) : ExceptT Fault m Unit := do
  let some setup ← ExceptT.mk (prepare "fetch" fetchFlags args) | return ()
  if let a :: _ := setup.args then throw (.plain ("unexpected argument: " ++ a))
  let source := fetchSource setup
  let out := setup.flags.get "out"
  match ← makeAll out.toList with
  | .error f => throw (.plain ("creating " ++ out ++ ": " ++ f.message))
  | .ok () => pure ()
  let splits ← ExceptT.mk (MnistRun.result <$>
    fetchMnistBy Machine.download Machine.ticks (noteDownload setup) 0 source)
  for split in splits.mergeSort (fun a b => decide (a.name ≤ b.name)) do
    let target := Files.joinPath [out, snapshotName split.name]
    writeSplit setup source target split
    let shape := Text.spaced split.view.shape
    setup.log ⟨.info, "wrote snapshot", [("path", .text target), ("shape", .text shape)]⟩
    Machine.out (target ++ " " ++ shape ++ "\n")

end StridedBuffer.Command
