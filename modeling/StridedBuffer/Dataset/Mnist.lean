import StridedBuffer.Dataset.Fetch
import StridedBuffer.Dataset.Idx

/-! # MNIST

MNIST is four gzipped IDX files under one base URL: training images and labels, then
test images and labels. Each must hold unsigned bytes, images at rank 3 and labels at
rank 1. The files are fetched in that order and the first failure stops the download,
after the views read so far are released.
-/

namespace StridedBuffer.Dataset

/-- Where MNIST is downloaded from by default. -/
def defaultMnistBase : String := "https://raw.githubusercontent.com/fgnt/mnist/master/"

/-- The four files, in download order, with the rank each must have. -/
def mnistFiles : List (String × Nat) :=
  [("train-images-idx3-ubyte.gz", 3), ("train-labels-idx1-ubyte.gz", 1),
    ("t10k-images-idx3-ubyte.gz", 3), ("t10k-labels-idx1-ubyte.gz", 1)]

/-- A base URL as used: the default when empty, with a final `/`. -/
def mnistBase (base : String) : String :=
  let b := if base.isEmpty then defaultMnistBase else base
  if b.endsWith "/" then b else b ++ "/"

/-- One downloaded file: its name, what the download gave, and its view over a new
storage. -/
structure Split where
  name : String
  fetched : Fetched
  view : View
  storage : Storage

/-- The split after its view's release, with the panic of the storage's release if any. -/
def Split.release (sp : Split) : Split × Option Fault :=
  let r := sp.view.release sp.storage
  ({ sp with view := r.1, storage := r.2.1 }, r.2.2)

/-- Releases the views of the splits in order; a release that panics stops the rest. -/
def releaseSplits : List Split → List Split × Option Fault
  | [] => ([], none)
  | sp :: rest =>
      match sp.release with
      | (sp, some f) => (sp :: rest, some f)
      | (sp, none) =>
          let r := releaseSplits rest
          (sp :: r.1, r.2)

/-- How a download ends: its result, and every split it read, as it leaves them. -/
structure MnistRun where
  result : Outcome (List Split)
  splits : List Split

/-- Gives up with a failure after releasing the views of `held` in order; the panic of a
release, if one panics, is reported instead. -/
def abandon (held : List Split) (f : Fault) : MnistRun :=
  let r := releaseSplits held
  ⟨.error (r.2.getD f), r.1⟩

/-- The failure of a file read with another element type or rank than wanted. -/
def mismatch (name : String) (v : View) (rank : Nat) : Fault :=
  .context ("parse " ++ name) (.invalidIdx ("got " ++ v.dtype.name ++ " rank " ++
    toString v.ndim ++ ", want uint8 rank " ++ toString rank))

/-- The files from `files` on, downloaded through `get` and read in order after the
splits `done` (the latest first), each file into its own storage. The first failure stops
the download: the view just read, if any, is released, then the views read before it. A
panic while reading a file stops everything as it is. `note` is told of every download that
succeeds, with the time it took on `ticks`. -/
def fetchEachBy {m : Type → Type} [Monad m] (get : String → m Reply) (ticks : m Int)
    (note : String → Fetched → Int → m Unit) (maxBytes : Int64) (base : String) :
    List ((String × Nat) × Nat) → List Split → m MnistRun
  | [], done => pure ⟨.ok done.reverse, done.reverse⟩
  | ((name, rank), id) :: rest, done => do
      let start ← ticks
      match ← fetchBy get maxBytes (base ++ name) with
      | .error f => pure (abandon done.reverse f)
      | .ok fetched =>
          note (base ++ name) fetched ((← ticks) - start)
          match parseIdx fetched.data id with
          | .error (.panic msg) => pure ⟨.error (.panic msg), done.reverse⟩
          | .error f => pure (abandon done.reverse (.context ("parse " ++ name) f))
          | .ok (v, s) =>
              let split : Split := ⟨name, fetched, v, s⟩
              if v.dtype != .uint8 || v.ndim != rank then
                pure (abandon (split :: done.reverse) (mismatch name v rank))
              else fetchEachBy get ticks note maxBytes base rest (split :: done)

/-- The four files downloaded through `get` from a base URL, their storages numbered from
zero, with `note` told of each download. -/
def fetchMnistBy {m : Type → Type} [Monad m] (get : String → m Reply) (ticks : m Int)
    (note : String → Fetched → Int → m Unit) (maxBytes : Int64) (base : String) : m MnistRun :=
  fetchEachBy get ticks note maxBytes (mnistBase base) mnistFiles.zipIdx []

/-- The four files downloaded from a base URL through the replies of `transport`. -/
def fetchMnist (transport : Transport) (maxBytes : Int64) (base : String) : MnistRun :=
  fetchMnistBy (m := Id) (fun url => pure (transport url)) (pure 0) (fun _ _ _ => pure ())
    maxBytes base

end StridedBuffer.Dataset
