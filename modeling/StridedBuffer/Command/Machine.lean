import StridedBuffer.Files.Entry
import StridedBuffer.Dataset.Fetch
import StridedBuffer.Snapshot.File

/-! # The machine a command runs on

A command sees its machine only through `Machine`: what a path names, making one
directory, reading and writing whole files, one GET over the network, a wall clock and
a steady clock, the configuration variable, and the standard output and error streams.
Everything a command does beyond that is pure, so the same command runs on a real
machine and on a simulated one.

Making a directory with all its parents, reading a whole file and opening a snapshot
are built here from those operations, with their failures worded by operation and path.
-/

namespace StridedBuffer.Command

open Files

/-- The operations of a machine. -/
class Machine (m : Type → Type) where
  /-- What a path names. -/
  stat : String → m (Except Errno EntryKind)
  /-- Makes one directory, whose parent must exist. -/
  makeDir : String → m (Except Errno Unit)
  /-- Opens a path for reading and reads it to the end. -/
  openRead : String → m (Except Errno Contents)
  /-- Creates or empties a file and writes the bytes into it. -/
  create : String → ByteArray → m (Except Errno Unit)
  /-- The reply to one GET of a URL. -/
  download : String → m Dataset.Reply
  /-- The time of day. -/
  now : m Clock.Instant
  /-- Nanoseconds on a clock that only goes forward. -/
  ticks : m Int
  /-- The value of the configuration variable, when it is set. -/
  configVariable : m (Option String)
  /-- Writes text to standard output. -/
  out : String → m Unit
  /-- Writes text to standard error. -/
  err : String → m Unit

/-- A machine seen from a computation that may also fail. -/
instance {ε : Type} {m : Type → Type} [Monad m] [Machine m] : Machine (ExceptT ε m) where
  stat p := ExceptT.lift (Machine.stat p)
  makeDir p := ExceptT.lift (Machine.makeDir p)
  openRead p := ExceptT.lift (Machine.openRead p)
  create p data := ExceptT.lift (Machine.create p data)
  download url := ExceptT.lift (Machine.download url)
  now := ExceptT.lift Machine.now
  ticks := ExceptT.lift Machine.ticks
  configVariable := ExceptT.lift Machine.configVariable
  out s := ExceptT.lift (Machine.out s)
  err s := ExceptT.lift (Machine.err s)

/-- The text up to the separator before the last component of a path, without that
separator, when it is not empty: where the parent of the path's directory is made.
Separators at the end of the path are passed over. -/
def parentText (cs : List Char) : Option (List Char) :=
  let trimmed := (cs.reverse.dropWhile (· == '/')).reverse
  let upto := (trimmed.reverse.dropWhile (· != '/')).reverse
  if upto.length > 1 then some (cs.take (upto.length - 1)) else none

theorem parentText_shorter {cs p : List Char} (h : parentText cs = some p) :
    p.length < cs.length := by
  unfold parentText at h
  dsimp only at h
  split at h
  · rename_i hlen
    simp only [Option.some.injEq] at h
    subst h
    have a := (List.dropWhile_sublist (l := (cs.reverse.dropWhile (· == '/')).reverse.reverse)
      (fun c => c != '/')).length_le
    have b := (List.dropWhile_sublist (l := cs.reverse) (fun c => c == '/')).length_le
    simp only [List.length_reverse, List.reverse_reverse] at a b hlen ⊢
    simp only [List.length_take]
    omega
  · cases h

variable {m : Type → Type} [Monad m] [Machine m]

/-- Makes a directory and every missing parent. A path that already names a directory
is made; one that names a file, or that a parent cannot be made for, fails, and a
directory that appears while it is being made counts as made. -/
def makeAll (cs : List Char) : m (Except PathFailure Unit) := do
  let path := String.ofList cs
  match ← Machine.stat path with
  | .ok .directory => return .ok ()
  | .ok .file => return .error ⟨"mkdir", path, .notDirectory⟩
  | .error _ =>
      let parent ← match _shorter : parentText cs with
        | some p => makeAll p
        | none => pure (.ok ())
      match parent with
      | .error f => return .error f
      | .ok () =>
          match ← Machine.makeDir path with
          | .ok () => return .ok ()
          | .error e =>
              match ← Machine.stat path with
              | .ok .directory => return .ok ()
              | _ => return .error ⟨"mkdir", path, e⟩
termination_by cs.length
decreasing_by exact parentText_shorter _shorter

/-- All the bytes of a file. A directory opens but fails to read. -/
def readWhole (path : String) : m (Except PathFailure ByteArray) := do
  match ← Machine.openRead path with
  | .error e => return .error ⟨"open", path, e⟩
  | .ok (.bytes data) => return .ok data
  | .ok .directory => return .error ⟨"read", path, .isDirectory⟩

/-- A snapshot file opened for reading. A directory opens, and fails at its first read. -/
def openSnapshot (path : String) : m (Outcome Snapshot.Source) := do
  match ← Machine.openRead path with
  | .error e =>
      return .error (.context "failed to open file" (.plain (PathFailure.message ⟨"open", path, e⟩)))
  | .ok (.bytes data) => return .ok ⟨data, none⟩
  | .ok .directory =>
      return .ok ⟨ByteArray.empty, some (PathFailure.message ⟨"read", path, .isDirectory⟩)⟩

/-- Writes a whole file, as a creation that fails with `open`. -/
def writeWhole (path : String) (data : ByteArray) : m (Except PathFailure Unit) := do
  match ← Machine.create path data with
  | .error e => return .error ⟨"open", path, e⟩
  | .ok () => return .ok ()

end StridedBuffer.Command
