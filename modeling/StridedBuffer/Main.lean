import StridedBuffer.Command.Run
import Std.Time.DateTime.Timestamp

/-! # The program

The command line tool on the machine it runs on: files through the file system, the
clocks of the system, the configuration variable `NDBUF_CONFIG`, and no network, so
every download is refused. A failed run is reported on standard error and ends with
status 1.
-/

namespace StridedBuffer.Command

/-- The reason of a system error, by its error number. -/
def errnoOf (e : IO.Error) : Files.Errno :=
  let byCode := fun (code : UInt32) =>
    let n := if code.toNat ≥ Nat.pow 2 31 then Nat.pow 2 32 - code.toNat else code.toNat
    if n = 2 then Files.Errno.noEntry
    else if n = 20 then .notDirectory
    else if n = 21 then .isDirectory
    else if n = 17 then .alreadyExists
    else .other (toString e)
  match e with
  | .noFileOrDirectory _ _ _ => .noEntry
  | .alreadyExists _ code _ => byCode code
  | .inappropriateType _ code _ => byCode code
  | .otherError code _ => byCode code
  | _ => .other (toString e)

/-- Runs an operation, its system error as a reason. -/
def attempt {α : Type} (act : IO α) : IO (Except Files.Errno α) := do
  try return .ok (← act) catch e => return .error (errnoOf e)

/-- The machine the program runs on. -/
instance : Machine IO where
  stat p := do
    match ← attempt (IO.FS.Handle.mk p .read) with
    | .error e => return .error e
    | .ok h =>
        match ← attempt (h.read 1) with
        | .error .isDirectory => return .ok .directory
        | _ => return .ok .file
  makeDir p := attempt (IO.FS.createDir p)
  openRead p := do
    match ← attempt (IO.FS.readBinFile p) with
    | .ok data => return .ok (.bytes data)
    | .error .isDirectory => return .ok .directory
    | .error e => return .error e
  create p data := attempt (IO.FS.writeBinFile p data)
  download _ := return .refused
  now := do
    let nanos := (← Std.Time.Timestamp.now).toNanosecondsSinceUnixEpoch.val
    return ⟨nanos / 1000000000, (nanos % 1000000000).toNat, 0⟩
  ticks := do return ((← IO.monoNanosNow) : Int)
  configVariable := IO.getEnv "NDBUF_CONFIG"
  out s := do
    let h ← IO.getStdout
    h.putStr s
  err s := do
    let h ← IO.getStderr
    h.putStr s

end StridedBuffer.Command

/-- Runs the tool on the command line's arguments. -/
def main (args : List String) : IO UInt32 := do
  match ← StridedBuffer.Command.run args with
  | .ok () => return 0
  | .error f =>
      let h ← IO.getStderr
      h.putStr ("error: " ++ f.message ++ "\n")
      return 1
