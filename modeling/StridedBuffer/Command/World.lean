import StridedBuffer.Command.Machine
import StridedBuffer.Files.Tree

/-! # A simulated machine

A world is a machine held as a value: a tree of files, the configuration variable, the
replies of the network to every URL, a clock standing still, and the text written so far
to each stream. Commands run on it in `StateM World`, so a run is a function from a world
to a world. With the clock standing still, every measured duration is zero.
-/

namespace StridedBuffer.Command

/-- A machine as a value. -/
structure World where
  files : Files.Tree
  configVariable : Option String
  web : Dataset.Transport
  clock : Clock.Instant
  stdout : String := ""
  stderr : String := ""

/-- Applies a change of the file tree that may fail. -/
def World.change (f : Files.Tree → Except Files.Errno Files.Tree) :
    StateM World (Except Files.Errno Unit) := do
  let w ← get
  match f w.files with
  | .error e => return .error e
  | .ok t =>
      set { w with files := t }
      return .ok ()

instance : Machine (StateM World) where
  stat p := do return (← get).files.stat p
  makeDir p := World.change (·.makeDir p)
  openRead p := do return (← get).files.openRead p
  create p data := World.change (·.create p data)
  download url := do return (← get).web url
  now := do return (← get).clock
  ticks := pure 0
  configVariable := do return (← get).configVariable
  out s := modify fun w => { w with stdout := w.stdout ++ s }
  err s := modify fun w => { w with stderr := w.stderr ++ s }

end StridedBuffer.Command
