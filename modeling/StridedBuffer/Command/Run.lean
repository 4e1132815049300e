import StridedBuffer.Command.Inspect
import StridedBuffer.Command.Export
import StridedBuffer.Command.Fetch

/-! # The command line

The first argument names the command: `version`, `help`, `inspect`, `export` or
`fetch`. No argument, `help`, `-h` and `--help` print the usage, `--version` is
`version`, and any other word is an unknown command. A run ends in success or in one
failure, which the caller reports.
-/

namespace StridedBuffer.Command

/-- The version of the tool. -/
def version : String := "v0.1.0-dev"

/-- The usage of the tool. -/
def usage : String :=
  "ndbuf - typed storage and buffer views\n\n" ++
  "Usage:\n  ndbuf <command> [flags] [args]\n\n" ++
  "Commands:\n" ++
  "  version               Show version\n" ++
  "  inspect <file.ndb>    Print a snapshot's header and a data preview\n" ++
  "  export <file.ndb>     Export a snapshot's view and print the descriptor\n" ++
  "  fetch                 Download MNIST into .ndb snapshots\n\n" ++
  "Run \"ndbuf <command> --help\" for command flags.\n"

variable {m : Type → Type} [Monad m] [Machine m]

/-- Runs the tool with its arguments, the program name left out. -/
def run : List String → m (Outcome Unit)
  | [] => do Machine.out usage; return .ok ()
  | command :: rest =>
      if command == "version" || command == "--version" then do
        Machine.out ("ndbuf " ++ version ++ "\n")
        return .ok ()
      else if command == "help" || command == "-h" || command == "--help" then do
        Machine.out usage
        return .ok ()
      else if command == "inspect" then (inspect rest).run
      else if command == "export" then (exportFile rest).run
      else if command == "fetch" then (fetch rest).run
      else
        return .error (.plain ("unknown command " ++ Text.Quoted.quote command ++
          " (run \"ndbuf help\")"))

end StridedBuffer.Command
