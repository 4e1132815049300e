import StridedBuffer.Command.Machine
import StridedBuffer.Command.Flags
import StridedBuffer.Command.Log
import StridedBuffer.Config.Load

/-! # Setting a command up

Every command takes `--config` besides its own flags. Setting up parses the flags,
prints the usage and stops when help is asked for, and otherwise loads the settings:
from the file `--config` names, else from the file the configuration variable names,
else the defaults. A file that cannot be read fails as `reading config P: …`, and one
whose settings do not decode or do not check fails as `config P: …`.
-/

namespace StridedBuffer.Command

open Config

/-- The flag every command takes. -/
def configFlag : FlagSpec :=
  ⟨"config", .text, "", "path to YAML config (default: $NDBUF_CONFIG)"⟩

/-- What a command runs with: its settings, its flag values and its positional
arguments. -/
structure Setup where
  settings : Settings
  flags : FlagValues

/-- The positional arguments of a set-up command. -/
def Setup.args (s : Setup) : List String := s.flags.positional

/-- A label padded to the column where the values of a command's report start. -/
def label (name : String) : String :=
  name ++ String.ofList (List.replicate (13 - name.length) ' ')

/-- The settings in the text of a configuration file. -/
def settingsOf (data : ByteArray) : Outcome Settings :=
  match String.fromUTF8? data with
  | some text => Settings.parse text
  | none => .error (.context "parsing yaml" (.codec .yaml))

variable {m : Type → Type} [Monad m] [Machine m]

/-- The settings a configuration path names, falling back to the configuration variable
and then to the defaults. -/
def loadSettings (given : String) : m (Outcome Settings) := do
  let path ← if given.isEmpty then (·.getD "") <$> Machine.configVariable else pure given
  if path.isEmpty then return .ok Settings.default
  match ← readWhole path with
  | .error f => return .error (.plain ("reading config " ++ path ++ ": " ++ f.message))
  | .ok data =>
      match settingsOf data with
      | .ok s => return .ok s
      | .error f => return .error (.context ("config " ++ path) (.plain f.message))

/-- Parses a command's arguments and loads its settings; `none` once help has been
shown. -/
def prepare (command : String) (specs : List FlagSpec) (args : List String) :
    m (Outcome (Option Setup)) := do
  let specs := specs ++ [configFlag]
  match parseFlags specs args with
  | .error e => return .error (.plain e)
  | .ok .help =>
      Machine.err (usageText command specs)
      return .ok none
  | .ok (.values v) =>
      match ← loadSettings (v.get "config") with
      | .error f => return .error f
      | .ok s => return .ok (some ⟨s, v⟩)

/-- Logs a record when the configured level lets it through. -/
def Setup.log (s : Setup) (r : LogRecord) : m Unit := do
  if s.settings.logLevel.shows r.level then Machine.err (r.line (← Machine.now))

end StridedBuffer.Command
