import StridedBuffer.Clock.Duration
import StridedBuffer.Web.Url
import StridedBuffer.Fault

/-! # Settings

The settings of the command line tool: where datasets are downloaded from and how long
a request may take, how many elements a preview shows, whether snapshots are
compressed, and the log level. Every field has a default; a checked set of settings
has an http(s) base URL, a positive timeout, a preview count that is not negative and
a known log level, and a check reports every field that fails, in field order.
-/

namespace StridedBuffer.Config

/-- The settings. The timeout is in nanoseconds. -/
structure Settings where
  baseUrl : String
  timeout : Int
  maxElements : Int
  compress : Bool
  level : String
  deriving DecidableEq, Repr

/-- The settings used when nothing is configured. -/
def Settings.default : Settings :=
  { baseUrl := "https://raw.githubusercontent.com/fgnt/mnist/master/"
    timeout := 300000000000
    maxElements := 10
    compress := true
    level := "info" }

/-- A log level. -/
inductive LogLevel where
  | debug
  | info
  | warn
  | error
  deriving DecidableEq, Repr

/-- The name a log line shows for a level. -/
def LogLevel.name : LogLevel → String
  | .debug => "DEBUG"
  | .info => "INFO"
  | .warn => "WARN"
  | .error => "ERROR"

/-- The rank of a level: a logger shows the lines at or above its own level. -/
def LogLevel.rank : LogLevel → Nat
  | .debug => 0
  | .info => 1
  | .warn => 2
  | .error => 3

/-- Whether a logger at level `threshold` writes a record at `level`. -/
def LogLevel.shows (threshold level : LogLevel) : Bool :=
  threshold.rank ≤ level.rank

/-- The lower case of a character as far as it can end in ASCII: the ASCII capitals, the
dotted capital I and the Kelvin sign. Other characters are kept. -/
def lowerToAscii (c : Char) : Char :=
  if 'A' ≤ c ∧ c ≤ 'Z' then Char.ofNat (c.toNat + 32)
  else if c == '\u0130' then 'i'
  else if c == '\u212A' then 'k'
  else c

/-- The level a level name stands for, matched without regard to case; the empty name is
the default level. -/
def LogLevel.parse? (s : String) : Option LogLevel :=
  let key := String.ofList (s.toList.map lowerToAscii)
  if key == "debug" then some .debug
  else if key == "info" ∨ key == "" then some .info
  else if key == "warn" ∨ key == "warning" then some .warn
  else if key == "error" then some .error
  else none

/-- The configured log level, the default one when the name is unknown. -/
def Settings.logLevel (s : Settings) : LogLevel :=
  (LogLevel.parse? s.level).getD .info

/-- What is wrong with each field, in field order. -/
def Settings.problems (s : Settings) : List String :=
  let url :=
    if s.baseUrl.isEmpty then ["datasets.base_url is required"]
    else match Web.urlScheme? s.baseUrl with
      | some "http" | some "https" => []
      | _ => ["datasets.base_url must be an http(s) URL, got " ++ Text.Quoted.quote s.baseUrl]
  let timeout :=
    if s.timeout ≤ 0 then ["datasets.timeout must be positive, got " ++ Clock.durationText s.timeout]
    else []
  let preview :=
    if s.maxElements < 0 then
      ["preview.max_elements must not be negative, got " ++ toString s.maxElements]
    else []
  let level :=
    match LogLevel.parse? s.level with
    | some _ => []
    | none => ["log.level must be one of debug, info, warn, error; got " ++ Text.Quoted.quote s.level]
  url ++ timeout ++ preview ++ level

/-- Checks the settings, reporting every problem on its own line. -/
def Settings.validate (s : Settings) : Outcome Unit :=
  match s.problems with
  | [] => .ok ()
  | ps => .error (.plain ("\n".intercalate ps))

end StridedBuffer.Config
