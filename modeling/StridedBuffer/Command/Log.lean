import StridedBuffer.Config.Settings
import StridedBuffer.Clock.Time
import StridedBuffer.Text.Quoted

/-! # Log lines

A log record is a level, a message and named values. Its line is `key=value` pairs
after one another: the time with milliseconds, the level, the message, then the values
in order. A text is written bare when it reads back as one word, and quoted otherwise:
when it is empty, or holds a space, `=`, `"`, a control character, the replacement
character or a character that is not printable. Numbers and durations are written bare.
-/

namespace StridedBuffer.Command

open Config

/-- A value in a log line. -/
inductive LogValue where
  /-- Text, quoted when it would not read back as one word. -/
  | text (s : String)
  /-- A number or a duration, written as it is. -/
  | word (s : String)

/-- A record to log. -/
structure LogRecord where
  level : LogLevel
  message : String
  values : List (String × LogValue)

/-- Whether one character keeps a text from being written bare. -/
def breaksWord (c : Char) : Bool :=
  c.toNat < 0x20 || c == ' ' || c == '=' || c == '"' ||
    (c.toNat ≥ 0x80 && (c.toNat == 0xFFFD || !Text.Printable.isPrintable c.toNat))

/-- A text as written in a log line. -/
def logText (s : String) : String :=
  if s.isEmpty || s.toList.any breaksWord then Text.Quoted.quote s else s

/-- A value as written in a log line. -/
def LogValue.render : LogValue → String
  | .text s => logText s
  | .word s => s

/-- The line of a record logged at time `t`. -/
def LogRecord.line (r : LogRecord) (t : Clock.Instant) : String :=
  "time=" ++ t.millisText ++ " level=" ++ r.level.name ++ " msg=" ++ logText r.message ++
    String.join (r.values.map fun (k, v) => " " ++ logText k ++ "=" ++ v.render) ++ "\n"

end StridedBuffer.Command
