import StridedBuffer.Config.Settings
import StridedBuffer.Report.Element

/-! # Reporting settings -/

namespace StridedBuffer.Report

open Config

/-- The settings, with the timeout both as text and in nanoseconds, and the log level in
effect. -/
def settings (s : Settings) : Doc :=
  .record [("base_url", .text s.baseUrl), ("compress", .bool s.compress), ("level", .text s.level),
    ("max_elements", .int s.maxElements), ("slog_level", .text s.logLevel.name),
    ("timeout", .text (Clock.durationText s.timeout)), ("timeout_ns", .int s.timeout)]

/-- The settings with the outcome of checking them. -/
def checkedSettings (s : Settings) : Doc :=
  let verdict := match s.validate with
    | .ok () => Doc.null
    | .error f => fault f
  (settings s).withField "validate" verdict

end StridedBuffer.Report
