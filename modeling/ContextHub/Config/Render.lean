import ContextHub.Config.Basic
/-!
# A configuration as text

Sections and fields in their order, one to a line, fields indented under their section.
-/

namespace ContextHub

/-- The text of one value. -/
abbrev FieldText := String × String

namespace FieldText

def line (f : FieldText) : String := s!"  {f.1}: {f.2}\n"

end FieldText

/-- A section's name and its fields. -/
structure SectionText where
  name : String
  fields : List FieldText
  deriving DecidableEq, Repr

def SectionText.lines (s : SectionText) : String :=
  s!"{s.name}:\n" ++ String.join (s.fields.map FieldText.line)

namespace Config

def sections (c : Config) : List SectionText :=
  [⟨"event_loop", [("queue_capacity", toString c.queueCapacity)]⟩,
    ⟨"timers",
      [("max_timer_requests", toString c.timers.requests),
        ("max_nanoapp_timers", toString c.timers.nanoapp),
        ("reserved_nanoapp_timers", toString c.timers.reserved),
        ("nanoapp_timer_floor", toString c.timers.floor)]⟩,
    ⟨"memory",
      [("max_total_bytes", toString c.memory.totalBytes),
        ("max_allocation_bytes", toString c.memory.blockBytes),
        ("max_allocation_count", toString c.memory.blockCount),
        ("enforce_total_ceiling", toString c.memory.enforceTotal)]⟩,
    ⟨"wifi",
      [("scan_retry_backoff_ms", toString c.wifi.retryBackoffMs),
        ("scan_max_retries", toString c.wifi.maxRetries),
        ("scan_timeout_ms", toString c.wifi.scanTimeoutMs),
        ("ranging_timeout_ms", toString c.wifi.rangingTimeoutMs)]⟩,
    ⟨"wwan", [("cell_info_timeout_ms", toString c.wwan.cellInfoTimeoutMs)]⟩,
    ⟨"gnss", [("session_timeout_ms", toString c.gnss.sessionTimeoutMs)]⟩,
    ⟨"telemetry",
      [("log_level", c.telemetry.logLevel),
        ("metrics_enabled", toString c.telemetry.metricsEnabled)]⟩]

/-- The text of a valid configuration; none of its values needs quotes. -/
def render (c : Config) : String := String.join (c.sections.map SectionText.lines)

end Config

end ContextHub
