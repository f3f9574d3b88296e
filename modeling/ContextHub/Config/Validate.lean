import ContextHub.Config.Basic
import ContextHub.Log
/-!
# Valid configurations

Each field has a range. A section whose fields are all in range is also looked at as a whole:
the timer ceilings must nest, one allocation must fit into the heap, and the log level must be one
of the known words, in letters of either case. Faults are listed by path.
-/

namespace ContextHub

structure ConfigFault where
  path : String
  code : String
  deriving DecidableEq, Repr

namespace ConfigFault

/-- One block of the report. -/
def text (f : ConfigFault) : String := s!"Field '{f.path}':\n  - {f.code}\n"

/-- A fault of a field if its value is not in range. -/
def ofRange (path : String) (valid : Bool) : List ConfigFault :=
  if valid then [] else [⟨path, "range"⟩]

/-- The faults of a section's fields, or else those of the section as a whole. -/
def orWhole (title : String) (fields : List ConfigFault) (whole : Option String) :
    List ConfigFault :=
  match fields, whole with
  | [], some code => [⟨title ++ ".__all__", code⟩]
  | _, _ => fields

def report (faults : List ConfigFault) : String :=
  "Invalid configuration:\n" ++ String.join (faults.map text)

end ConfigFault

open ConfigFault (ofRange orWhole)

/-- Whether a number lies between two others, or is one of them. -/
def isWithin (low high n : Nat) : Bool := decide (low ≤ n ∧ n ≤ high)

/-- The first of the rules on timer ceilings that is broken. -/
def TimerLimits.misfit? (l : TimerLimits) : Option String :=
  if l.requests < l.nanoapp then some "nanoapp_timers_exceed_pool"
  else if l.requests ≤ l.reserved then some "no_system_timer_slots"
  else if l.nanoapp < l.floor then some "timer_floor_exceeds_ceiling"
  else none

def TimerLimits.faults (l : TimerLimits) : List ConfigFault :=
  orWhole "timers"
    (ofRange "timers.max_nanoapp_timers" (isWithin 1 4096 l.nanoapp) ++
      ofRange "timers.max_timer_requests" (isWithin 2 4096 l.requests))
    l.misfit?

def HeapLimits.misfit? (l : HeapLimits) : Option String :=
  if l.totalBytes < l.blockBytes then some "allocation_exceeds_total" else none

def HeapLimits.faults (l : HeapLimits) : List ConfigFault :=
  orWhole "memory"
    (ofRange "memory.max_allocation_bytes" (decide (1 ≤ l.blockBytes)) ++
      ofRange "memory.max_allocation_count" (decide (1 ≤ l.blockCount)) ++
      ofRange "memory.max_total_bytes" (decide (1024 ≤ l.totalBytes)))
    l.misfit?

def WifiSettings.faults (s : WifiSettings) : List ConfigFault :=
  ofRange "wifi.ranging_timeout_ms" (decide (1 ≤ s.rangingTimeoutMs)) ++
    ofRange "wifi.scan_max_retries" (decide (s.maxRetries ≤ 16)) ++
    ofRange "wifi.scan_retry_backoff_ms" (isWithin 1 60000 s.retryBackoffMs) ++
    ofRange "wifi.scan_timeout_ms" (decide (1 ≤ s.scanTimeoutMs))

/-- The level as a threshold, in letters of either case. -/
def TelemetrySettings.threshold? (s : TelemetrySettings) : Option (Option Level) :=
  Level.threshold? (String.ofList (s.logLevel.toList.map Char.toLower))

def TelemetrySettings.faults (s : TelemetrySettings) : List ConfigFault :=
  orWhole "telemetry" []
    (if s.threshold?.isSome then none else some "invalid_log_level")

namespace Config

/-- Everything that is wrong with a configuration, by path. -/
def faults (c : Config) : List ConfigFault :=
  ofRange "event_loop.queue_capacity" (isWithin 8 65536 c.queueCapacity) ++
    ofRange "gnss.session_timeout_ms" (decide (1 ≤ c.gnss.sessionTimeoutMs)) ++
    c.memory.faults ++ c.telemetry.faults ++ c.timers.faults ++ c.wifi.faults ++
    ofRange "wwan.cell_info_timeout_ms" (decide (1 ≤ c.wwan.cellInfoTimeoutMs))

def isValid (c : Config) : Bool := c.faults.isEmpty

/-- The configuration itself if it is valid, else what is wrong with it. -/
def validated (c : Config) : Except (List ConfigFault) Config :=
  match c.faults with
  | [] => .ok c
  | faults => .error faults

end Config

end ContextHub
