import ContextHub.Heap
import ContextHub.Timer.Pool
/-!
# Configuration

The settings of a hub, section by section, each with its default.
-/

namespace ContextHub

structure WifiSettings where
  retryBackoffMs : Nat := 1000
  maxRetries : Nat := 2
  scanTimeoutMs : Nat := 30000
  rangingTimeoutMs : Nat := 10000
  deriving DecidableEq, Repr

namespace WifiSettings

def retryBackoff (s : WifiSettings) : Nat := Nanos.ofMillis s.retryBackoffMs

def scanTimeout (s : WifiSettings) : Nat := Nanos.ofMillis s.scanTimeoutMs

def rangingTimeout (s : WifiSettings) : Nat := Nanos.ofMillis s.rangingTimeoutMs

end WifiSettings

structure WwanSettings where
  cellInfoTimeoutMs : Nat := 10000
  deriving DecidableEq, Repr

def WwanSettings.cellInfoTimeout (s : WwanSettings) : Nat := Nanos.ofMillis s.cellInfoTimeoutMs

structure GnssSettings where
  sessionTimeoutMs : Nat := 5000
  deriving DecidableEq, Repr

def GnssSettings.sessionTimeout (s : GnssSettings) : Nat := Nanos.ofMillis s.sessionTimeoutMs

structure TelemetrySettings where
  logLevel : String := "info"
  metricsEnabled : Bool := true
  deriving DecidableEq, Repr

structure Config where
  queueCapacity : Nat := 96
  timers : TimerLimits := {}
  memory : HeapLimits := {}
  wifi : WifiSettings := {}
  wwan : WwanSettings := {}
  gnss : GnssSettings := {}
  telemetry : TelemetrySettings := {}
  deriving DecidableEq, Repr

end ContextHub
