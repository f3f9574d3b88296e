import ContextHub.Ids
import ContextHub.Text.Quoted
import ContextHub.Text.Structured
/-!
# WiFi data

What nanoapps ask of a WiFi radio and what the radio reports: scan monitoring, scans on demand
and ranging to access points. Codes are the bytes that the radio sent.
-/

namespace ContextHub

/-- The six bytes of an access point's address. -/
abbrev Bssid := List UInt8

inductive ScanType where
  | active
  | activePlusPassiveDfs
  | passive
  | noPreference
  deriving DecidableEq, Repr, Inhabited

namespace ScanType

def name : ScanType → String
  | active => "Active"
  | activePlusPassiveDfs => "ActivePlusPassiveDfs"
  | passive => "Passive"
  | noPreference => "NoPreference"

def all : List ScanType := [active, activePlusPassiveDfs, passive, noPreference]

def ofName? (s : String) : Option ScanType := all.find? (·.name == s)

end ScanType

structure ScanParams where
  type : ScanType := .active
  maxAgeMs : Nat := 0
  frequencies : List Nat := []
  ssids : List String := []
  deriving DecidableEq, Repr, Inhabited

namespace ScanParams

/-- The most network names that one scan may ask for. -/
def maxSsids : Nat := 20

def debugText (p : ScanParams) : String :=
  Structured.record "WifiScanParams"
    [("scan_type", p.type.name), ("max_scan_age_ms", toString p.maxAgeMs),
     ("frequencies_mhz", Structured.list (p.frequencies.map toString)),
     ("ssids", Structured.list (p.ssids.map Quoted.text))]

end ScanParams

structure ScanResult where
  ssid : String
  bssid : Bssid
  rssi : Int
  channel : Nat
  deriving DecidableEq, Repr

structure Scan where
  type : ScanType := .active
  reference : Nat := 0
  results : List ScanResult := []
  deriving DecidableEq, Repr, Inhabited

/-- The most access points that one ranging request may name. -/
def maxRangingTargets : Nat := 10

structure RangingResult where
  bssid : Bssid
  distanceMm : Nat
  success : Bool
  deriving DecidableEq, Repr

inductive WifiReport where
  | monitorStatus (enabled : Bool) (code : Nat)
  | scanResponse (pending : Bool) (code : Nat)
  | scan (scan : Scan)
  | ranging (code : Nat) (results : Option (List RangingResult))
  deriving DecidableEq, Repr

/-- Capability bits of a WiFi radio. -/
structure WifiCapabilities where
  bits : Nat
  deriving DecidableEq, Repr

namespace WifiCapabilities

def scanMonitoring : Nat := 1
def onDemandScan : Nat := 2
def radioChainPreference : Nat := 4
def ranging : Nat := 8

/-- Drops bits that mean nothing. -/
def ofBits (bits : Nat) : WifiCapabilities := ⟨bits &&& 15⟩

end WifiCapabilities

end ContextHub
