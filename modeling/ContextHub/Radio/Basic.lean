import ContextHub.Event
/-!
# Radios

The hardware behind the hub: WiFi, mobile and satellite. A request is accepted or refused at once,
and its outcome comes later as reports, which the hub queues for itself. `Radio` is what the hub
needs of a set of drivers with states `R`; reports that a driver gives together with its answer
are queued in their order.
-/

namespace ContextHub

inductive Device where
  | wifi
  | wwan
  | gnss
  deriving DecidableEq, Repr

namespace Device

/-- The name in metrics and journals. -/
def name : Device → String
  | wifi => "wifi"
  | wwan => "wwan"
  | gnss => "gnss"

def all : List Device := [wifi, wwan, gnss]

def ofName? (s : String) : Option Device := all.find? (·.name == s)

/-- The name in log messages. -/
def title : Device → String
  | wifi => "WiFi"
  | wwan => "WWAN"
  | gnss => "GNSS"

end Device

/-- The device that a report comes from. -/
def Report.device : Report → Device
  | .wifi _ => .wifi
  | .wwan _ => .wwan
  | .gnss _ => .gnss

inductive RadioRequest where
  | scanMonitor (enable : Bool)
  | scan (params : ScanParams)
  | ranging (targets : List Bssid)
  | cellInfo
  | location (enable : Bool) (interval fix : Nat)
  | measurement (enable : Bool) (interval : Nat)
  deriving DecidableEq, Repr

def RadioRequest.device : RadioRequest → Device
  | scanMonitor _ => .wifi
  | scan _ => .wifi
  | ranging _ => .wifi
  | cellInfo => .wwan
  | location _ _ _ => .gnss
  | measurement _ _ => .gnss

/-- A driver's immediate answer to a request. -/
structure Reaction (R : Type) where
  accepted : Bool
  reports : List Report := []
  next : R

/-- Drivers for all devices, with states `R`. A request may fail beyond repair, with a message. -/
class Radio (R : Type) where
  powerOn : Device → R → Bool × R
  powerOff : Device → R → R
  capabilities : Device → R → Nat
  request : Nat → RadioRequest → R → Except String (Reaction R)

end ContextHub
