import ContextHub.Chaos
import ContextHub.Radio.Basic
/-!
# Stations

Drivers that need no hardware. A device may be absent: it powers on, can do nothing, and refuses
everything. A recording station accepts every request except kinds it was told to refuse; its
reports come from outside. A simulated station keeps what it was asked; with a source of chaos it
answers by itself, with made-up data, while it is powered on.
-/

namespace ContextHub

/-- The kinds of request, by name. -/
inductive RequestName where
  | monitor
  | scan
  | ranging
  | cell
  | location
  | measurement
  deriving DecidableEq, Repr

namespace RequestName

def text : RequestName → String
  | monitor => "monitor"
  | scan => "scan"
  | ranging => "ranging"
  | cell => "cell"
  | location => "loc"
  | measurement => "meas"

def all : List RequestName := [monitor, scan, ranging, cell, location, measurement]

def ofText? (s : String) : Option RequestName := all.find? (·.text == s)

/-- The device that requests of this kind are for. -/
def device : RequestName → Device
  | monitor => .wifi
  | scan => .wifi
  | ranging => .wifi
  | cell => .wwan
  | location => .gnss
  | measurement => .gnss

end RequestName

def RadioRequest.name : RadioRequest → RequestName
  | scanMonitor _ => .monitor
  | scan _ => .scan
  | ranging _ => .ranging
  | cellInfo => .cell
  | location _ _ _ => .location
  | measurement _ _ => .measurement

/-- All capability bits of a device. -/
def Device.allCapabilities : Device → Nat
  | wifi => 15
  | wwan => 3
  | gnss => 7

/-! ## Made-up data -/

namespace Synthetic

def channels : List Nat := [2412, 2437, 2462, 5180]

/-- The name of the `i`-th network found: one of those asked for in turn, or a made-up one. -/
def ssid (params : ScanParams) (i : Nat) : String :=
  match params.ssids[i % max params.ssids.length 1]? with
  | some s => s
  | none => s!"sim-ap-{i}"

def scanResult (params : ScanParams) (i : Nat) (r : Random) : ScanResult × Random :=
  let (bssid, r) := r.sixBytes
  let (rssi, r) := r.between (-90) (-30)
  let (channel, r) := r.below channels.length
  (⟨ssid params i, bssid, rssi, channels[channel]?.getD 0⟩, r)

def scanResults (params : ScanParams) : Nat → Nat → Random → List ScanResult × Random
  | 0, _, r => ([], r)
  | n + 1, i, r =>
    let (first, r) := scanResult params i r
    let (rest, r) := scanResults params n (i + 1) r
    (first :: rest, r)

/-- One to four access points. -/
def scan (params : ScanParams) (now : Nat) (r : Random) : Scan × Random :=
  let (n, r) := r.between 1 4
  let (results, r) := scanResults params n.toNat 0 r
  (⟨params.type, now, results⟩, r)

/-- A distance from half a metre to fifty for every target. -/
def ranging : List Bssid → Random → List RangingResult × Random
  | [], r => ([], r)
  | bssid :: targets, r =>
    let (distance, r) := r.between 500 49999
    let (rest, r) := ranging targets r
    (⟨bssid, distance.toNat, true⟩ :: rest, r)

def cellList : Nat → Nat → Random → List CellInfo × Random
  | 0, _, r => ([], r)
  | n + 1, i, r =>
    let (cellId, r) := r.next64
    let (signal, r) := r.between (-120) (-60)
    let (rest, r) := cellList n (i + 1) r
    (⟨.lte, i == 0, cellId, signal⟩ :: rest, r)

/-- One to three cells, the first of which is registered. -/
def cells (r : Random) : List CellInfo × Random :=
  let (n, r) := r.between 1 3
  cellList n.toNat 0 r

end Synthetic

/-! ## Stations -/

structure Simulated where
  capabilities : Nat
  refusing : Bool := false
  chaos : Option Chaos := none
  poweredOn : Bool := false
  /-- What was asked and not refused, latest first. -/
  history : List RadioRequest := []
  deriving DecidableEq, Repr

namespace Simulated

/-- The reports that follow a request when `mishap` befalls it. -/
def reports (now : Nat) (request : RadioRequest) (mishap : Mishap) (r : Random) :
    List Report × Random :=
  match request, mishap with
  | .scanMonitor enable, .none => ([.wifi (.monitorStatus enable 0)], r)
  | .scanMonitor enable, .nack code => ([.wifi (.monitorStatus (!enable) code.raw)], r)
  | .scanMonitor _, .drop => ([], r)
  | .scan params, .none =>
    let (results, r) := Synthetic.scan params now r
    ([.wifi (.scanResponse true 0), .wifi (.scan results)], r)
  | .scan _, .nack code => ([.wifi (.scanResponse false code.raw)], r)
  | .scan _, .drop => ([.wifi (.scanResponse true 0)], r)
  | .ranging targets, .none =>
    let (results, r) := Synthetic.ranging targets r
    ([.wifi (.ranging 0 (some results))], r)
  | .ranging _, .nack code => ([.wifi (.ranging code.raw none)], r)
  | .ranging _, .drop => ([], r)
  | .cellInfo, .none =>
    let (cells, r) := Synthetic.cells r
    ([.wwan { cells }], r)
  | .cellInfo, .nack code => ([.wwan { code := code.raw }], r)
  | .cellInfo, .drop => ([], r)
  | .location enable _ _, .none => ([.gnss (.locationStatus enable 0)], r)
  | .location enable _ _, .nack code => ([.gnss (.locationStatus (!enable) code.raw)], r)
  | .location _ _ _, .drop => ([], r)
  | .measurement enable _, .none => ([.gnss (.measurementStatus enable 0)], r)
  | .measurement enable _, .nack code => ([.gnss (.measurementStatus (!enable) code.raw)], r)
  | .measurement _ _, .drop => ([], r)

def request (now : Nat) (q : RadioRequest) (s : Simulated) :
    Except String (Reaction Simulated) := do
  if s.refusing then return { accepted := false, next := s }
  let s := { s with history := q :: s.history }
  match s.chaos, s.poweredOn with
  | some chaos, true =>
    let (mishap, chaos) ← chaos.nextMishap
    let (reports, random) := reports now q mishap chaos.random
    return { accepted := true, reports, next := { s with chaos := some { chaos with random } } }
  | _, _ => return { accepted := true, next := s }

end Simulated

inductive Station where
  | absent
  | recording (opens : Bool) (capabilities : Nat) (refused : List RequestName) (listening : Bool)
  | simulated (s : Simulated)
  deriving DecidableEq, Repr

namespace Station

def powerOn : Station → Bool × Station
  | absent => (true, absent)
  | recording opens caps refused _ => (opens, recording opens caps refused true)
  | simulated s => (true, simulated { s with poweredOn := true })

def powerOff : Station → Station
  | absent => absent
  | recording opens caps refused _ => recording opens caps refused false
  | simulated s => simulated { s with poweredOn := false }

def capabilities : Station → Nat
  | absent => 0
  | recording _ caps _ _ => caps
  | simulated s => s.capabilities

/-- Whether reports from outside would reach the hub. -/
def isListening : Station → Bool
  | absent => false
  | recording _ _ _ listening => listening
  | simulated s => s.poweredOn

def request (now : Nat) (q : RadioRequest) : Station → Except String (Reaction Station)
  | absent => .ok { accepted := false, next := absent }
  | recording opens caps refused listening =>
    .ok { accepted := !refused.contains q.name, next := recording opens caps refused listening }
  | simulated s => (s.request now q).map fun r => { r with next := simulated r.next }

/-- Makes a station refuse a kind of request, or no longer; a simulated one refuses all or none. -/
def setRefusal (name : RequestName) (on : Bool) : Station → Station
  | absent => absent
  | recording opens caps refused listening =>
    let rest := refused.filter (· != name)
    recording opens caps (if on then name :: rest else rest) listening
  | simulated s => simulated { s with refusing := on }

/-- What a simulated station was asked and did not refuse, earliest first. -/
def history : Station → List RadioRequest
  | simulated s => s.history.reverse
  | _ => []

end Station

/-- One station for each device. -/
structure Stations where
  wifi : Station := .absent
  wwan : Station := .absent
  gnss : Station := .absent
  deriving DecidableEq, Repr

namespace Stations

def get (s : Stations) : Device → Station
  | .wifi => s.wifi
  | .wwan => s.wwan
  | .gnss => s.gnss

def set (s : Stations) (d : Device) (station : Station) : Stations :=
  match d with
  | .wifi => { s with wifi := station }
  | .wwan => { s with wwan := station }
  | .gnss => { s with gnss := station }

/-- The capabilities of simulated radios: the mobile one knows no neighbours, the satellite one no
passive listening. -/
def simulatedCapabilities : Device → Nat
  | .wifi => 15
  | .wwan => 1
  | .gnss => 3

def simulated (chaos : Device → Option Chaos) : Stations :=
  let station (d : Device) : Station :=
    .simulated { capabilities := simulatedCapabilities d, chaos := chaos d }
  { wifi := station .wifi, wwan := station .wwan, gnss := station .gnss }

/-- Simulated radios that report only what they are told to. -/
def scripted : Stations := simulated fun _ => none

/-- Simulated radios that answer by themselves, each with a random sequence of its own. -/
def seeded (seed : UInt64) (config : ChaosConfig) : Stations :=
  simulated fun d => some <| .ofSeed (match d with
    | .wifi => seed
    | .wwan => seed + 1
    | .gnss => seed + 2) config

end Stations

instance : Radio Stations where
  powerOn d s := let (worked, station) := (s.get d).powerOn; (worked, s.set d station)
  powerOff d s := s.set d (s.get d).powerOff
  capabilities d s := (s.get d).capabilities
  request now q s :=
    ((s.get q.device).request now q).map fun r =>
      { accepted := r.accepted, reports := r.reports, next := s.set q.device r.next }

end ContextHub
