import ContextHub.Nanoapp.Script
import ContextHub.Simulation.Demo
/-!
# Worlds

A hub set up for an experiment: with radios that record, that are simulated, or that are missing,
and with scripted and demo nanoapps side by side. A world can be told from outside to do anything
that its surroundings could do to it.
-/

namespace ContextHub

/-- Nanoapps of two kinds side by side. -/
instance {A B : Type} [Behaviour A] [Behaviour B] : Behaviour (A ⊕ B) where
  start id
    | .inl a => do let (ok, a) ← Behaviour.start id a; return (ok, .inl a)
    | .inr b => do let (ok, b) ← Behaviour.start id b; return (ok, .inr b)
  handle d
    | .inl a => do return .inl (← Behaviour.handle d a)
    | .inr b => do return .inr (← Behaviour.handle d b)
  stop id
    | .inl a => do return .inl (← Behaviour.stop id a)
    | .inr b => do return .inr (← Behaviour.stop id b)
  watched
    | .inl a => Behaviour.watched a
    | .inr b => Behaviour.watched b

abbrev World := Hub (Script ⊕ DemoApp) Stations

abbrev WorldM := HubM (Script ⊕ DemoApp) Stations

namespace World

/-- Whether reports for a device would reach the hub. -/
def isListening (d : Device) : WorldM Bool := do return ((← get).radios.get d).isListening

/-- Lets a radio report something; `false` if nobody listens. -/
def complete (r : Report) : WorldM Bool := do
  if ← isListening r.device then
    Hub.deferOrDie (.report r)
    return true
  else return false

def refuse (d : Device) (name : RequestName) (on : Bool) : WorldM Unit :=
  modify fun h => { h with radios := h.radios.set d ((h.radios.get d).setRefusal name on) }

/-- Loads a nanoapp that does not start, again and again; tells how often that failed so. -/
def churn : Nat → Nat → WorldM Nat
  | 0, failed => return failed
  | n + 1, failed => do
    match ← Hub.load ⟨0⟩ {} (.inl { starts := false }) with
    | .error (.startFailed _) => churn n (failed + 1)
    | _ => churn n failed

/-- Moves the clock at once, serves the alarm if it is due, and processes everything. -/
def jump (fuel d : Nat) : WorldM (Bool × Nat) := do
  Hub.advanceClock d
  let fired ← Hub.fireIfDue
  let n ← Hub.runUntilIdle fuel
  return (fired, n)

/-- Moves the clock at once and then lets no time pass. -/
def jumpAndSettle (fuel d : Nat) : WorldM Nat := do
  Hub.advanceClock d
  Hub.advance fuel 0

/-- What a simulated WiFi, mobile and satellite radio was asked, as counts and lists. -/
structure RadioLog where
  listening : Bool
  scans : List ScanParams
  monitors : List Bool
  rangings : Nat
  cells : Nat
  locations : List (Bool × Nat × Nat)
  measurements : List (Bool × Nat)
  deriving DecidableEq, Repr

def radioLog (s : Stations) : RadioLog :=
  { listening := s.wifi.isListening
    scans := s.wifi.history.filterMap fun | .scan p => some p | _ => none
    monitors := s.wifi.history.filterMap fun | .scanMonitor b => some b | _ => none
    rangings := (s.wifi.history.filter (·.name == .ranging)).length
    cells := s.wwan.history.length
    locations := s.gnss.history.filterMap fun
      | .location enable interval fix => some (enable, interval, fix)
      | _ => none
    measurements := s.gnss.history.filterMap fun
      | .measurement enable interval => some (enable, interval)
      | _ => none }

end World

end ContextHub
