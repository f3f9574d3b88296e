import ContextHub.Simulation.Basic
import ContextHub.Simulation.DemoApp
/-!
# The demo

The three demo nanoapps on simulated radios that answer by themselves, for a span of virtual time.
A seed and the chances of faults fix the whole run.
-/

namespace ContextHub.Demo

abbrev DemoHub := Hub DemoApp Stations

abbrev DemoM := HubM DemoApp Stations

/-- What the demo loads, in order. -/
def apps : List (AppId × Permissions × DemoApp) :=
  [(DemoApp.tickerId, {}, .newTicker (Nanos.ofMillis 100)),
   (DemoApp.scannerId, { wifi := true }, .newScanner (Nanos.ofSeconds 5)),
   (DemoApp.cellPollerId, { wwan := true }, .newCellPoller (Nanos.ofSeconds 2))]

/-- Loads nanoapps until one fails to load. -/
def loadAll : List (AppId × Permissions × DemoApp) → DemoM (Except LoadError Unit)
  | [] => return .ok ()
  | (app, permissions, a) :: rest => do
    match ← Hub.load app permissions a with
    | .error e => return .error e
    | .ok _ => loadAll rest

/-- The demo on a hub before its radios are powered on. -/
def play (fuel : Nat) (seed duration : Nat) : DemoM (Except SimulationError Unit) := do
  Hub.initialise
  match ← loadAll apps with
  | .error e => return .error (.load e)
  | .ok () =>
    let _ ← Hub.advance fuel duration
    let h ← get
    Hub.emit .info "Simulation finished"
      [("seed", toString seed), ("virtual_time_ns", toString h.now),
       ("digest", h.trace.digest)]
    return .ok ()

/-- The hub that the demo starts from. -/
def start (config : Config) (seed : Nat) (chaos : ChaosConfig) : DemoHub :=
  .blank config 0 (.seeded (UInt64.ofNat seed) chaos) none

def run (fuel : Nat) (config : Config) (seed : Nat) (chaos : ChaosConfig) (duration : Nat) :
    EStateM.Result Halt DemoHub (Except SimulationError Unit) :=
  play fuel seed duration (start config seed chaos)

end ContextHub.Demo
