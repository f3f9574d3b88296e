import ContextHub.Hub.Dispatch
import ContextHub.Radio.Station
/-!
# Simulation on virtual time

`advance` moves a hub's clock from alarm to alarm, never past one, and processes all tasks at every
stop. Each alarm served leaves an entry in the trace. Loops are bounded by a number of steps.
-/

namespace ContextHub.Hub

variable {A R : Type} [Behaviour A] [Radio R]

/-- The tag of the trace entries for alarms. -/
def deadlineTag : Nat := 0

/-- The alarm's deadline if it is no later than `until_`. -/
def dueBy? (h : Hub A R) (until_ : Nat) : Option Nat :=
  h.timers.alarm.filter fun t => decide (t ≤ until_)

/-- Serves the alarm if its time has come, and traces it. -/
def serveAlarm : HubM A R Unit := do
  if ← fireIfDue then
    modify fun h => { h with
      deadlines := h.deadlines + 1
      trace := h.trace.record ⟨h.now, .system, deadlineTag, []⟩ }

/-- Goes from alarm to alarm up to `until_`, and counts the tasks on the way beyond `done`. -/
def serveAlarms (fuel until_ : Nat) : Nat → Nat → HubM A R Nat
  | 0, _ => throw .endless
  | n + 1, done => do
    match (← get).dueBy? until_ with
    | none => return done
    | some t =>
      advanceClockTo t
      serveAlarm
      let more ← runUntilIdle fuel
      serveAlarms fuel until_ n (done + more)

/-- Lets virtual time pass and tells how many tasks were processed. -/
def advance (fuel d : Nat) : HubM A R Nat := do
  let until_ := Nanos.after (← get).now d
  let before ← runUntilIdle fuel
  let served ← serveAlarms fuel until_ fuel before
  advanceClockTo until_
  let after ← runUntilIdle fuel
  return served + after

end ContextHub.Hub

namespace ContextHub

/-- A bound that no simulation of ordinary length comes near. -/
def ampleFuel : Nat := 1000000000000

/-- The figures of a simulation. -/
structure Summary where
  virtualTime : Nat
  deadlines : Nat
  dispatched : Nat
  dropped : Nat
  deferred : Nat
  traceEntries : Nat
  digest : String
  deriving DecidableEq, Repr

def Hub.summary {A R : Type} (h : Hub A R) : Summary :=
  { virtualTime := h.now
    deadlines := h.deadlines
    dispatched := h.stats.dispatched
    dropped := h.stats.dropped
    deferred := h.stats.deferred
    traceEntries := h.trace.entries
    digest := h.trace.digest }

inductive SimulationError where
  | load (e : LoadError)
  | digestMismatch (expected actual : String)
  deriving DecidableEq, Repr

def SimulationError.message : SimulationError → String
  | load e => e.message
  | digestMismatch expected actual =>
    s!"Trace digest mismatch: expected {expected}, got {actual}"

/-- Compares the trace's digest with what was expected, in letters of either case. -/
def Hub.verify {A R : Type} (h : Hub A R) (expected : String) : Except SimulationError Unit :=
  if h.trace.matchesDigest expected then .ok ()
  else .error (.digestMismatch expected h.trace.digest)

end ContextHub
