import ContextHub.Hub.Basic
/-!
# Timers of a hub

Setting, cancelling and serving timers. An alarm only queues a tick; the tick collects what is due,
sets the alarm for the rest, and then posts one event or defers one callback for each expiry. A
nanoapp's expiry that finds the queue full is lost and counted; a system's halts the hub.
-/

namespace ContextHub.Hub

variable {A R : Type}

def setTimers (pool : TimerPool) : HubM A R Unit := modify fun h => { h with timers := pool }

def trySetTimer (s : TimerSpec) : HubM A R (Except TimerError TimerHandle) := do
  let h ← get
  match h.timers.set h.now s with
  | .error e => return .error e
  | .ok (handle, pool) =>
    setTimers pool
    emit .trace "Timer set"
      [("owner", toString s.owner), ("handle", toString handle),
       ("duration_ns", toString (Nanos.clamp s.duration)), ("one_shot", toString s.oneShot)]
    return .ok handle

/-- A nanoapp's timer; the invalid handle if it is refused. -/
def setNanoappTimer (owner : InstanceId) (duration : Nat) (cookie : Cookie) (oneShot : Bool) :
    HubM A R TimerHandle := do
  match ← trySetTimer { owner, duration, cookie, oneShot } with
  | .ok handle => return handle
  | .error e =>
    emit .warn "Timer request refused" [("owner", toString owner), ("error", e.message)]
    return .invalid

/-- A one-shot timer of the system, which cannot do without. -/
def setSystemTimer (duration : Nat) (purpose : TimerPurpose) : HubM A R TimerHandle := do
  match ← trySetTimer { owner := .system, duration, purpose := some purpose } with
  | .ok handle => return handle
  | .error e => fatal s!"Failed to set system timer for {purpose.name}: {e.message}"

def cancelTimer (owner : InstanceId) (handle : TimerHandle) : HubM A R Bool := do
  let h ← get
  match h.timers.cancel? h.now owner handle with
  | none => return false
  | some pool =>
    setTimers pool
    return true

def cancelSystemTimer (handle : TimerHandle) : HubM A R Bool := cancelTimer .system handle

def cancelTimersOf (owner : InstanceId) : HubM A R Nat := do
  let h ← get
  let (n, pool) := h.timers.cancelAllOwnedBy h.now owner
  setTimers pool
  return n

/-- Tells the owner of an expired timer. -/
def postExpiry (r : TimerRequest) : HubM A R Unit :=
  match r.purpose with
  | some purpose => deferOrDie (.timerExpired r.handle purpose)
  | none => do
    if ← post (.toOne EventType.timer (.timer r.handle r.cookie) r.owner) then return ()
    modify fun h => { h with timers := { h.timers with lost := h.timers.lost + 1 } }
    emit .error "Failed to post timer event"
      [("owner", toString r.owner), ("handle", toString r.handle)]

/-- Serves everything that is due and tells how much that was. -/
def tick : HubM A R Nat := do
  let h ← get
  match h.timers.tick? h.now with
  | none => throw .endless
  | some (fired, pool) =>
    setTimers pool
    fired.forM postExpiry
    return fired.length

/-- If the alarm's time has come, takes it down and queues a tick. -/
def fireIfDue : HubM A R Bool := do
  let h ← get
  match h.timers.takeAlarm? h.now with
  | none => return false
  | some pool =>
    setTimers pool
    deferOrDie .timerTick
    return true

/-- Moves the clock on. -/
def advanceClock (d : Nat) : HubM A R Unit := modify fun h => { h with now := Nanos.after h.now d }

/-- Moves the clock to an instant unless it is already past. -/
def advanceClockTo (t : Nat) : HubM A R Unit := modify fun h => { h with now := max h.now t }

end ContextHub.Hub
