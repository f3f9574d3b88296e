import ContextHub.Hub.Lifecycle
/-!
# Dispatch

Tasks are processed one at a time, in the order in which they were accepted. The recipients of an
event are fixed before the first of them sees it. What is queued along the way comes after the
current task. Loops that need not end are bounded by a number of steps.
-/

namespace ContextHub.Hub

variable {A R : Type} [Behaviour A] [Radio R]

/-! ## Events -/

/-- Runs one recipient's handler. -/
def deliverTo (e : Event) (id : InstanceId) : HubM A R Unit := do
  let h ← get
  let delivery : Delivery := ⟨id, e.sender, e.type, e.payload⟩
  match h.registry.behaviour? id with
  | none => pure ()
  | some a => note (.delivered (Behaviour.watched a) delivery h.now)
  let done ← withBehaviour id fun (a : A) => do return ((), ← Behaviour.handle delivery a)
  if done.isNone then
    emit .error "Nanoapp handler unavailable during dispatch" [("instance_id", toString id)]

/-- An event that nobody receives. -/
def dropUndelivered (e : Event) : HubM A R Unit := do
  match e.target with
  | .broadcast => pure ()
  | .nanoapp id =>
    emit .warn "Dropping event for unknown nanoapp"
      [("instance_id", toString id), ("event_type", Hex.word16 e.type)]
    countDropped
    countMetric (·.addDropped 1)
  release e

def deliver (e : Event) : HubM A R Unit := do
  let recipients := (← get).registry.recipients e
  if recipients.isEmpty then dropUndelivered e
  else
    recipients.forM (deliverTo e)
    modifyStats fun s => { s with dispatched := s.dispatched + 1 }
    countMetric (·.addDispatched 1)
    release e

/-! ## Deferred callbacks -/

def handleSystemTimer (handle : TimerHandle) : TimerPurpose → HubM A R Unit
  | .wifiScanRetry => handleScanRetry handle
  | .wifiScanTimeout => handleScanTimeout handle
  | .wifiRangingTimeout => handleRangingTimeout handle
  | .wwanCellInfoTimeout => handleCellTimeout handle
  | .gnssLocationTimeout => handleSessionTimeout .location handle
  | .gnssMeasurementTimeout => handleSessionTimeout .measurement handle

def handleReport : Report → HubM A R Unit
  | .wifi r => handleWifiReport r
  | .wwan r => handleCellReport r
  | .gnss r => handleGnssReport r

def runCallback : Callback → HubM A R Unit
  | .timerTick => do
    let fired ← tick
    countMetric (·.addFired fired)
  | .timerExpired handle purpose => handleSystemTimer handle purpose
  | .report r => handleReport r
  | .unload id => do
    match ← unload id with
    | .ok () => pure ()
    | .error e => emit .warn "Deferred unload skipped" [("error", e.message)]

/-! ## Tasks -/

/-- Processes one task and counts how long it took by the hub's clock. -/
def process (t : Task) : HubM A R Unit := do
  let started := (← get).now
  match t with
  | .event e => deliver e
  | .deferred c =>
    modifyStats fun s => { s with deferred := s.deferred + 1 }
    countMetric (·.addDeferred 1)
    emit .trace "Running system callback" [("callback_type", c.kind)]
    runCallback c
  let ended := (← get).now
  countMetric (·.observeLatency (ended - started))

/-- Processes the next task, if there is one. -/
def runOnce : HubM A R Bool := do
  let h ← get
  match h.queue.next? with
  | none => return false
  | some (t, queue) =>
    set { h with queue }
    process t
    return true

/-- Processes at most `n` tasks and tells how many there were, beyond `done`. -/
def runSome : Nat → Nat → HubM A R Nat
  | 0, done => return done
  | n + 1, done => do
    if ← runOnce then runSome n (done + 1) else return done

/-- Processes tasks until the queue is empty; without end if `fuel` steps do not suffice. -/
def drain : Nat → Nat → HubM A R Nat
  | 0, _ => throw .endless
  | fuel + 1, done => do
    if ← runOnce then drain fuel (done + 1) else return done

def runUntilIdle (fuel : Nat) : HubM A R Nat := drain fuel 0

/-- Takes the stop signal down if it is up. -/
def takeStop : HubM A R Bool := do
  let h ← get
  if h.stopRequested then
    set { h with stopRequested := false }
    return true
  else return false

/-- Processes tasks until the stop signal is up; a queue that runs empty before is waited on
without end. -/
def runUntilStop : Nat → HubM A R Unit
  | 0 => throw .endless
  | fuel + 1 => do
    if ← takeStop then return ()
    if ← runOnce then runUntilStop fuel else throw .endless

/-- The blocking loop. -/
def run (fuel : Nat) : HubM A R Unit := do
  emit .info "Event loop running"
  runUntilStop fuel
  emit .info "Event loop stopped"

end ContextHub.Hub
