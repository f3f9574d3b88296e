import ContextHub.Config.Basic
import ContextHub.Hub.Journal
import ContextHub.Log
import ContextHub.Metrics
import ContextHub.Nanoapp.Registry
import ContextHub.Queue
import ContextHub.Request.Slot
import ContextHub.Trace
/-!
# The hub

One hub holds everything: the clock, the task queue, the timers, the heap, the loaded nanoapps, the
state of every radio's requests, the radios themselves, and what was observed so far. `HubM` is a
step of a hub. A step may halt the hub for good; the state reached until then is kept.

Posting is here too. An event that is not accepted counts as dropped and is done with at once.
-/

namespace ContextHub

/-- Why a hub stopped for good. -/
inductive Halt where
  /-- Going on would break the hub's own guarantees. -/
  | fatal (message : String)
  /-- The work has no end, or none within the given bound. -/
  | endless
  deriving DecidableEq, Repr

/-! ## Requests in flight -/

/-- What a nanoapp asked of scan monitoring, and the common state asked of the radio. -/
structure MonitorChange where
  enable : Bool
  target : Bool
  deriving DecidableEq, Repr

namespace MonitorChange

def debugText (c : MonitorChange) : String :=
  Structured.record "ScanMonitorTransition"
    [("enable", toString c.enable), ("target", toString c.target)]

end MonitorChange

inductive ScanPhase where
  | awaitingResponse
  | retryScheduled
  | awaitingResults
  deriving DecidableEq, Repr

def ScanPhase.name : ScanPhase → String
  | awaitingResponse => "AwaitingResponse"
  | retryScheduled => "RetryScheduled"
  | awaitingResults => "AwaitingResults"

structure ScanJob where
  params : ScanParams
  phase : ScanPhase := .awaitingResponse
  retriesUsed : Nat := 0
  retryTimer : TimerHandle := .invalid
  deriving DecidableEq, Repr

def ScanJob.debugText (j : ScanJob) : String :=
  Structured.record "ScanRequest"
    [("params", j.params.debugText), ("phase", j.phase.name),
     ("retries_used", toString j.retriesUsed),
     ("retry_timer", s!"TimerHandle({j.retryTimer.val})")]

structure WifiState where
  settings : WifiSettings := {}
  available : Bool := false
  monitorEnabled : Bool := false
  monitors : List InstanceId := []
  monitorSlot : Slot MonitorChange := none
  scanSlot : Slot ScanJob := none
  rangingSlot : Slot Unit := none
  monitorErrors : Histogram := {}
  scanErrors : Histogram := {}
  rangingErrors : Histogram := {}
  deriving DecidableEq, Repr

structure WwanState where
  settings : WwanSettings := {}
  available : Bool := false
  cellSlot : Slot Unit := none
  cellErrors : Histogram := {}
  deriving DecidableEq, Repr

/-- One nanoapp's part in a positioning session. -/
structure SessionRequest where
  id : InstanceId
  interval : Nat
  fix : Nat
  deriving DecidableEq, Repr

namespace SessionRequest

def debugText (r : SessionRequest) : String :=
  Structured.record "SessionRequest"
    [("instance_id", r.id.debugText), ("min_interval", Nanos.text r.interval),
     ("min_time_to_next_fix", Nanos.text r.fix)]

end SessionRequest

/-- How a radio's session is set; off unless said otherwise. -/
structure SessionSetting where
  enabled : Bool := false
  interval : Nat := 0
  fix : Nat := 0
  deriving DecidableEq, Repr

namespace SessionSetting

/-- The setting that serves all requests: on if there is one, at the smallest intervals. -/
def aggregate (requests : List SessionRequest) : SessionSetting :=
  requests.foldl (fun s r =>
    if s.enabled then ⟨true, min s.interval r.interval, min s.fix r.fix⟩
    else ⟨true, r.interval, r.fix⟩) {}

def debugText (s : SessionSetting) : String :=
  Structured.record "SessionState"
    [("enabled", toString s.enabled), ("min_interval", Nanos.text s.interval),
     ("min_time_to_next_fix", Nanos.text s.fix)]

end SessionSetting

/-- A session on its way to a new setting; `request` is the requester's part in it, none if the
requester leaves. -/
structure SessionChange where
  request : Option SessionRequest
  target : SessionSetting
  deriving DecidableEq, Repr

def SessionChange.debugText (c : SessionChange) : String :=
  Structured.record "SessionTransition"
    [("request", Structured.option SessionRequest.debugText c.request),
     ("target", c.target.debugText)]

structure Session where
  requests : List SessionRequest := []
  /-- The setting that the radio confirmed last. -/
  confirmed : SessionSetting := {}
  slot : Slot SessionChange := none
  errors : Histogram := {}
  deriving DecidableEq, Repr

structure GnssState where
  settings : GnssSettings := {}
  available : Bool := false
  location : Session := {}
  measurement : Session := {}
  deriving DecidableEq, Repr

/-! ## The hub and its steps -/

/-- A hub for nanoapps with states `A` and radios with states `R`. -/
structure Hub (A R : Type) where
  now : Nat := 0
  queue : Queue
  stats : LoopStats := {}
  stopRequested : Bool := false
  timers : TimerPool
  heap : Heap
  registry : Registry A := {}
  wifi : WifiState := {}
  wwan : WwanState := {}
  gnss : GnssState := {}
  radios : R
  metrics : Option Metrics := none
  trace : Trace := {}
  /-- How many alarms a simulation has served. -/
  deadlines : Nat := 0
  /-- Latest first. -/
  log : List LogLine := []
  /-- Latest first. -/
  journal : List Entry := []

abbrev HubM (A R : Type) := EStateM Halt (Hub A R)

namespace Hub

variable {A R : Type}

def emit (level : Level) (message : String) (fields : List (String × String) := []) :
    HubM A R Unit :=
  modify fun h => { h with log := ⟨level, message, fields⟩ :: h.log }

def note (e : Entry) : HubM A R Unit := modify fun h => { h with journal := e :: h.journal }

/-- Logs and halts. -/
def fatal {α : Type} (message : String) : HubM A R α := do
  emit .error message [("fatal", "true")]
  throw (.fatal message)

def countMetric (f : Metrics → Metrics) : HubM A R Unit :=
  modify fun h => { h with metrics := h.metrics.map f }

def modifyStats (f : LoopStats → LoopStats) : HubM A R Unit :=
  modify fun h => { h with stats := f h.stats }

/-! ## Posting -/

/-- An event is done with. -/
def release (e : Event) : HubM A R Unit := note (.released e)

def countDropped : HubM A R Unit := modifyStats fun s => { s with dropped := s.dropped + 1 }

/-- Hands an event to the queue. -/
def tryPost (e : Event) : HubM A R (Except QueueError Unit) := do
  let h ← get
  match h.queue.offer (.event e) with
  | .ok queue =>
    set { h with
      queue
      stats := { h.stats with posted := h.stats.posted + 1 }
      journal := .handed e true :: h.journal }
    return .ok ()
  | .error err =>
    note (.handed e false)
    countDropped
    emit .warn "Dropping event" [("event_type", Hex.word16 e.type), ("error", err.message)]
    release e
    return .error err

def post (e : Event) : HubM A R Bool := do
  match ← tryPost e with
  | .ok () => return true
  | .error _ => return false

/-- For events whose loss would leave requesters waiting for ever. -/
def postOrDie (e : Event) : HubM A R Unit := do
  match ← tryPost e with
  | .ok () => return ()
  | .error err => fatal s!"Failed to post critical event: {err.message}"

/-- Queues work of the hub itself. -/
def defer (c : Callback) : HubM A R Bool := do
  let h ← get
  match h.queue.offer (.deferred c) with
  | .ok queue =>
    set { h with queue }
    return true
  | .error err =>
    emit .error "Failed to defer system callback"
      [("callback_type", c.kind), ("error", err.message)]
    return false

def deferOrDie (c : Callback) : HubM A R Unit := do
  if ← defer c then return () else fatal s!"Failed to defer {c.kind} callback"

/-- Takes queued events out; each counts as dropped and is done with. -/
def discard (p : Event → Bool) : HubM A R (List Event) := do
  let h ← get
  let (out, queue) := h.queue.discard p
  set { h with queue }
  out.forM fun e => do
    countDropped
    release e
  return out

/-- Asks for a nanoapp to be unloaded when the loop comes to it. -/
def requestUnload (id : InstanceId) : HubM A R Bool := defer (.unload id)

/-- Makes a blocking run end after its current task. -/
def stopLoop : HubM A R Unit := modify fun h => { h with stopRequested := true }

/-- Drops the queue; what it still held is gone. -/
def closeQueue : HubM A R Unit := modify fun h => { h with queue := h.queue.close }

/-! ## Subscriptions -/

/-- Subscribes a nanoapp to a broadcast type; `false` if it is not loaded. -/
def subscribe (id : InstanceId) (type : EventType) : HubM A R Bool := do
  let h ← get
  if h.registry.contains id then
    set { h with registry := h.registry.update id (·.subscribe type) }
    return true
  else return false

def unsubscribe (id : InstanceId) (type : EventType) : HubM A R Bool := do
  let h ← get
  if h.registry.contains id then
    set { h with registry := h.registry.update id (·.unsubscribe type) }
    return true
  else return false

/-! ## Radios -/

variable [Radio R]

/-- Asks a radio; the reports that come with its answer are queued. -/
def requestRadio (request : RadioRequest) : HubM A R Bool := do
  let h ← get
  match Radio.request h.now request h.radios with
  | .error message => throw (.fatal message)
  | .ok reaction =>
    set { h with
      radios := reaction.next
      journal := .requested request reaction.accepted :: h.journal }
    reaction.reports.forM fun r => deferOrDie (.report r)
    return reaction.accepted

/-- Powers a device on and tells whether that worked. -/
def powerOn (device : Device) : HubM A R Bool := do
  let h ← get
  let (worked, radios) := Radio.powerOn device h.radios
  set { h with radios, journal := .poweredOn device h.now worked :: h.journal }
  if !worked then emit .error s!"{device.title} PAL failed to open"
  return worked

def powerOff (device : Device) : HubM A R Unit :=
  modify fun h => { h with
    radios := Radio.powerOff device h.radios
    journal := .poweredOff device :: h.journal }

/-! ## What the request managers share -/

/-- Counts a failed completion of a resource. -/
def countRadioError (device : Device) : HubM A R Unit := countMetric (·.addRadioError device.name)

/-- Logs a byte that is no code. -/
def checkCode (raw : Nat) : HubM A R Unit := do
  if (ErrorCode.ofRaw? raw).isNone then
    emit .error "Undefined error code from PAL" [("error_code", toString raw)]

/-- Fills an empty slot; a slot that is not empty is a mistake of the hub. -/
def occupied {κ : Type} (s : Slot κ) (p : Pending κ) : HubM A R (Slot κ) :=
  match s.fill? p with
  | some s => return s
  | none => throw (.fatal Slot.occupiedFault)

end Hub

end ContextHub
