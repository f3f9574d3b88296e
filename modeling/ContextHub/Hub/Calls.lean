import ContextHub.Hub.Gnss
import ContextHub.Hub.Wifi
import ContextHub.Hub.Wwan
/-!
# Calls of nanoapps

How the hub answers each call of a running nanoapp. Calls are synchronous and tell only whether a
request was accepted; results come later as events. A resource is refused to a nanoapp that did not
declare it, and types below the first user value cannot be sent.
-/

namespace ContextHub.Hub

variable {A R : Type}

/-- Whether a nanoapp declared a permission; logs if it did not. -/
def permitted (id : InstanceId) (permission : Permission) : HubM A R Bool := do
  match (← get).registry.find? id with
  | none => return false
  | some n =>
    if n.permissions.allows permission then return true
    emit .warn "Nanoapp lacks permission"
      [("app_id", Hex.word64 n.app.val),
       ("permission", (Permissions.only permission).debugText)]
    return false

/-- Turns an admission into a yes or no; logs a refusal. -/
def admitted (id : InstanceId) (request : String) (result : Except RequestError Unit) :
    HubM A R Bool := do
  match result with
  | .ok () => return true
  | .error e =>
    emit .debug "Request refused"
      [("instance_id", toString id), ("request", request), ("error", e.message)]
    return false

/-- Asks for a resource on behalf of a nanoapp that may have it. -/
def askFor (id : InstanceId) (permission : Permission) (request : String)
    (ask : HubM A R (Except RequestError Unit)) : HubM A R Bool := do
  if ← permitted id permission then admitted id request (← ask) else return false

/-! ## Heap -/

def updateHeapGauge : HubM A R Unit := do
  let h ← get
  countMetric (·.setHeapBytes (min h.heap.totalBytes Metrics.gaugeMax))

/-- Allocates for an owner; nothing if the ledger refuses. -/
def heapAlloc (owner : InstanceId) (bytes : Nat) : HubM A R (Option HeapPtr) := do
  let h ← get
  match h.heap.alloc owner bytes with
  | .ok (ptr, heap) =>
    set { h with heap }
    return some ptr
  | .error e =>
    emit .debug "Heap allocation refused"
      [("requester", toString owner), ("bytes", toString bytes), ("error", e.message)]
    return none

def heapFree (requester : InstanceId) (ptr : Option HeapPtr) : HubM A R Unit := do
  match ptr with
  | none => return ()
  | some ptr =>
    let h ← get
    match h.heap.free requester ptr with
    | .ok heap => set { h with heap }
    | .error .unknown =>
      emit .error "Free of unknown heap block"
        [("requester", toString requester), ("ptr", toString ptr.val)]
    | .error (.foreign owner) =>
      emit .error "Free of heap block owned by another nanoapp"
        [("requester", toString requester), ("owner", toString owner),
         ("ptr", toString ptr.val)]

def heapAccess (requester : InstanceId) (ptr : HeapPtr) (edit : BlockEdit) :
    HubM A R (Option Nat) := do
  let h ← get
  match h.heap.access requester ptr edit with
  | none => return none
  | some (n, heap) =>
    set { h with heap }
    return some n

/-! ## Timers and events -/

/-- Cancels a nanoapp's timer together with those of its expiries that are still queued. -/
def cancelWithExpiries (id : InstanceId) (handle : TimerHandle) : HubM A R Bool := do
  let cancelled ← cancelTimer id handle
  let discarded ← discard (·.isExpiryOf handle id)
  return cancelled || !discarded.isEmpty

/-- Posts a nanoapp's event in its name. -/
def send (id : InstanceId) (e : Event) : HubM A R Bool := do
  if e.type < EventType.firstUser then
    emit .warn "Nanoapp tried to send a reserved event type"
      [("instance_id", toString id), ("event_type", toString e.type)]
    note (.handed e false)
    release e
    return false
  else post { e with sender := id }

variable [Radio R]

def capabilitiesFor (id : InstanceId) (p : Permission) : HubM A R Nat := do
  if ← permitted id p then
    match p with
    | .wifi => wifiCapabilities
    | .gnss => gnssCapabilities
    | .wwan => wwanCapabilities
  else return 0

/-- The names under which refusals are logged. -/
def sessionRequestName : SessionKind → String
  | .location => "gnss location session"
  | .measurement => "gnss measurement session"

def askForSession (id : InstanceId) (k : SessionKind) (request : Option SessionRequest)
    (cookie : Cookie) : HubM A R Bool :=
  askFor id .gnss (sessionRequestName k) (controlSession k id request cookie)

/-- Answers one call of the nanoapp `id`. -/
def perform (id : InstanceId) : (c : Call) → HubM A R c.Reply
  | .now => do return (← get).now
  | .appId => do return (((← get).registry.find? id).map (·.app)).getD ⟨0⟩
  | .setTimer duration cookie oneShot => setNanoappTimer id duration cookie oneShot
  | .cancelTimer handle => cancelWithExpiries id handle
  | .alloc bytes => do
    let ptr ← heapAlloc id bytes
    updateHeapGauge
    return ptr
  | .free ptr => do
    heapFree id ptr
    updateHeapGauge
  | .access ptr edit => heapAccess id ptr edit
  | .wasIssued ptr => do return (← get).heap.wasIssued ptr
  | .send e => send id e
  | .subscribe type => subscribe id type
  | .unsubscribe type => unsubscribe id type
  | .find app => do return ((← get).registry.findApp? app).map (·.id)
  | .requestUnload => requestUnload id
  | .stopLoop => stopLoop
  | .capabilities p => capabilitiesFor id p
  | .scanMonitor enable cookie =>
    askFor id .wifi "wifi scan monitor" (configureMonitor id enable cookie)
  | .scan params cookie => askFor id .wifi "wifi scan" (requestScan id params cookie)
  | .ranging targets cookie => askFor id .wifi "wifi ranging" (requestRanging id targets cookie)
  | .cellInfo cookie => askFor id .wwan "cell info" (requestCellInfo id cookie)
  | .location interval fix cookie =>
    askForSession id .location (some ⟨id, interval, fix⟩) cookie
  | .stopLocation cookie => askForSession id .location none cookie
  | .measurement interval cookie => askForSession id .measurement (some ⟨id, interval, 0⟩) cookie
  | .stopMeasurement cookie => askForSession id .measurement none cookie
  | .trace tag detail =>
    modify fun h => { h with trace := h.trace.record ⟨h.now, id, tag, detail⟩ }
  | .log line => emit line.level line.message line.fields
  | .note act outcome => note (.acted id act outcome)

/-- Runs a program of the nanoapp `id` to its end. -/
def execute {α : Type} (id : InstanceId) : Program α → HubM A R α
  | .done a => return a
  | .call c next => do
    let reply ← perform id c
    execute id (next reply)

end ContextHub.Hub
