import ContextHub.Hub.Calls
/-!
# Loading and unloading

A nanoapp is registered and its start is run; one that does not start leaves no trace. Unloading
runs its end and then reclaims everything it held: timers, heap blocks, requests, its part in
shared sessions, and events queued for it.
-/

namespace ContextHub.Hub

variable {A R : Type} [Behaviour A] [Radio R]

/-- Runs an entry point with the behaviour taken out of the registry; nothing if it is not there. -/
def withBehaviour {α : Type} (id : InstanceId) (run : A → Program (α × A)) :
    HubM A R (Option α) := do
  let h ← get
  match h.registry.behaviour? id with
  | none => return none
  | some a =>
    set { h with registry := h.registry.takeOut id }
    let (result, a) ← execute id (run a)
    modify fun h => { h with registry := h.registry.putBack id a }
    return some result

/-- Reclaims everything that a nanoapp holds and takes it out of the registry. -/
def releaseResources (id : InstanceId) : HubM A R Unit := do
  let timers ← cancelTimersOf id
  let h ← get
  let (leaked, heap) := h.heap.freeAllOwnedBy id
  set { h with heap }
  if leaked.count ≠ 0 then
    emit .warn "Nanoapp unloaded without freeing its heap"
      [("instance_id", toString id), ("bytes", toString leaked.bytes),
       ("blocks", toString leaked.count)]
  updateHeapGauge
  forgetWifi id
  forgetWwan id
  forgetGnss id
  let purged ← discard (·.target.isAt id)
  countMetric (·.addDropped purged.length)
  modify fun h => { h with registry := h.registry.remove id }
  emit .debug "Nanoapp resources released"
    [("instance_id", toString id), ("timers", toString timers),
     ("purged", toString purged.length)]

def logLifecycle (app : AppId) (id : InstanceId) : HubM A R Unit :=
  emit .info "Nanoapp lifecycle event"
    [("attributes", Structured.list
      [Quoted.text s!"app_id={Hex.word64 app.val}", Quoted.text s!"instance_id={id}"])]

/-- Registers a nanoapp, runs its start, and tells everyone. -/
def load (app : AppId) (permissions : Permissions) (behaviour : A) :
    HubM A R (Except LoadError InstanceId) := do
  let h ← get
  match h.registry.register app permissions behaviour with
  | .error e => return .error e
  | .ok (id, registry) =>
    set { h with registry }
    let started ← withBehaviour id (Behaviour.start id)
    if started.getD false then
      logLifecycle app id
      let _ ← post (.toAll EventType.nanoappStarted (.nanoapp app id))
      return .ok id
    else
      emit .warn "Nanoapp start failed" [("instance_id", toString id)]
      releaseResources id
      logLifecycle app id
      return .error (.startFailed app)

/-- Runs a nanoapp's end. -/
def runStop (id : InstanceId) : HubM A R Unit := do
  match (← get).registry.behaviour? id with
  | none => pure ()
  | some a => note (.stopping (Behaviour.watched a) id)
  let _ ← withBehaviour id fun (a : A) => do return ((), ← Behaviour.stop id a)

/-- Runs a nanoapp's end, reclaims what it held, and tells everyone. -/
def unload (id : InstanceId) : HubM A R (Except LoadError Unit) := do
  match (← get).registry.find? id with
  | none => return .error (.nanoappNotFound id)
  | some n =>
    runStop id
    releaseResources id
    logLifecycle n.app id
    let _ ← post (.toAll EventType.nanoappStopped (.nanoapp n.app id))
    return .ok ()

/-! ## Powering the radios -/

/-- Powers all devices on, and keeps which of them work. -/
def openRadios : HubM A R Unit := do
  let worked ← powerOn .wifi
  modifyWifi fun w => { w with available := worked }
  let worked ← powerOn .wwan
  modifyWwan fun w => { w with available := worked }
  let worked ← powerOn .gnss
  modify fun h => { h with gnss := { h.gnss with available := worked } }

/-- Powers off every device that is still in use. -/
def closeRadios : HubM A R Unit := do
  if (← get).wifi.available then
    powerOff .wifi
    modifyWifi fun w => { w with available := false }
  if (← get).wwan.available then
    powerOff .wwan
    modifyWwan fun w => { w with available := false }
  if (← get).gnss.available then
    powerOff .gnss
    modify fun h => { h with gnss := { h.gnss with available := false } }

/-- Unloads every nanoapp and powers the radios off. -/
def shutdown : HubM A R Unit := do
  (← get).registry.ids.forM fun id => do
    match ← unload id with
    | .ok () => pure ()
    | .error e => emit .warn "Unload during shutdown failed" [("error", e.message)]
  closeRadios

/-- A hub before its radios are powered on. -/
def blank (config : Config) (now : Nat) (radios : R) (metrics : Option Metrics) : Hub A R :=
  { now
    queue := .empty config.queueCapacity
    timers := .empty config.timers
    heap := .empty config.memory
    wifi := { settings := config.wifi }
    wwan := { settings := config.wwan }
    gnss := { settings := config.gnss }
    radios
    metrics := match metrics with
      | some m => some m
      | none => if config.telemetry.metricsEnabled then some {} else none }

/-- Powers the radios on and announces the hub. -/
def initialise : HubM A R Unit := do
  openRadios
  let h ← get
  emit .info "Runtime initialised"
    [("queue_capacity", toString h.queue.capacity), ("metrics", toString h.metrics.isSome)]

end ContextHub.Hub
