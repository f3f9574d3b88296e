import ContextHub.Hub.Gnss
/-!
# State dump

A readable account of a hub's state: the loop, the nanoapps, timers and heap, and what each radio's
requests are doing.
-/

namespace ContextHub.Hub

variable {A R : Type}

def errorHeader : String := " API error distribution (error-code indexed):\n"

def loopLine (h : Hub A R) : String :=
  s!"Event loop: queued={h.queue.reserved} posted={h.stats.posted} " ++
    s!"dispatched={h.stats.dispatched} dropped={h.stats.dropped} " ++
    s!"deferred={h.stats.deferred} max_depth={h.queue.deepest}\n"

def nanoappLine (h : Hub A R) (n : Nanoapp A) : String :=
  let usage := h.heap.usageOf n.id
  s!" instance={n.id} app_id={Hex.word64 n.app.val} timers={h.timers.heldBy n.id} " ++
    s!"heap_bytes={usage.bytes} heap_blocks={usage.count}\n"

def timersLine (p : TimerPool) : String :=
  s!"Timers: active={p.size} nanoapp={p.nanoappCount} dropped_expiries={p.lost}\n"

def heapLine (h : Heap) : String :=
  s!"Heap: bytes={h.totalBytes} peak={h.peakBytes} blocks={h.blockCount}\n"

def wifiDump (w : WifiState) : String :=
  let monitors := Structured.list (w.monitors.map InstanceId.debugText)
  "\nWiFi:\n" ++
    s!" Scan monitor enabled={w.monitorEnabled} nanoapps={monitors}\n" ++
    Slot.line "Scan monitor" MonitorChange.debugText w.monitorSlot ++
    Slot.line "Scan" ScanJob.debugText w.scanSlot ++
    Slot.line "Ranging" (fun _ => "()") w.rangingSlot ++
    errorHeader ++
    w.monitorErrors.line "Scan monitor" ++ w.scanErrors.line "Scan" ++
    w.rangingErrors.line "Ranging"

def wwanDump (w : WwanState) : String :=
  "\nWWAN:\n" ++ Slot.line "Cell info" (fun _ => "()") w.cellSlot ++ errorHeader ++
    w.cellErrors.line "Cell Scan"

def sessionDump (k : SessionKind) (s : Session) : String :=
  s!" {k.label}: enabled={s.confirmed.enabled} interval={Nanos.text s.confirmed.interval} " ++
    s!"requests={s.requests.length}\n" ++
    String.join (s.requests.map fun r =>
      s!"  instance={r.id} interval={Nanos.text r.interval}\n") ++
    Slot.line k.label SessionChange.debugText s.slot

def gnssDump (g : GnssState) : String :=
  "\nGNSS:\n" ++ sessionDump .location g.location ++ sessionDump .measurement g.measurement ++
    errorHeader ++ g.location.errors.line "Location" ++
    g.measurement.errors.line "Measurement"

def dump (h : Hub A R) : String :=
  h.loopLine ++ "Nanoapps:\n" ++ String.join (h.registry.apps.map h.nanoappLine) ++
    timersLine h.timers ++ heapLine h.heap ++ wifiDump h.wifi ++ wwanDump h.wwan ++
    gnssDump h.gnss

end ContextHub.Hub
