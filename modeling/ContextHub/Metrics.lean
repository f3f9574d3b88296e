import ContextHub.Binary64
/-!
# Metrics

Counters of what the hub did, a gauge of the heap, and a histogram of how long tasks took, with
their exposition as text. Counters wrap at 64 bits. Values are written as double-precision numbers,
so large ones are rounded; the families come in the order of their names.
-/

namespace ContextHub

/-- How many samples lie between each bound and the one before it, their number and their sum. -/
structure LatencyHistogram where
  samples : List Nat := List.replicate 6 0
  count : Nat := 0
  sum : Nat := 0
  deriving DecidableEq, Repr

namespace LatencyHistogram

def bounds : List Nat := [1000, 10000, 100000, 1000000, 10000000]

def slot (n : Nat) : Nat := (bounds.filter (· < n)).length

/-- Counts one sample; the sum is kept in double precision. -/
def observe (h : LatencyHistogram) (n : Nat) : LatencyHistogram :=
  let n := Binary64.roundNat n
  { samples := h.samples.modify (slot n) (· + 1)
    count := h.count + 1
    sum := Binary64.roundNat (h.sum + n) }

/-- Samples at or below the bound of that position. -/
def atOrBelow (h : LatencyHistogram) (position : Nat) : Nat :=
  (h.samples.take (position + 1)).foldl (· + ·) 0

end LatencyHistogram

structure Metrics where
  dispatched : Nat := 0
  dropped : Nat := 0
  deferred : Nat := 0
  fired : Nat := 0
  heapBytes : Int := 0
  /-- Failed completions by resource, in the order of the resources' names. -/
  radioErrors : List (String × Nat) := []
  latency : LatencyHistogram := {}
  deriving DecidableEq, Repr

namespace Metrics

/-- A counter after `n` more. -/
def plus (old n : Nat) : Nat := (old + n) % 18446744073709551616

/-- The largest value of a signed gauge. -/
def gaugeMax : Nat := 9223372036854775807

def addDispatched (m : Metrics) (n : Nat) : Metrics := { m with dispatched := plus m.dispatched n }

def addDropped (m : Metrics) (n : Nat) : Metrics := { m with dropped := plus m.dropped n }

def addDeferred (m : Metrics) (n : Nat) : Metrics := { m with deferred := plus m.deferred n }

def addFired (m : Metrics) (n : Nat) : Metrics := { m with fired := plus m.fired n }

def setHeapBytes (m : Metrics) (n : Int) : Metrics := { m with heapBytes := n }

/-- Counts one failure of a resource in a list ordered by name. -/
def countResource (resource : String) : List (String × Nat) → List (String × Nat)
  | [] => [(resource, 1)]
  | (r, n) :: rest =>
    if r = resource then (r, plus n 1) :: rest
    else if resource < r then (resource, 1) :: (r, n) :: rest
    else (r, n) :: countResource resource rest

def addRadioError (m : Metrics) (resource : String) : Metrics :=
  { m with radioErrors := countResource resource m.radioErrors }

def observeLatency (m : Metrics) (n : Nat) : Metrics := { m with latency := m.latency.observe n }

/-! ## Exposition -/

def family (name help kind : String) (samples : List String) : List String :=
  s!"# HELP {name} {help}" :: s!"# TYPE {name} {kind}" :: samples

def sample (name : String) (n : Int) : String := name ++ " " ++ Binary64.integerText n

/-- A label's value with the backslash, the newline and the quote escaped. -/
def labelValue (s : String) : String :=
  String.join (s.toList.map fun c =>
    if c = '\\' then "\\\\" else if c = '\n' then "\\n" else if c = '"' then "\\\""
    else String.singleton c)

def labelled (name label value : String) (n : Int) : String :=
  sample (name ++ "\x7b" ++ label ++ "=\"" ++ labelValue value ++ "\"\x7d") n

def counter (name help : String) (n : Nat) : List String :=
  family name help "counter" [sample name n]

def latencyLines (h : LatencyHistogram) : List String :=
  let name := "nanohub_dispatch_latency_ns"
  let buckets := LatencyHistogram.bounds.mapIdx fun i b =>
    labelled (name ++ "_bucket") "le" (toString b) (h.atOrBelow i)
  family name "Time spent running one event or callback to completion" "histogram"
    (buckets ++
      [labelled (name ++ "_bucket") "le" "+Inf" h.count, sample (name ++ "_sum") h.sum,
       sample (name ++ "_count") h.count])

def radioErrorLines (errors : List (String × Nat)) : List String :=
  let name := "nanohub_pal_errors_total"
  match errors with
  | [] => []
  | _ => family name "Failed PAL completions" "counter"
      (errors.map fun e => labelled name "resource" e.1 e.2)

/-- The lines of the exposition. -/
def lines (m : Metrics) : List String :=
  counter "nanohub_deferred_callbacks_total" "System callbacks executed on the event loop"
      m.deferred ++
    latencyLines m.latency ++
    counter "nanohub_events_dispatched_total" "Events delivered to at least one nanoapp"
      m.dispatched ++
    counter "nanohub_events_dropped_total"
      "Events released without delivery (queue full, unknown target, unload)" m.dropped ++
    family "nanohub_heap_bytes" "Bytes accounted to nanoapps" "gauge"
      [sample "nanohub_heap_bytes" m.heapBytes] ++
    radioErrorLines m.radioErrors ++
    counter "nanohub_timers_fired_total" "Expired timer requests" m.fired

def text (m : Metrics) : String := String.join (m.lines.map (· ++ "\n"))

end Metrics

end ContextHub
