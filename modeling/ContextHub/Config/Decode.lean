import ContextHub.Config.Basic
import ContextHub.Config.Setting
import ContextHub.Text.Quoted
/-!
# From settings to a configuration

Each section has a shape: its title, the names of its fields, and what a value given for one of
them does. A section is written as a table, whose unknown keys are passed over, or as a list with
the values in the order of the fields; what is not given keeps its default. The first value in the
source's order that does not fit is the error.

There are two dialects of reading, with wordings of their own: a single document, in which a list
may not be longer than the section has fields, and layers.
-/

namespace ContextHub

inductive Dialect where
  | document
  | layered
  deriving DecidableEq, Repr

/-- The widths of whole numbers. -/
inductive Width where
  | size
  | word
  | byte
  deriving DecidableEq, Repr

namespace Width

def name : Width → String
  | size => "usize"
  | word => "u64"
  | byte => "u8"

def max : Width → Nat
  | size => 18446744073709551615
  | word => 18446744073709551615
  | byte => 255

end Width

/-- What a field or section should be given. -/
inductive Wanted where
  | natural (w : Width)
  | flag
  | text
  | fields (title : String)
  deriving DecidableEq, Repr

def Wanted.name : Wanted → String
  | natural w => w.name
  | flag => "a boolean"
  | text => "a string"
  | fields title => "struct " ++ title

namespace Setting

/-- How a misplaced value is described. -/
def describe : Dialect → Setting → String
  | .document, nothing => "null"
  | .document, flag b => s!"boolean `{b}`"
  | .document, unsigned n => s!"integer `{n}`"
  | .document, signed i => s!"integer `{i}`"
  | .document, wide i => s!"integer `{i}`"
  | .document, decimal x => s!"floating point `{x.pointedText}`"
  | .layered, nothing => "unit"
  | .layered, flag b => s!"bool {b}"
  | .layered, unsigned n => s!"unsigned int `{n}`"
  | .layered, signed i => s!"signed int `{i}`"
  | .layered, wide i => s!"integer `{i}` as " ++ if i < 0 then "i128" else "u128"
  | .layered, decimal x => s!"float `{x.text}`"
  | _, text s => "string " ++ Quoted.text s
  | _, list _ => "sequence"
  | _, table _ => "map"

end Setting

inductive DecodeCause where
  | mismatch (found : Setting) (wanted : Wanted)
  | outOfRange (found : Setting) (wanted : Wanted)
  | tooLong (length : Nat)
  deriving Repr

namespace DecodeCause

def message : Dialect → DecodeCause → String
  | .document, mismatch v w => s!"invalid type: {v.describe .document}, expected {w.name}"
  | .document, outOfRange v w => s!"invalid value: {v.describe .document}, expected {w.name}"
  | .layered, mismatch v w => s!"invalid type: found {v.describe .layered}, expected {w.name}"
  | .layered, outOfRange v w => s!"invalid value {v.describe .layered}, expected {w.name}"
  | _, tooLong n => s!"invalid length {n}, expected fewer elements in array"

end DecodeCause

structure DecodeError where
  path : List String := []
  cause : DecodeCause
  deriving Repr

namespace DecodeError

def message (d : Dialect) (e : DecodeError) : String := e.cause.message d

/-- Notes where an error came from. -/
def within {α : Type} (key : String) : Except DecodeError α → Except DecodeError α
  | .ok a => .ok a
  | .error e => .error { e with path := key :: e.path }

end DecodeError

/-! ## Scalars -/

namespace Setting

def refuse {α : Type} (v : Setting) (w : Wanted) : Except DecodeError α :=
  .error { cause := .mismatch v w }

def fitting (w : Width) (v : Setting) (i : Int) : Except DecodeError Nat :=
  if 0 ≤ i ∧ i ≤ w.max then .ok i.toNat else .error { cause := .outOfRange v (.natural w) }

def toNat (w : Width) : Setting → Except DecodeError Nat
  | unsigned n => fitting w (unsigned n) n
  | signed i => fitting w (signed i) i
  | v => v.refuse (.natural w)

def toFlag : Setting → Except DecodeError Bool
  | flag b => .ok b
  | v => v.refuse .flag

def toText : Setting → Except DecodeError String
  | text s => .ok s
  | v => v.refuse .text

end Setting

/-! ## Sections -/

/-- How a section with values in `α` is read. -/
structure Shape (α : Type) where
  title : String
  /-- The fields in their order. -/
  names : List String
  assign : String → Setting → α → Except DecodeError α

namespace Shape

variable {α : Type}

/-- Assigns a table's entries in the order of their keys. -/
def ofTable (s : Shape α) (start : α) (entries : List (String × Setting)) :
    Except DecodeError α :=
  entries.foldlM (fun a e => DecodeError.within e.1 (s.assign e.1 e.2 a)) start

/-- Assigns a list's items to the fields in their order. -/
def ofList (s : Shape α) (d : Dialect) (start : α) (items : List Setting) :
    Except DecodeError α := do
  let pairs := (s.names.zip items).zipIdx
  let a ← pairs.foldlM
    (fun a e => DecodeError.within (toString e.2) (s.assign e.1.1 e.1.2 a)) start
  if d = .document ∧ s.names.length < items.length then
    throw { cause := .tooLong items.length }
  return a

def read (s : Shape α) (d : Dialect) (start : α) : Setting → Except DecodeError α
  | .table entries => s.ofTable start entries
  | .list items => s.ofList d start items
  | v => v.refuse (.fields s.title)

end Shape

def eventLoopShape : Shape Nat where
  title := "EventLoopConfig"
  names := ["queue_capacity"]
  assign
    | "queue_capacity", v, _ => v.toNat .size
    | _, _, n => .ok n

def TimerLimits.shape : Shape TimerLimits where
  title := "TimerConfig"
  names := ["max_timer_requests", "max_nanoapp_timers", "reserved_nanoapp_timers",
    "nanoapp_timer_floor"]
  assign
    | "max_timer_requests", v, l => do return { l with requests := ← v.toNat .size }
    | "max_nanoapp_timers", v, l => do return { l with nanoapp := ← v.toNat .size }
    | "reserved_nanoapp_timers", v, l => do return { l with reserved := ← v.toNat .size }
    | "nanoapp_timer_floor", v, l => do return { l with floor := ← v.toNat .size }
    | _, _, l => .ok l

def HeapLimits.shape : Shape HeapLimits where
  title := "MemoryConfig"
  names := ["max_total_bytes", "max_allocation_bytes", "max_allocation_count",
    "enforce_total_ceiling"]
  assign
    | "max_total_bytes", v, l => do return { l with totalBytes := ← v.toNat .size }
    | "max_allocation_bytes", v, l => do return { l with blockBytes := ← v.toNat .size }
    | "max_allocation_count", v, l => do return { l with blockCount := ← v.toNat .size }
    | "enforce_total_ceiling", v, l => do return { l with enforceTotal := ← v.toFlag }
    | _, _, l => .ok l

def WifiSettings.shape : Shape WifiSettings where
  title := "WifiConfig"
  names := ["scan_retry_backoff_ms", "scan_max_retries", "scan_timeout_ms", "ranging_timeout_ms"]
  assign
    | "scan_retry_backoff_ms", v, s => do return { s with retryBackoffMs := ← v.toNat .word }
    | "scan_max_retries", v, s => do return { s with maxRetries := ← v.toNat .byte }
    | "scan_timeout_ms", v, s => do return { s with scanTimeoutMs := ← v.toNat .word }
    | "ranging_timeout_ms", v, s => do return { s with rangingTimeoutMs := ← v.toNat .word }
    | _, _, s => .ok s

def WwanSettings.shape : Shape WwanSettings where
  title := "WwanConfig"
  names := ["cell_info_timeout_ms"]
  assign
    | "cell_info_timeout_ms", v, s => do return { s with cellInfoTimeoutMs := ← v.toNat .word }
    | _, _, s => .ok s

def GnssSettings.shape : Shape GnssSettings where
  title := "GnssConfig"
  names := ["session_timeout_ms"]
  assign
    | "session_timeout_ms", v, s => do return { s with sessionTimeoutMs := ← v.toNat .word }
    | _, _, s => .ok s

def TelemetrySettings.shape : Shape TelemetrySettings where
  title := "TelemetryConfig"
  names := ["log_level", "metrics_enabled"]
  assign
    | "log_level", v, s => do return { s with logLevel := ← v.toText }
    | "metrics_enabled", v, s => do return { s with metricsEnabled := ← v.toFlag }
    | _, _, s => .ok s

namespace Config

def shape (d : Dialect) : Shape Config where
  title := "HubConfig"
  names := ["event_loop", "timers", "memory", "wifi", "wwan", "gnss", "telemetry"]
  assign
    | "event_loop", v, c => do
      return { c with queueCapacity := ← eventLoopShape.read d c.queueCapacity v }
    | "timers", v, c => do return { c with timers := ← TimerLimits.shape.read d c.timers v }
    | "memory", v, c => do return { c with memory := ← HeapLimits.shape.read d c.memory v }
    | "wifi", v, c => do return { c with wifi := ← WifiSettings.shape.read d c.wifi v }
    | "wwan", v, c => do return { c with wwan := ← WwanSettings.shape.read d c.wwan v }
    | "gnss", v, c => do return { c with gnss := ← GnssSettings.shape.read d c.gnss v }
    | "telemetry", v, c => do
      return { c with telemetry := ← TelemetrySettings.shape.read d c.telemetry v }
    | _, _, c => .ok c

/-- Reads a configuration; what is not given is as in the default one. -/
def ofSetting (d : Dialect) (v : Setting) : Except DecodeError Config := (shape d).read d {} v

end Config

end ContextHub
