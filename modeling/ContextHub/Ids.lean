/-!
# Identifiers

What the hub uses to name things: loaded nanoapps, applications, timers, the tokens that
nanoapps attach to their requests, and the 16-bit space of event types. Two instance ids are
reserved: the system (`0`) owns system timers and sends system events, and the broadcast id
(`65535`) names no nanoapp.
-/

namespace ContextHub

/-- A loaded nanoapp, numbered when it is loaded. -/
structure InstanceId where
  val : Nat
  deriving DecidableEq, Repr, Inhabited

namespace InstanceId

def system : InstanceId := ⟨0⟩

def broadcast : InstanceId := ⟨65535⟩

def isSystem (id : InstanceId) : Bool := id == system

/-- The form in which an instance id appears inside structured text. -/
def debugText (id : InstanceId) : String := s!"InstanceId({id.val})"

end InstanceId

instance : ToString InstanceId := ⟨fun id => toString id.val⟩

/-- The 64-bit name of an application, whether loaded or not. -/
structure AppId where
  val : Nat
  deriving DecidableEq, Repr, Inhabited

/-- A timer; the last 32-bit value names none. -/
structure TimerHandle where
  val : Nat
  deriving DecidableEq, Repr, Inhabited

namespace TimerHandle

def invalid : TimerHandle := ⟨4294967295⟩

def isValid (h : TimerHandle) : Bool := h != invalid

/-- The next handle value, cyclically in 32 bits. -/
def succ (h : TimerHandle) : TimerHandle := ⟨(h.val + 1) % 4294967296⟩

end TimerHandle

instance : ToString TimerHandle := ⟨fun h => toString h.val⟩

/-- A token that a nanoapp attaches to a request and gets back with the result. -/
structure Cookie where
  val : Nat
  deriving DecidableEq, Repr, Inhabited

def Cookie.none : Cookie := ⟨0⟩

/-- The 16-bit kind of an event. -/
abbrev EventType := Nat

namespace EventType

def timer : EventType := 0x0002
def nanoappStarted : EventType := 0x0003
def nanoappStopped : EventType := 0x0004

def wifiAsyncResult : EventType := 0x0300
def wifiScanResult : EventType := 0x0301
def wifiRangingResult : EventType := 0x0302

def gnssAsyncResult : EventType := 0x0600
def gnssLocation : EventType := 0x0601
def gnssData : EventType := 0x0602

def wwanCellInfoResult : EventType := 0x0700

/-- Nanoapps may use this value and those above it for events of their own. -/
def firstUser : EventType := 0x8000

end EventType

end ContextHub
