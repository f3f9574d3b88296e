import ContextHub.Event
import ContextHub.Heap
import ContextHub.Log
/-!
# What nanoapps may ask for

A nanoapp runs as a program: a tree whose nodes are calls to the hub, each with what to do for
every possible reply, and whose leaves are results. Programs always end. `Behaviour` gives the
three entry points of a kind of nanoapp; the state that an entry point returns is the one the next
starts with.
-/

namespace ContextHub

/-- The families of resources that a nanoapp may declare. -/
structure Permissions where
  wifi : Bool := false
  gnss : Bool := false
  wwan : Bool := false
  deriving DecidableEq, Repr

inductive Permission where
  | wifi
  | gnss
  | wwan
  deriving DecidableEq, Repr

namespace Permissions

def allows (p : Permissions) : Permission → Bool
  | .wifi => p.wifi
  | .gnss => p.gnss
  | .wwan => p.wwan

def only : Permission → Permissions
  | .wifi => { wifi := true }
  | .gnss => { gnss := true }
  | .wwan => { wwan := true }

def bits (p : Permissions) : Nat := p.wifi.toNat + 2 * p.gnss.toNat + 4 * p.wwan.toNat

def debugText (p : Permissions) : String :=
  "NanoappPermissions(" ++
    Structured.flags [(1, "WIFI"), (2, "GNSS"), (4, "WWAN")] p.bits ++ ")"

end Permissions

/-- What a nanoapp does with the bytes of a block, and the number it takes away. -/
abbrev BlockEdit := (n : Nat) → Vector UInt8 n → Nat × Vector UInt8 n

/-- What a scripted step of a nanoapp resulted in, as the journal shows it. -/
inductive Outcome where
  | nothing
  | flag (b : Bool)
  | number (n : Nat)
  | numbers (ns : List Nat)
  | unissued
  /-- The step has no meaning. -/
  | unknown
  deriving DecidableEq, Repr

inductive Call where
  | now
  | appId
  | setTimer (duration : Nat) (cookie : Cookie) (oneShot : Bool)
  | cancelTimer (handle : TimerHandle)
  | alloc (bytes : Nat)
  | free (ptr : Option HeapPtr)
  | access (ptr : HeapPtr) (edit : BlockEdit)
  | wasIssued (ptr : HeapPtr)
  | send (event : Event)
  | subscribe (type : EventType)
  | unsubscribe (type : EventType)
  | find (app : AppId)
  | requestUnload
  | stopLoop
  | capabilities (of : Permission)
  | scanMonitor (enable : Bool) (cookie : Cookie)
  | scan (params : ScanParams) (cookie : Cookie)
  | ranging (targets : List Bssid) (cookie : Cookie)
  | cellInfo (cookie : Cookie)
  | location (interval fix : Nat) (cookie : Cookie)
  | stopLocation (cookie : Cookie)
  | measurement (interval : Nat) (cookie : Cookie)
  | stopMeasurement (cookie : Cookie)
  | trace (tag : EventType) (detail : List UInt8)
  | log (line : LogLine)
  | note (act : String) (outcome : Outcome)

/-- The type of the reply to a call. -/
def Call.Reply : Call → Type
  | now => Nat
  | appId => AppId
  | setTimer _ _ _ => TimerHandle
  | cancelTimer _ => Bool
  | alloc _ => Option HeapPtr
  | free _ => Unit
  | access _ _ => Option Nat
  | wasIssued _ => Bool
  | send _ => Bool
  | subscribe _ => Bool
  | unsubscribe _ => Bool
  | find _ => Option InstanceId
  | requestUnload => Bool
  | stopLoop => Unit
  | capabilities _ => Nat
  | scanMonitor _ _ => Bool
  | scan _ _ => Bool
  | ranging _ _ => Bool
  | cellInfo _ => Bool
  | location _ _ _ => Bool
  | stopLocation _ => Bool
  | measurement _ _ => Bool
  | stopMeasurement _ => Bool
  | trace _ _ => Unit
  | log _ => Unit
  | note _ _ => Unit

inductive Program (α : Type) where
  | done (a : α)
  | call (c : Call) (next : c.Reply → Program α)

namespace Program

def bind {α β : Type} : Program α → (α → Program β) → Program β
  | done a, f => f a
  | call c next, f => call c fun r => (next r).bind f

instance : Monad Program where
  pure := done
  bind := bind

/-- One call and its reply. -/
def ask (c : Call) : Program c.Reply := call c done

end Program

/-- What reaches a nanoapp when an event is delivered to it. -/
structure Delivery where
  id : InstanceId
  sender : InstanceId
  type : EventType
  payload : Payload
  deriving DecidableEq, Repr

/-- A kind of nanoapp with states `A`. -/
class Behaviour (A : Type) where
  /-- A load is given up if this answers `false`. -/
  start : InstanceId → A → Program (Bool × A)
  handle : Delivery → A → Program A
  stop : InstanceId → A → Program A
  /-- Whether the journal's public view shows what reaches this nanoapp. -/
  watched : A → Bool

end ContextHub
