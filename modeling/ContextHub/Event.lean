import ContextHub.Radio.Gnss
import ContextHub.Radio.Wifi
import ContextHub.Radio.Wwan
import ContextHub.Request.ErrorCode
/-!
# Events and deferred work

The hub's loop takes two kinds of task. An event carries a payload to one nanoapp or to all that
subscribed to its type, and may ask to be told when it is done with (`notify`). A deferred
callback is work of the hub itself: a timer tick, an expired system timer, a radio's report, or
an unload that was asked for elsewhere.
-/

namespace ContextHub

/-- The answer to an asynchronous request: its kind within the domain, the code, the cookie. -/
structure AsyncResult where
  requestType : Nat
  code : ErrorCode
  cookie : Cookie
  deriving DecidableEq, Repr

def AsyncResult.success (r : AsyncResult) : Bool := r.code.isSuccess

inductive Payload where
  | timer (handle : TimerHandle) (cookie : Cookie)
  | nanoapp (app : AppId) (id : InstanceId)
  | async (result : AsyncResult)
  | scan (scan : Scan)
  | ranging (results : List RangingResult)
  | location (location : GnssLocation)
  | gnssData (data : GnssData)
  | cells (report : CellReport)
  | number (n : Nat)
  | text (s : String)
  deriving DecidableEq, Repr

inductive Target where
  | broadcast
  | nanoapp (id : InstanceId)
  deriving DecidableEq, Repr, Inhabited

namespace Target

def isAt (t : Target) (id : InstanceId) : Bool := t == nanoapp id

def debugText : Target → String
  | broadcast => "Broadcast"
  | nanoapp id => "Instance(" ++ id.debugText ++ ")"

end Target

structure Event where
  type : EventType
  payload : Payload
  sender : InstanceId := .system
  target : Target
  /-- Whether someone is to be told when the event is done with. -/
  notify : Bool := false
  deriving DecidableEq, Repr

namespace Event

/-- A system event for everyone who subscribed to its type. -/
def toAll (type : EventType) (payload : Payload) : Event := { type, payload, target := .broadcast }

/-- A system event for one nanoapp. -/
def toOne (type : EventType) (payload : Payload) (id : InstanceId) : Event :=
  { type, payload, target := .nanoapp id }

def debugText (e : Event) : String :=
  Structured.record "Event"
    [("event_type", Hex.word16 e.type), ("sender", e.sender.debugText),
     ("target", e.target.debugText), ("has_release", toString e.notify)]

/-- Whether the event tells `id` that the timer `handle` expired. -/
def isExpiryOf (e : Event) (handle : TimerHandle) (id : InstanceId) : Bool :=
  e.type == EventType.timer && e.target.isAt id &&
    match e.payload with
    | .timer h _ => h == handle
    | _ => false

end Event

/-- What a system timer is for. -/
inductive TimerPurpose where
  | wifiScanRetry
  | wifiScanTimeout
  | wifiRangingTimeout
  | wwanCellInfoTimeout
  | gnssLocationTimeout
  | gnssMeasurementTimeout
  deriving DecidableEq, Repr

def TimerPurpose.name : TimerPurpose → String
  | wifiScanRetry => "WifiScanRetry"
  | wifiScanTimeout => "WifiScanTimeout"
  | wifiRangingTimeout => "WifiRangingTimeout"
  | wwanCellInfoTimeout => "WwanCellInfoTimeout"
  | gnssLocationTimeout => "GnssLocationSessionTimeout"
  | gnssMeasurementTimeout => "GnssMeasurementSessionTimeout"

/-- A radio's report, on its way to the loop. -/
inductive Report where
  | wifi (report : WifiReport)
  | wwan (report : CellReport)
  | gnss (report : GnssReport)
  deriving DecidableEq, Repr

inductive Callback where
  | timerTick
  | timerExpired (handle : TimerHandle) (purpose : TimerPurpose)
  | report (report : Report)
  | unload (id : InstanceId)
  deriving DecidableEq, Repr

/-- The kind of a callback, as the log names it. -/
def Callback.kind : Callback → String
  | timerTick => "TimerPoolTick"
  | timerExpired _ _ => "SystemTimer"
  | report (.wifi _) => "WifiPal"
  | report (.wwan _) => "WwanPal"
  | report (.gnss _) => "GnssPal"
  | unload _ => "NanoappUnload"

inductive Task where
  | event (e : Event)
  | deferred (c : Callback)
  deriving DecidableEq, Repr

end ContextHub
