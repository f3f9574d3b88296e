import ContextHub.Hub.Timers
/-!
# Positioning sessions

Location and measurement are two sessions of the same shape. Each serves any number of nanoapps
through one session of the radio at the smallest intervals that any of them asked for. A request
that leaves the common setting as it is is answered at once; any other waits for the radio to
confirm the new setting, within a timeout.
-/

namespace ContextHub

inductive SessionKind where
  | location
  | measurement
  deriving DecidableEq, Repr

namespace SessionKind

def label : SessionKind → String
  | location => "location session"
  | measurement => "measurement session"

/-- The capability bit that the session needs. -/
def capability : SessionKind → Nat
  | location => 1
  | measurement => 2

/-- The kind of request, as answers name it. -/
def requestKind : SessionKind → Bool → Nat
  | location, true => 1
  | location, false => 2
  | measurement, true => 3
  | measurement, false => 4

def dataType : SessionKind → EventType
  | location => EventType.gnssLocation
  | measurement => EventType.gnssData

def purpose : SessionKind → TimerPurpose
  | location => .gnssLocationTimeout
  | measurement => .gnssMeasurementTimeout

/-- How the radio is asked for a setting. -/
def request (k : SessionKind) (s : SessionSetting) : RadioRequest :=
  match k with
  | location => .location s.enabled s.interval s.fix
  | measurement => .measurement s.enabled s.interval

end SessionKind

namespace GnssState

def session (g : GnssState) : SessionKind → Session
  | .location => g.location
  | .measurement => g.measurement

def modifySession (g : GnssState) (k : SessionKind) (f : Session → Session) : GnssState :=
  match k with
  | .location => { g with location := f g.location }
  | .measurement => { g with measurement := f g.measurement }

end GnssState

/-- The requests of everyone but one nanoapp. -/
def Session.others (s : Session) (id : InstanceId) : List SessionRequest :=
  s.requests.filter (·.id != id)

namespace Hub

variable {A R : Type}

def modifySession (k : SessionKind) (f : Session → Session) : HubM A R Unit :=
  modify fun h => { h with gnss := h.gnss.modifySession k f }

def getSession (k : SessionKind) : HubM A R Session := do return (← get).gnss.session k

def answerGnss (k : SessionKind) (id : InstanceId) (enable : Bool) (code : ErrorCode)
    (cookie : Cookie) : HubM A R Unit :=
  postOrDie (.toOne EventType.gnssAsyncResult (.async ⟨k.requestKind enable, code, cookie⟩) id)

/-- Enters a nanoapp's request or takes it off, with its subscription. -/
def applySession (k : SessionKind) (id : InstanceId) (request : Option SessionRequest) :
    HubM A R Unit := do
  modifySession k fun s => { s with requests := s.others id ++ request.toList }
  if request.isSome then
    let _ ← subscribe id k.dataType
  else
    let _ ← unsubscribe id k.dataType

/-- Keeps a change of the session that the radio accepted. -/
def awaitSession (k : SessionKind) (requester : Option InstanceId) (cookie : Cookie)
    (change : SessionChange) : HubM A R Unit := do
  let timeout := (← get).gnss.settings.sessionTimeout
  let timer ← setSystemTimer timeout k.purpose
  let h ← get
  let slot ← occupied (h.gnss.session k).slot
    { requester, cookie, requestedAt := h.now, timeout, timer, kind := change }
  modifySession k fun s => { s with slot := slot }

section

variable [Radio R]

def gnssCapabilities : HubM A R Nat := do
  let h ← get
  return if h.gnss.available then Radio.capabilities .gnss h.radios else 0

/-- Starts or retunes a nanoapp's part in a session, or ends it if `request` is none. -/
def controlSession (k : SessionKind) (id : InstanceId) (request : Option SessionRequest)
    (cookie : Cookie) : HubM A R (Except RequestError Unit) := do
  if (← gnssCapabilities) &&& k.capability = 0 then return .error (.notSupported k.label)
  let s ← getSession k
  if s.slot.isSome then
    emit .warn s!"GNSS {k.label} transition already in flight" [("instance_id", toString id)]
    return .error (.busy k.label)
  let target := SessionSetting.aggregate (s.others id ++ request.toList)
  if target = s.confirmed then
    applySession k id request
    answerGnss k id request.isSome .none cookie
    return .ok ()
  if !(← requestRadio (k.request target)) then return .error (.radioRejected k.label)
  awaitSession k (some id) cookie ⟨request, target⟩
  return .ok ()

/-- Brings the radio in line with the requests that are left. -/
def reconcileSession (k : SessionKind) : HubM A R Unit := do
  let s ← getSession k
  if s.slot.isSome then return ()
  let target := SessionSetting.aggregate s.requests
  if target = s.confirmed then return ()
  if ← requestRadio (k.request target) then
    emit .debug s!"Reconfiguring GNSS {k.label}" [("target", target.debugText)]
    awaitSession k none .none ⟨none, target⟩
  else
    emit .warn s!"PAL refused GNSS {k.label} reconfiguration" [("target", target.debugText)]

/-- What a radio's code means for the setting that was asked for. -/
def sessionResult (code : ErrorCode) (enabled : Bool) (target : SessionSetting) : ErrorCode :=
  match code with
  | .none => if enabled = target.enabled then .none else .error
  | failure => failure

def handleSessionStatus (k : SessionKind) (enabled : Bool) (raw : Nat) : HubM A R Unit := do
  match (← getSession k).slot with
  | none =>
    emit .warn s!"GNSS {k.label} status change with no transition pending"
      [("enabled", toString enabled), ("error_code", toString raw)]
  | some p =>
    modifySession k fun s => { s with slot := none }
    let _ ← cancelSystemTimer p.timer
    checkCode raw
    modifySession k fun s => { s with errors := s.errors.record raw }
    let result := sessionResult (Histogram.reading raw) enabled p.kind.target
    if result.isSuccess then modifySession k fun s => { s with confirmed := p.kind.target }
    else countRadioError .gnss
    match p.requester with
    | none => pure ()
    | some id =>
      if result.isSuccess then applySession k id p.kind.request
      answerGnss k id p.kind.request.isSome result p.cookie
    reconcileSession k

end

def handleSessionTimeout (k : SessionKind) (handle : TimerHandle) : HubM A R Unit := do
  match (← getSession k).slot with
  | none => emit .debug s!"Stale GNSS {k.label} timeout" [("handle", toString handle)]
  | some p =>
    if p.timer = handle then
      modifySession k fun s => { s with slot := none }
      emit .warn s!"GNSS {k.label} transition timed out"
      modifySession k fun s => { s with errors := s.errors.record ErrorCode.timeout.raw }
      match p.requester with
      | none => return ()
      | some id => answerGnss k id p.kind.request.isSome .timeout p.cookie
    else emit .debug s!"Stale GNSS {k.label} timeout" [("handle", toString handle)]

/-- Passes data on to everyone in the session. -/
def shareSessionData (k : SessionKind) (payload : Payload) : HubM A R Unit := do
  let s ← getSession k
  if !s.confirmed.enabled then
    emit .warn s!"GNSS {k.label} data while the session is off"
  else if s.requests.isEmpty then return ()
  else if !(← post (.toAll k.dataType payload)) then
    emit .error s!"Failed to post GNSS {k.label} data"

variable [Radio R]

def handleGnssReport : GnssReport → HubM A R Unit
  | .locationStatus enabled code => handleSessionStatus .location enabled code
  | .location l => shareSessionData .location (.location l)
  | .measurementStatus enabled code => handleSessionStatus .measurement enabled code
  | .data d => shareSessionData .measurement (.gnssData d)

/-- Drops a nanoapp that is being unloaded from a session; a change that the radio works on stays
in flight without it. -/
def forgetSession (k : SessionKind) (id : InstanceId) : HubM A R Unit := do
  modifySession k fun s => { s with
    requests := s.others id
    slot := s.slot.map fun p =>
      if p.requester = some id then
        { p with requester := none, kind := { p.kind with request := none } }
      else p }
  reconcileSession k

def forgetGnss (id : InstanceId) : HubM A R Unit := do
  forgetSession .location id
  forgetSession .measurement id

end Hub

end ContextHub
