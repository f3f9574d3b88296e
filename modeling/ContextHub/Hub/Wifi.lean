import ContextHub.Hub.Timers
/-!
# WiFi requests

Scan monitoring is shared: the radio is asked only when the common wish changes, everyone else is
answered at once. A scan on demand goes through three phases. While it awaits the radio's response,
a recoverable refusal leads to another attempt after a pause, unseen by the requester, as long as
retries are left; any other refusal ends it. Once acknowledged it awaits results. A timeout bounds
the whole. The requester sees exactly one answer. Ranging is a plain request with a timeout.
-/

namespace ContextHub.Hub

/-- The kinds of WiFi request, as answers name them. -/
def WifiKind.scanMonitor : Nat := 1
def WifiKind.scan : Nat := 2
def WifiKind.ranging : Nat := 3

variable {A R : Type}

def modifyWifi (f : WifiState → WifiState) : HubM A R Unit :=
  modify fun h => { h with wifi := f h.wifi }

def answerWifi (id : InstanceId) (kind : Nat) (code : ErrorCode) (cookie : Cookie) :
    HubM A R Unit :=
  postOrDie (.toOne EventType.wifiAsyncResult (.async ⟨kind, code, cookie⟩) id)

/-- Answers the requester, if there still is one. -/
def answerRequester (requester : Option InstanceId) (kind : Nat) (code : ErrorCode)
    (cookie : Cookie) : HubM A R Unit :=
  match requester with
  | none => return ()
  | some id => answerWifi id kind code cookie

/-! ## Scan monitoring -/

/-- Enters a nanoapp into the list of monitors or takes it off, with its subscription. -/
def applyMonitor (id : InstanceId) (enable : Bool) : HubM A R Unit := do
  if enable then
    modifyWifi fun w =>
      { w with monitors := if w.monitors.contains id then w.monitors else w.monitors ++ [id] }
    let _ ← subscribe id EventType.wifiScanResult
  else
    modifyWifi fun w => { w with monitors := w.monitors.filter (· != id) }
    let _ ← unsubscribe id EventType.wifiScanResult

section

variable [Radio R]

def wifiCapabilities : HubM A R Nat := do
  let h ← get
  return if h.wifi.available then Radio.capabilities .wifi h.radios else 0

/-- Keeps a change of scan monitoring that the radio accepted. -/
def awaitMonitor (requester : Option InstanceId) (cookie : Cookie) (change : MonitorChange) :
    HubM A R Unit := do
  let h ← get
  let slot ← occupied h.wifi.monitorSlot
    { requester, cookie, requestedAt := h.now, timeout := 0, timer := .invalid, kind := change }
  modifyWifi fun w => { w with monitorSlot := slot }

def configureMonitor (id : InstanceId) (enable : Bool) (cookie : Cookie) :
    HubM A R (Except RequestError Unit) := do
  if (← wifiCapabilities) &&& WifiCapabilities.scanMonitoring = 0 then
    return .error (.notSupported "scan monitoring")
  let w := (← get).wifi
  if w.monitorSlot.isSome then return .error (.busy "scan monitor")
  let target := enable || w.monitors.any (· != id)
  if target = w.monitorEnabled then
    applyMonitor id enable
    answerWifi id WifiKind.scanMonitor .none cookie
    return .ok ()
  if !(← requestRadio (.scanMonitor target)) then return .error (.radioRejected "scan monitor")
  awaitMonitor (some id) cookie ⟨enable, target⟩
  return .ok ()

/-- Brings the radio in line with the monitors that are left. -/
def reconcileMonitor : HubM A R Unit := do
  let w := (← get).wifi
  if w.monitorSlot.isSome then return ()
  let target := !w.monitors.isEmpty
  if target = w.monitorEnabled then return ()
  if ← requestRadio (.scanMonitor target) then
    awaitMonitor none .none ⟨target, target⟩
  else
    emit .warn "PAL refused scan monitor reconfiguration" [("target", toString target)]

/-- What a radio's code means for the change that was asked for. -/
def monitorResult (code : ErrorCode) (enabled target : Bool) : ErrorCode :=
  match code with
  | .none => if enabled = target then .none else .error
  | failure => failure

def handleMonitorStatus (enabled : Bool) (raw : Nat) : HubM A R Unit := do
  match (← get).wifi.monitorSlot with
  | none =>
    emit .warn "Unsolicited scan monitor status change"
      [("enabled", toString enabled), ("error_code", toString raw)]
  | some p =>
    checkCode raw
    modifyWifi fun w => { w with monitorSlot := none, monitorErrors := w.monitorErrors.record raw }
    let code := Histogram.reading raw
    if code.isSuccess then modifyWifi fun w => { w with monitorEnabled := enabled }
    else countRadioError .wifi
    let result := monitorResult code enabled p.kind.target
    match p.requester with
    | none => pure ()
    | some id =>
      if result.isSuccess then applyMonitor id p.kind.enable
      answerWifi id WifiKind.scanMonitor result p.cookie
    reconcileMonitor

end

/-! ## Scans on demand -/

section

variable [Radio R]

def requestScan (id : InstanceId) (params : ScanParams) (cookie : Cookie) :
    HubM A R (Except RequestError Unit) := do
  if (← wifiCapabilities) &&& WifiCapabilities.onDemandScan = 0 then
    return .error (.notSupported "on-demand scan")
  if (← get).wifi.scanSlot.isSome then
    emit .warn "Scan request made while a scan is in flight" [("instance_id", toString id)]
    return .error (.busy "scan")
  if ScanParams.maxSsids < params.ssids.length then
    return .error (.invalidArgument "scan" "too many SSIDs")
  if !(← requestRadio (.scan params)) then return .error (.radioRejected "scan")
  let timeout := (← get).wifi.settings.scanTimeout
  let timer ← setSystemTimer timeout .wifiScanTimeout
  let h ← get
  let slot ← occupied h.wifi.scanSlot
    { requester := some id, cookie, requestedAt := h.now, timeout, timer, kind := { params } }
  modifyWifi fun w => { w with scanSlot := slot }
  return .ok ()

end

/-- Changes the job of the scan in flight. -/
def setScanJob (job : ScanJob) : HubM A R Unit :=
  modifyWifi fun w => { w with scanSlot := Slot.setKind w.scanSlot job }

/-- Empties the scan slot and cancels its timers. -/
def vacateScan : HubM A R (Option (Pending ScanJob)) := do
  match (← get).wifi.scanSlot with
  | none => return none
  | some p =>
    modifyWifi fun w => { w with scanSlot := none }
    let _ ← cancelSystemTimer p.timer
    if p.kind.retryTimer.isValid then
      let _ ← cancelSystemTimer p.kind.retryTimer
    return some p

def failScan (code : ErrorCode) : HubM A R Unit := do
  match ← vacateScan with
  | none => return ()
  | some p =>
    countRadioError .wifi
    answerRequester p.requester WifiKind.scan code p.cookie

/-- A success that acknowledges nothing is a failure. -/
def scanRefusal (code : ErrorCode) : ErrorCode := if code.isSuccess then .error else code

def handleScanResponse (pending : Bool) (raw : Nat) : HubM A R Unit := do
  let w := (← get).wifi
  match w.scanSlot.filter (fun p => p.kind.phase == .awaitingResponse) with
  | none =>
    emit .warn "Scan response with no scan awaiting one"
      [("pending", toString pending), ("error_code", toString raw)]
  | some p =>
    checkCode raw
    modifyWifi fun w => { w with scanErrors := w.scanErrors.record raw }
    let code := Histogram.reading raw
    if pending && code.isSuccess then
      setScanJob { p.kind with phase := .awaitingResults }
      answerRequester p.requester WifiKind.scan .none p.cookie
    else
      let code := scanRefusal code
      if code.isRecoverable && p.kind.retriesUsed < w.settings.maxRetries then
        let job := { p.kind with retriesUsed := p.kind.retriesUsed + 1, phase := .retryScheduled }
        setScanJob job
        let retryTimer ← setSystemTimer w.settings.retryBackoff .wifiScanRetry
        setScanJob { job with retryTimer }
        emit .debug "Scan refused, retry scheduled"
          [("attempt", toString job.retriesUsed), ("error", code.name)]
      else failScan code

def handleScanRetry [Radio R] (handle : TimerHandle) : HubM A R Unit := do
  let isCurrent (p : Pending ScanJob) : Bool :=
    p.kind.phase == .retryScheduled && p.kind.retryTimer == handle
  match (← get).wifi.scanSlot.filter isCurrent with
  | none => emit .debug "Stale scan retry timer" [("handle", toString handle)]
  | some p =>
    let job := { p.kind with retryTimer := .invalid }
    setScanJob job
    if ← requestRadio (.scan job.params) then
      setScanJob { job with phase := .awaitingResponse }
    else failScan .error

def handleScanTimeout (handle : TimerHandle) : HubM A R Unit := do
  if Slot.isTimedBy (← get).wifi.scanSlot handle then
    emit .warn "On-demand scan timed out"
    modifyWifi fun w => { w with scanErrors := w.scanErrors.record ErrorCode.timeout.raw }
    failScan .timeout
  else emit .debug "Stale scan timeout" [("handle", toString handle)]

def postScan (e : Event) : HubM A R Unit := do
  if !(← post e) then emit .error "Failed to post WiFi scan event"

/-- Whether a scan in flight awaits its results. -/
def awaitsResults (s : Slot ScanJob) : Bool :=
  match s with
  | none => false
  | some p => p.kind.phase == .awaitingResults

/-- Passes results on: to all monitors at once, and to a requester that is not one of them. -/
def shareScan (scan : Scan) (requester : Option InstanceId) : HubM A R Unit := do
  let monitors := (← get).wifi.monitors
  let requester := requester.filter fun id => !monitors.contains id
  match requester with
  | none => pure ()
  | some id => postScan (.toOne EventType.wifiScanResult (.scan scan) id)
  if !monitors.isEmpty then postScan (.toAll EventType.wifiScanResult (.scan scan))
  else if requester.isNone then emit .debug "Scan event has no recipients"

def handleScan (scan : Scan) : HubM A R Unit := do
  let w := (← get).wifi
  if awaitsResults w.scanSlot then
    let p ← vacateScan
    shareScan scan (p.bind (·.requester))
  else if w.monitorEnabled then shareScan scan none
  else emit .warn "Scan event with no scan pending and monitoring off"

/-! ## Ranging -/

section

variable [Radio R]

def requestRanging (id : InstanceId) (targets : List Bssid) (cookie : Cookie) :
    HubM A R (Except RequestError Unit) := do
  if (← wifiCapabilities) &&& WifiCapabilities.ranging = 0 then
    return .error (.notSupported "ranging")
  if (← get).wifi.rangingSlot.isSome then return .error (.busy "ranging")
  if targets.isEmpty || maxRangingTargets < targets.length then
    return .error (.invalidArgument "ranging" "target count out of range")
  if !(← requestRadio (.ranging targets)) then return .error (.radioRejected "ranging")
  let timeout := (← get).wifi.settings.rangingTimeout
  let timer ← setSystemTimer timeout .wifiRangingTimeout
  let h ← get
  let slot ← occupied h.wifi.rangingSlot
    { requester := some id, cookie, requestedAt := h.now, timeout, timer, kind := () }
  modifyWifi fun w => { w with rangingSlot := slot }
  return .ok ()

end

/-- Empties the ranging slot. -/
def takeRangingSlot : HubM A R Unit := modifyWifi fun w => { w with rangingSlot := none }

def handleRanging (raw : Nat) (results : Option (List RangingResult)) : HubM A R Unit := do
  match (← get).wifi.rangingSlot with
  | none => emit .warn "Ranging result with no request pending" [("error_code", toString raw)]
  | some p =>
    takeRangingSlot
    checkCode raw
    modifyWifi fun w => { w with rangingErrors := w.rangingErrors.record raw }
    let _ ← cancelSystemTimer p.timer
    let code := Histogram.reading raw
    if !code.isSuccess then countRadioError .wifi
    match p.requester with
    | none => return ()
    | some id =>
      answerWifi id WifiKind.ranging code p.cookie
      if code.isSuccess then
        postOrDie (.toOne EventType.wifiRangingResult (.ranging (results.getD [])) id)

def handleRangingTimeout (handle : TimerHandle) : HubM A R Unit := do
  match (← get).wifi.rangingSlot with
  | none => emit .debug "Stale ranging timeout" [("handle", toString handle)]
  | some p =>
    if p.timer = handle then
      takeRangingSlot
      emit .warn "Ranging request timed out"
      modifyWifi fun w => { w with rangingErrors := w.rangingErrors.record ErrorCode.timeout.raw }
      answerRequester p.requester WifiKind.ranging .timeout p.cookie
    else emit .debug "Stale ranging timeout" [("handle", toString handle)]

/-! ## Reports and unloading -/

variable [Radio R]

def handleWifiReport : WifiReport → HubM A R Unit
  | .monitorStatus enabled code => handleMonitorStatus enabled code
  | .scanResponse pending code => handleScanResponse pending code
  | .scan scan => handleScan scan
  | .ranging code results => handleRanging code results

/-- Drops every trace of a nanoapp that is being unloaded; a change of monitoring that the radio
works on stays in flight without it. -/
def forgetWifi (id : InstanceId) : HubM A R Unit := do
  modifyWifi fun w => { w with
    monitors := w.monitors.filter (· != id)
    monitorSlot := w.monitorSlot.map fun p =>
      if p.requester = some id then { p with requester := none } else p }
  if Slot.isOwnedBy (← get).wifi.scanSlot id then
    let _ ← vacateScan
    emit .debug "Vacated scan request of unloaded nanoapp" [("instance_id", toString id)]
  if Slot.isOwnedBy (← get).wifi.rangingSlot id then
    match (← get).wifi.rangingSlot with
    | none => pure ()
    | some p =>
      takeRangingSlot
      let _ ← cancelSystemTimer p.timer
  reconcileMonitor

end ContextHub.Hub
