import ContextHub.Hub.Timers
/-!
# Cell requests

At most one cell request is in flight. Its requester gets one result: the radio's answer, or a
timeout. An unloaded requester's slot is vacated although the radio goes on working.
-/

namespace ContextHub.Hub

variable {A R : Type}

def modifyWwan (f : WwanState → WwanState) : HubM A R Unit :=
  modify fun h => { h with wwan := f h.wwan }

section

variable [Radio R]

def wwanCapabilities : HubM A R Nat := do
  let h ← get
  return if h.wwan.available then Radio.capabilities .wwan h.radios else 0

def requestCellInfo (id : InstanceId) (cookie : Cookie) : HubM A R (Except RequestError Unit) := do
  if (← wwanCapabilities) &&& 1 = 0 then return .error (.notSupported "cell info")
  if (← get).wwan.cellSlot.isSome then
    emit .error "Cell info request made while a request is in flight"
      [("instance_id", toString id)]
    return .error (.busy "cell info")
  if !(← requestRadio .cellInfo) then return .error (.radioRejected "cell info")
  let timeout := (← get).wwan.settings.cellInfoTimeout
  let timer ← setSystemTimer timeout .wwanCellInfoTimeout
  let h ← get
  let slot ← occupied h.wwan.cellSlot
    { requester := some id, cookie, requestedAt := h.now, timeout, timer, kind := () }
  modifyWwan fun w => { w with cellSlot := slot }
  return .ok ()

end

def postCells (id : InstanceId) (r : CellReport) : HubM A R Unit :=
  postOrDie (.toOne EventType.wwanCellInfoResult (.cells r) id)

/-- Empties the cell slot. -/
def takeCellSlot : HubM A R Unit := modifyWwan fun w => { w with cellSlot := none }

def handleCellReport (r : CellReport) : HubM A R Unit := do
  match (← get).wwan.cellSlot with
  | none => emit .error "Cell info results received unexpectedly"
  | some p =>
    takeCellSlot
    let _ ← cancelSystemTimer p.timer
    checkCode r.code
    modifyWwan fun w => { w with cellErrors := w.cellErrors.record r.code }
    if !(Histogram.reading r.code).isSuccess then countRadioError .wwan
    match p.requester with
    | none => return ()
    | some id => postCells id { r with cookie := p.cookie }

def handleCellTimeout (handle : TimerHandle) : HubM A R Unit := do
  match (← get).wwan.cellSlot with
  | none => emit .debug "Stale cell info timeout" [("handle", toString handle)]
  | some p =>
    if p.timer = handle then
      takeCellSlot
      emit .warn "Cell info request timed out"
        [("requester", Structured.option InstanceId.debugText p.requester)]
      modifyWwan fun w => { w with cellErrors := w.cellErrors.record ErrorCode.timeout.raw }
      match p.requester with
      | none => return ()
      | some id => postCells id { code := ErrorCode.timeout.raw, cookie := p.cookie }
    else emit .debug "Stale cell info timeout" [("handle", toString handle)]

/-- Vacates the cell slot of a nanoapp that is being unloaded. -/
def forgetWwan (id : InstanceId) : HubM A R Unit := do
  match (← get).wwan.cellSlot with
  | none => return ()
  | some p =>
    if p.requester = some id then
      takeCellSlot
      let _ ← cancelSystemTimer p.timer
      emit .debug "Vacated cell info request of unloaded nanoapp" [("instance_id", toString id)]

end ContextHub.Hub
