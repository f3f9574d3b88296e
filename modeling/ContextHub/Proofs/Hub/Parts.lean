import ContextHub.Hub.Dispatch
import ContextHub.Proofs.Hub.Quiet
/-!
# The parts of the request managers

This is where the managers are taken apart for laws. They log, count, answer and subscribe
(`Law.Tells`); they keep changes of scan monitoring (`Law.Watches`); they set and cancel timers of
the system and fill and empty slots, for ranging, cells and sessions (`Law.Tends`) and for scans on
demand (`Law.Seeks`). A law that these parts obey is obeyed by whatever nanoapps ask for, by every
report and timeout, and by what an unloaded nanoapp leaves behind (`Law.Serves`). A law may care who
is entered into lists and slots (`Admission`): managers act for the caller, or for the requester of
a slot.
-/

namespace ContextHub

/-- Who may be entered into lists and slots, and with what request into a session. -/
structure Admission where
  holds : InstanceId → Prop
  joins : Option InstanceId → Option SessionRequest → Prop
  joins_none : joins none none
  joins_own : ∀ {id request}, holds id → (∀ r ∈ request, r.id = id) → joins (some id) request

/-- Anybody may be entered anywhere. -/
def Admission.all : Admission where
  holds _ := True
  joins _ _ := True
  joins_none := trivial
  joins_own _ _ := trivial

variable {W : Admission}

theorem Admission.holds_some {id : InstanceId} (hid : W.holds id) : ∀ x ∈ some id, W.holds x := by
  rintro x ⟨⟩
  exact hid

/-! ## What is done to lists and slots -/

/-- What is done to scan monitoring. -/
inductive WifiState.MonitorEdit (W : Admission) : (WifiState → WifiState) → Prop
  | enter {id : InstanceId} (hid : W.holds id) : MonitorEdit W fun w =>
      { w with monitors := if w.monitors.contains id then w.monitors else w.monitors ++ [id] }
  | leave (id : InstanceId) : MonitorEdit W fun w =>
      { w with monitors := w.monitors.filter (· != id) }
  | fill {p : Pending MonitorChange} (hp : ∀ id ∈ p.requester, W.holds id) :
      MonitorEdit W fun w => { w with monitorSlot := some p }
  | vacate (raw : Nat) : MonitorEdit W fun w =>
      { w with monitorSlot := none, monitorErrors := w.monitorErrors.record raw }
  | confirm (enabled : Bool) : MonitorEdit W fun w => { w with monitorEnabled := enabled }
  | forget (id : InstanceId) : MonitorEdit W fun w => { w with
      monitors := w.monitors.filter (· != id)
      monitorSlot := w.monitorSlot.map fun p =>
        if p.requester = some id then { p with requester := none } else p }

/-- What is done to the scan on demand. -/
inductive WifiState.ScanEdit (W : Admission) : (WifiState → WifiState) → Prop
  | fill {p : Pending ScanJob} (hp : ∀ id ∈ p.requester, W.holds id) :
      ScanEdit W fun w => { w with scanSlot := some p }
  | vacate : ScanEdit W fun w => { w with scanSlot := none }
  | setJob (job : ScanJob) : ScanEdit W fun w => { w with scanSlot := Slot.setKind w.scanSlot job }
  | count (raw : Nat) : ScanEdit W fun w => { w with scanErrors := w.scanErrors.record raw }

/-- What is done to ranging. -/
inductive WifiState.RangingEdit (W : Admission) : (WifiState → WifiState) → Prop
  | fill {p : Pending Unit} (hp : ∀ id ∈ p.requester, W.holds id) :
      RangingEdit W fun w => { w with rangingSlot := some p }
  | vacate : RangingEdit W fun w => { w with rangingSlot := none }
  | count (raw : Nat) : RangingEdit W fun w =>
      { w with rangingErrors := w.rangingErrors.record raw }

/-- What is done to the cell request. -/
inductive WwanState.Edit (W : Admission) : (WwanState → WwanState) → Prop
  | fill {p : Pending Unit} (hp : ∀ id ∈ p.requester, W.holds id) :
      Edit W fun w => { w with cellSlot := some p }
  | vacate : Edit W fun w => { w with cellSlot := none }

/-- A change that the radio works on stays in flight without the nanoapp. -/
def Session.forget (s : Session) (id : InstanceId) : Session :=
  { s with
    requests := s.others id
    slot := s.slot.map fun p =>
      if p.requester = some id then
        { p with requester := none, kind := { p.kind with request := none } }
      else p }

/-- What is done to a session, but for the requests of nanoapps that come and go. -/
inductive Session.Edit (W : Admission) : (Session → Session) → Prop
  | fill {p : Pending SessionChange} (hp : W.joins p.requester p.kind.request) :
      Edit W fun s => { s with slot := some p }
  | vacate : Edit W fun s => { s with slot := none }
  | count (raw : Nat) : Edit W fun s => { s with errors := s.errors.record raw }
  | confirm (target : SessionSetting) : Edit W fun s => { s with confirmed := target }
  | forget (id : InstanceId) : Edit W fun s => s.forget id

namespace WifiState

variable {f : WifiState → WifiState}

theorem MonitorEdit.available (hf : MonitorEdit W f) (w : WifiState) :
    (f w).available = w.available := by cases hf <;> rfl

theorem MonitorEdit.scanSlot (hf : MonitorEdit W f) (w : WifiState) :
    (f w).scanSlot = w.scanSlot := by cases hf <;> rfl

theorem MonitorEdit.rangingSlot (hf : MonitorEdit W f) (w : WifiState) :
    (f w).rangingSlot = w.rangingSlot := by cases hf <;> rfl

theorem ScanEdit.available (hf : ScanEdit W f) (w : WifiState) :
    (f w).available = w.available := by cases hf <;> rfl

theorem RangingEdit.available (hf : RangingEdit W f) (w : WifiState) :
    (f w).available = w.available := by cases hf <;> rfl

theorem RangingEdit.scanSlot (hf : RangingEdit W f) (w : WifiState) :
    (f w).scanSlot = w.scanSlot := by cases hf <;> rfl

end WifiState

theorem WwanState.Edit.available {f : WwanState → WwanState} (hf : Edit W f) (w : WwanState) :
    (f w).available = w.available := by cases hf <;> rfl

theorem SessionKind.request_ne_scanMonitor (k : SessionKind) (s : SessionSetting) (target : Bool) :
    k.request s ≠ .scanMonitor target := by cases k <;> nofun

namespace Hub

variable {A R α : Type}

/-- Those for whom the radios work on a change were let in. -/
structure Admits (W : Admission) (h : Hub A R) : Prop where
  monitor : ∀ p ∈ h.wifi.monitorSlot, ∀ id ∈ p.requester, W.holds id
  session : ∀ k, ∀ p ∈ (h.gnss.session k).slot, W.joins p.requester p.kind.request

theorem admits_all (h : Hub A R) : h.Admits .all := ⟨fun _ _ _ _ => trivial, fun _ _ _ => trivial⟩

/-! ## Laws for the parts -/

/-- A law for what all managers do: they log, count, answer and subscribe. -/
structure Law.Tells (L : Law A R) (W : Admission) : Prop where
  /-- The law speaks of hubs only that let the right ones in. -/
  reading : ∀ {α : Type} {f : Hub A R → HubM A R α}, (∀ h : Hub A R, h.Admits W → Obeys L (f h)) →
    Obeys L (get >>= f)
  halts_occupied : ∀ h : Hub A R, L.halts h (.fatal Slot.occupiedFault) h
  emit_obeys : ∀ level message fields, Obeys L (emit level message fields)
  countRadioError_obeys : ∀ d, Obeys L (countRadioError d)
  countCells_obeys : ∀ raw,
    Obeys L (modifyWwan fun w => { w with cellErrors := w.cellErrors.record raw })
  post_obeys : ∀ {e}, e.Plain → Obeys L (post e)
  postOrDie_obeys : ∀ {e}, e.Plain → Obeys L (postOrDie e)
  subscribe_obeys : ∀ id type, Obeys L (subscribe id type)
  unsubscribe_obeys : ∀ id type, Obeys L (unsubscribe id type)
  join_obeys : ∀ k {id request}, W.joins (some id) request →
    Obeys L (modifySession k fun s => { s with requests := s.others id ++ request.toList })

/-- A law for the parts of scan monitoring. -/
structure Law.Watches [Radio R] (L : Law A R) (W : Admission) : Prop extends L.Tells W where
  target_obeys : ∀ target, Obeys L (requestRadio (.scanMonitor target))
  monitor_obeys : ∀ {f}, WifiState.MonitorEdit W f → Obeys L (modifyWifi f)

/-- A law for the parts of the managers of ranging, cells and sessions. -/
structure Law.Tends [Radio R] (L : Law A R) (W : Admission) : Prop extends L.Tells W where
  setSystemTimer_obeys : ∀ duration purpose, Obeys L (setSystemTimer duration purpose)
  cancelSystemTimer_obeys : ∀ x, Obeys L (cancelSystemTimer x)
  requestRadio_obeys : ∀ {request}, (∀ target, request ≠ .scanMonitor target) →
    Obeys L (requestRadio request)
  ranging_obeys : ∀ {f}, WifiState.RangingEdit W f → Obeys L (modifyWifi f)
  cell_obeys : ∀ {f}, WwanState.Edit W f → Obeys L (modifyWwan f)
  session_obeys : ∀ k {f}, Session.Edit W f → Obeys L (modifySession k f)

/-- A law for these parts and for those of scans on demand. -/
structure Law.Seeks [Radio R] (L : Law A R) (W : Admission) : Prop extends L.Tends W where
  scan_obeys : ∀ {f}, WifiState.ScanEdit W f → Obeys L (modifyWifi f)
  answerScan_obeys : ∀ id code cookie, Obeys L (answerWifi id WifiKind.scan code cookie)

/-- A law for what nanoapps ask the managers for. -/
structure Law.Hears [Radio R] (L : Law A R) (W : Admission) : Prop extends L.Tells W where
  configureMonitor_obeys : ∀ {id}, W.holds id → ∀ enable cookie,
    Obeys L (configureMonitor id enable cookie)
  requestScan_obeys : ∀ {id}, W.holds id → ∀ params cookie, Obeys L (requestScan id params cookie)
  requestRanging_obeys : ∀ {id}, W.holds id → ∀ targets cookie,
    Obeys L (requestRanging id targets cookie)
  requestCellInfo_obeys : ∀ {id}, W.holds id → ∀ cookie, Obeys L (requestCellInfo id cookie)
  controlSession_obeys : ∀ k {id request}, W.joins (some id) request → ∀ cookie,
    Obeys L (controlSession k id request cookie)

/-- A law for all managers: for the parts of most, and for scan monitoring as a whole. -/
structure Law.Serves [Radio R] (L : Law A R) (W : Admission) : Prop extends L.Seeks W where
  configureMonitor_obeys : ∀ {id}, W.holds id → ∀ enable cookie,
    Obeys L (configureMonitor id enable cookie)
  handleMonitorStatus_obeys : ∀ enabled raw, Obeys L (handleMonitorStatus enabled raw)
  forgetWifi_obeys : ∀ id, Obeys L (forgetWifi id)

variable {L : Law A R}

/-! ## Laws that let anybody in -/

/-- What holds of a law holds of one that allows more. -/
theorem Law.Tells.within {L' : Law A R} (hL : L.Tells .all) (hw : L.Within L') : L'.Tells .all where
  reading hf := .get_bind fun h => hf h h.admits_all
  halts_occupied h := hw.halts (hL.halts_occupied h)
  emit_obeys _ _ _ := (hL.emit_obeys _ _ _).within hw
  countRadioError_obeys d := (hL.countRadioError_obeys d).within hw
  countCells_obeys raw := (hL.countCells_obeys raw).within hw
  post_obeys he := (hL.post_obeys he).within hw
  postOrDie_obeys he := (hL.postOrDie_obeys he).within hw
  subscribe_obeys _ _ := (hL.subscribe_obeys _ _).within hw
  unsubscribe_obeys _ _ := (hL.unsubscribe_obeys _ _).within hw
  join_obeys k _ _ hj := (hL.join_obeys k hj).within hw

theorem Law.Watches.within [Radio R] {L' : Law A R} (hL : L.Watches .all) (hw : L.Within L') :
    L'.Watches .all where
  toTells := hL.toTells.within hw
  target_obeys target := (hL.target_obeys target).within hw
  monitor_obeys hf := (hL.monitor_obeys hf).within hw

/-! ## Answers and results -/

theorem answer_plain (id : InstanceId) {kind : Nat} (hk : kind ≠ WifiKind.scan) (code : ErrorCode)
    (cookie : Cookie) :
    (Event.toOne EventType.wifiAsyncResult (.async ⟨kind, code, cookie⟩) id).Plain := by
  refine ⟨show EventType.wifiAsyncResult ≠ EventType.timer by decide, ?_⟩
  simp only [Event.isScanAnswer, Event.toOne, beq_self_eq_true, Bool.true_and]
  exact beq_eq_false_iff_ne.2 hk

/-- What is told of a ranging result. -/
def tellRanging (raw : Nat) (results : Option (List RangingResult)) (p : Pending Unit) :
    HubM A R Unit :=
  match p.requester with
  | none => return ()
  | some id => do
    answerWifi id WifiKind.ranging (Histogram.reading raw) p.cookie
    if (Histogram.reading raw).isSuccess then
      postOrDie (.toOne EventType.wifiRangingResult (.ranging (results.getD [])) id)

/-- What remains of a ranging result once its slot is empty. -/
def passRanging (raw : Nat) (results : Option (List RangingResult)) (p : Pending Unit) :
    HubM A R Unit := do
  if !(Histogram.reading raw).isSuccess then countRadioError .wifi
  tellRanging raw results p

/-- What is told of a cell report. -/
def tellCells (r : CellReport) (p : Pending Unit) : HubM A R Unit :=
  match p.requester with
  | none => return ()
  | some id => postCells id { r with cookie := p.cookie }

/-- What remains of a cell report once its slot is empty. -/
def passCells (r : CellReport) (p : Pending Unit) : HubM A R Unit := do
  checkCode r.code
  modifyWwan fun w => { w with cellErrors := w.cellErrors.record r.code }
  if !(Histogram.reading r.code).isSuccess then countRadioError .wwan
  tellCells r p

section

variable (hL : L.Tells W)

include hL

/-- A slot that is filled holds what it was filled with. -/
theorem Law.Tells.occupied_obeys {κ : Type} {s : Slot κ} {p : Pending κ} {f : Slot κ → HubM A R α}
    (hf : Obeys L (f (some p))) : Obeys L (occupied s p >>= f) := by
  cases s with
  | none => exact hf
  | some q => exact fun h => hL.halts_occupied h

theorem Law.Tells.checkCode_obeys (raw : Nat) : Obeys L (checkCode raw) :=
  .ite (fun _ => hL.emit_obeys _ _ _) fun _ => .pure _

theorem Law.Tells.answerWifi_obeys (id : InstanceId) {kind : Nat} (hk : kind ≠ WifiKind.scan)
    (code : ErrorCode) (cookie : Cookie) : Obeys L (answerWifi id kind code cookie) :=
  hL.postOrDie_obeys (answer_plain id hk code cookie)

theorem Law.Tells.answerRequester_obeys (requester : Option InstanceId) {kind : Nat}
    (hk : kind ≠ WifiKind.scan) (code : ErrorCode) (cookie : Cookie) :
    Obeys L (answerRequester requester kind code cookie) := by
  unfold answerRequester
  split
  · exact .pure _
  · exact hL.answerWifi_obeys _ hk _ _

theorem Law.Tells.postScan_obeys {e : Event} (he : e.Plain) : Obeys L (postScan e) :=
  .bind (hL.post_obeys he) fun _ => .ite (fun _ => hL.emit_obeys _ _ _) fun _ => .pure _

theorem Law.Tells.shareScan_obeys (scan : Scan) (requester : Option InstanceId) :
    Obeys L (shareScan scan requester) := by
  have hone (id : InstanceId) :
      Obeys L (postScan (.toOne EventType.wifiScanResult (.scan scan) id)) :=
    hL.postScan_obeys (Event.toOne_plain (by decide) (by decide) _ _)
  have hall : Obeys L (postScan (.toAll EventType.wifiScanResult (.scan scan))) :=
    hL.postScan_obeys (Event.toAll_plain (by decide) (by decide) _)
  unfold shareScan
  refine .get_bind fun h => ?_
  dsimp only
  split
  · refine .ite (fun _ => hall) fun _ => ?_
    exact .ite (fun _ => hL.emit_obeys _ _ _) fun _ => .pure _
  · refine .bind (hone _) fun _ => .ite (fun _ => hall) fun _ => ?_
    exact .ite (fun _ => hL.emit_obeys _ _ _) fun _ => .pure _

theorem Law.Tells.passRanging_obeys (raw : Nat) (results : Option (List RangingResult))
    (p : Pending Unit) : Obeys L (passRanging raw results p) := by
  have htell : Obeys L (tellRanging raw results p) := by
    unfold tellRanging
    split
    · exact .pure _
    · refine .bind (hL.answerWifi_obeys _ (by decide) _ _) fun _ => .ite (fun _ => ?_)
        fun _ => .pure _
      exact hL.postOrDie_obeys (Event.toOne_plain (by decide) (by decide) _ _)
  exact .ite (fun _ => .bind (hL.countRadioError_obeys _) fun _ => htell) fun _ => htell

theorem Law.Tells.postCells_obeys (id : InstanceId) (r : CellReport) : Obeys L (postCells id r) :=
  hL.postOrDie_obeys (Event.toOne_plain (by decide) (by decide) _ _)

theorem Law.Tells.passCells_obeys (r : CellReport) (p : Pending Unit) :
    Obeys L (passCells r p) := by
  have htell : Obeys L (tellCells r p) := by
    unfold tellCells
    split
    · exact .pure _
    · exact hL.postCells_obeys _ _
  refine .bind (hL.checkCode_obeys _) fun _ => .bind (hL.countCells_obeys _) fun _ => ?_
  exact .ite (fun _ => .bind (hL.countRadioError_obeys _) fun _ => htell) fun _ => htell

theorem Law.Tells.answerGnss_obeys (k : SessionKind) (id : InstanceId) (enable : Bool)
    (code : ErrorCode) (cookie : Cookie) : Obeys L (answerGnss k id enable code cookie) :=
  hL.postOrDie_obeys (Event.toOne_plain (by decide) (by decide) _ _)

theorem Law.Tells.applySession_obeys (k : SessionKind) {id : InstanceId}
    {request : Option SessionRequest} (hjoin : W.joins (some id) request) :
    Obeys L (applySession k id request) := by
  refine .bind (hL.join_obeys k hjoin) fun _ => .ite (fun _ => ?_) fun _ => ?_
  · exact .bind (hL.subscribe_obeys _ _) fun _ => .pure _
  · exact .bind (hL.unsubscribe_obeys _ _) fun _ => .pure _

theorem Law.Tells.shareSessionData_obeys (k : SessionKind) (payload : Payload) :
    Obeys L (shareSessionData k payload) := by
  have hplain (payload : Payload) : (Event.toAll k.dataType payload).Plain := by
    cases k <;> exact Event.toAll_plain (by decide) (by decide) _
  refine .bind (.get_bind fun _ => .pure _) fun s => .ite (fun _ => hL.emit_obeys _ _ _) fun _ => ?_
  refine .ite (fun _ => .pure _) fun _ => .bind (hL.post_obeys (hplain _)) fun _ => ?_
  exact .ite (fun _ => hL.emit_obeys _ _ _) fun _ => .pure _

end

/-! ## Scan monitoring -/

/-- What follows a change of scan monitoring: the requester is told, and the radio asked again. -/
def concludeMonitor [Radio R] (p : Pending MonitorChange) (result : ErrorCode) :
    HubM A R Unit := do
  match p.requester with
  | none => pure ()
  | some id =>
    if result.isSuccess then applyMonitor id p.kind.enable
    answerWifi id WifiKind.scanMonitor result p.cookie
  reconcileMonitor

section

variable [Radio R] (hL : L.Watches W)

include hL

theorem Law.Watches.applyMonitor_obeys {id : InstanceId} (hid : W.holds id) (enable : Bool) :
    Obeys L (applyMonitor id enable) := by
  refine .ite (fun _ => ?_) fun _ => ?_
  · exact .bind (hL.monitor_obeys (.enter hid)) fun _ => .bind (hL.subscribe_obeys _ _) fun _ =>
      .pure _
  · exact .bind (hL.monitor_obeys (.leave id)) fun _ => .bind (hL.unsubscribe_obeys _ _) fun _ =>
      .pure _

theorem Law.Watches.awaitMonitor_obeys {requester : Option InstanceId}
    (hr : ∀ id ∈ requester, W.holds id) (cookie : Cookie) (change : MonitorChange) :
    Obeys L (awaitMonitor requester cookie change) :=
  .get_bind fun _ => hL.occupied_obeys (hL.monitor_obeys (.fill hr))

theorem Law.Watches.configureMonitor_obeys {id : InstanceId} (hid : W.holds id) (enable : Bool)
    (cookie : Cookie) : Obeys L (configureMonitor id enable cookie) := by
  unfold configureMonitor
  refine .bind (.get_bind fun _ => .pure _) fun _ => .ite (fun _ => .pure _) fun _ => ?_
  refine .get_bind fun h => .ite (fun _ => .pure _) fun _ => .ite (fun _ => ?_) fun _ => ?_
  · exact .bind (hL.applyMonitor_obeys hid _) fun _ =>
      .bind (hL.answerWifi_obeys _ (by decide) _ _) fun _ => .pure _
  · refine .bind (hL.target_obeys _) fun _ => .ite (fun _ => .pure _) fun _ => ?_
    exact .bind (hL.awaitMonitor_obeys (Admission.holds_some hid) _ _) fun _ => .pure _

theorem Law.Watches.reconcileMonitor_obeys : Obeys L reconcileMonitor := by
  unfold reconcileMonitor
  refine .get_bind fun h => .ite (fun _ => .pure _) fun _ => .ite (fun _ => .pure _) fun _ => ?_
  refine .bind (hL.target_obeys _) fun _ => .ite (fun _ => ?_) fun _ => hL.emit_obeys _ _ _
  exact hL.awaitMonitor_obeys (by simp) _ _

/-- A slot's requester, and nobody else, may come to monitor scans. -/
theorem Law.Watches.concludeMonitor_obeys {p : Pending MonitorChange}
    (hp : ∀ id ∈ p.requester, W.holds id) (result : ErrorCode) :
    Obeys L (concludeMonitor p result) := by
  unfold concludeMonitor
  split
  · exact hL.reconcileMonitor_obeys
  · rename_i id hid
    have hanswer : Obeys L (do
        answerWifi id WifiKind.scanMonitor result p.cookie
        reconcileMonitor) :=
      .bind (hL.answerWifi_obeys _ (by decide) _ _) fun _ => hL.reconcileMonitor_obeys
    refine .ite (fun _ => ?_) fun _ => hanswer
    exact .bind (hL.applyMonitor_obeys (hp id hid) _) fun _ => hanswer

theorem Law.Watches.handleMonitorStatus_obeys (enabled : Bool) (raw : Nat) :
    Obeys L (handleMonitorStatus enabled raw) := by
  unfold handleMonitorStatus
  refine hL.reading fun h hh => ?_
  split
  · exact hL.emit_obeys _ _ _
  · rename_i p hp
    have hconclude := hL.concludeMonitor_obeys (hh.monitor p hp)
    refine .bind (hL.checkCode_obeys _) fun _ => .bind (hL.monitor_obeys (.vacate raw)) fun _ => ?_
    refine .ite (fun _ => ?_) fun _ => ?_
    · exact .bind (hL.monitor_obeys (.confirm enabled)) fun _ => hconclude _
    · exact .bind (hL.countRadioError_obeys _) fun _ => hconclude _

end

/-! ## Ranging -/

/-- The end of forgetting a nanoapp: its ranging goes, and the radio follows the monitors. -/
def forgetRanging [Radio R] (id : InstanceId) : HubM A R Unit := do
  if Slot.isOwnedBy (← get).wifi.rangingSlot id then
    match (← get).wifi.rangingSlot with
    | none => pure ()
    | some p =>
      takeRangingSlot
      let _ ← cancelSystemTimer p.timer
  reconcileMonitor

section

variable [Radio R] (hL : L.Tends W)

include hL

theorem Law.Tends.requestRanging_obeys {id : InstanceId} (hid : W.holds id) (targets : List Bssid)
    (cookie : Cookie) : Obeys L (requestRanging id targets cookie) := by
  unfold requestRanging
  refine .bind (.get_bind fun _ => .pure _) fun _ => .ite (fun _ => .pure _) fun _ => ?_
  refine .get_bind fun _ => .ite (fun _ => .pure _) fun _ => .ite (fun _ => .pure _) fun _ => ?_
  refine .bind (hL.requestRadio_obeys nofun) fun _ => .ite (fun _ => .pure _) fun _ => ?_
  refine .get_bind fun _ => .bind (hL.setSystemTimer_obeys _ _) fun _ => .get_bind fun _ => ?_
  refine hL.occupied_obeys (.bind (hL.ranging_obeys (.fill ?_)) fun _ => .pure _)
  exact Admission.holds_some hid

theorem Law.Tends.handleRanging_obeys (raw : Nat) (results : Option (List RangingResult)) :
    Obeys L (handleRanging raw results) := by
  unfold handleRanging
  refine .get_bind fun _ => ?_
  split
  · exact hL.emit_obeys _ _ _
  · refine .bind (hL.ranging_obeys .vacate) fun _ => .bind (hL.checkCode_obeys _) fun _ => ?_
    refine .bind (hL.ranging_obeys (.count raw)) fun _ => ?_
    exact .bind (hL.cancelSystemTimer_obeys _) fun _ => hL.passRanging_obeys raw results _

theorem Law.Tends.handleRangingTimeout_obeys (x : TimerHandle) :
    Obeys L (handleRangingTimeout x) := by
  unfold handleRangingTimeout
  refine .get_bind fun _ => ?_
  split
  · exact hL.emit_obeys _ _ _
  · refine .ite (fun _ => ?_) fun _ => hL.emit_obeys _ _ _
    refine .bind (hL.ranging_obeys .vacate) fun _ => .bind (hL.emit_obeys _ _ _) fun _ => ?_
    exact .bind (hL.ranging_obeys (.count _)) fun _ => hL.answerRequester_obeys _ (by decide) _ _

theorem Law.Tends.forgetRanging_obeys (hm : Obeys L reconcileMonitor) (id : InstanceId) :
    Obeys L (forgetRanging id) := by
  refine .get_bind fun _ => .ite (fun _ => .get_bind fun _ => ?_) fun _ => hm
  split
  · exact hm
  · exact .bind (hL.ranging_obeys .vacate) fun _ => .bind (hL.cancelSystemTimer_obeys _) fun _ => hm

/-! ## Cells -/

theorem Law.Tends.requestCellInfo_obeys {id : InstanceId} (hid : W.holds id) (cookie : Cookie) :
    Obeys L (requestCellInfo id cookie) := by
  unfold requestCellInfo
  refine .bind (.get_bind fun _ => .pure _) fun _ => .ite (fun _ => .pure _) fun _ => ?_
  refine .get_bind fun _ => .ite (fun _ => ?_) fun _ => ?_
  · exact .bind (hL.emit_obeys _ _ _) fun _ => .pure _
  refine .bind (hL.requestRadio_obeys nofun) fun _ => .ite (fun _ => .pure _) fun _ => ?_
  refine .get_bind fun _ => .bind (hL.setSystemTimer_obeys _ _) fun _ => .get_bind fun _ => ?_
  refine hL.occupied_obeys (.bind (hL.cell_obeys (.fill ?_)) fun _ => .pure _)
  exact Admission.holds_some hid

theorem Law.Tends.handleCellReport_obeys (r : CellReport) : Obeys L (handleCellReport r) := by
  unfold handleCellReport
  refine .get_bind fun _ => ?_
  split
  · exact hL.emit_obeys _ _ _
  · refine .bind (hL.cell_obeys .vacate) fun _ => .bind (hL.cancelSystemTimer_obeys _) fun _ => ?_
    exact hL.passCells_obeys r _

theorem Law.Tends.handleCellTimeout_obeys (x : TimerHandle) : Obeys L (handleCellTimeout x) := by
  unfold handleCellTimeout
  refine .get_bind fun _ => ?_
  split
  · exact hL.emit_obeys _ _ _
  · refine .ite (fun _ => ?_) fun _ => hL.emit_obeys _ _ _
    refine .bind (hL.cell_obeys .vacate) fun _ => .bind (hL.emit_obeys _ _ _) fun _ => ?_
    refine .bind (hL.countCells_obeys _) fun _ => ?_
    split
    · exact .pure _
    · exact hL.postCells_obeys _ _

theorem Law.Tends.forgetWwan_obeys (id : InstanceId) : Obeys L (forgetWwan id) := by
  unfold forgetWwan
  refine .get_bind fun _ => ?_
  split
  · exact .pure _
  · refine .ite (fun _ => .bind (hL.cell_obeys .vacate) fun _ => ?_) fun _ => .pure _
    exact .bind (hL.cancelSystemTimer_obeys _) fun _ => hL.emit_obeys _ _ _

end

/-! ## Sessions -/

/-- What follows the status of a session: the requester is told, and the radio asked again. -/
def sessionOutcome [Radio R] (k : SessionKind) (p : Pending SessionChange) (result : ErrorCode) :
    HubM A R Unit := do
  match p.requester with
  | none => pure ()
  | some id =>
    if result.isSuccess then applySession k id p.kind.request
    answerGnss k id p.kind.request.isSome result p.cookie
  reconcileSession k

section

variable [Radio R] (hL : L.Tends W)

include hL

theorem Law.Tends.awaitSession_obeys (k : SessionKind) {requester : Option InstanceId}
    (cookie : Cookie) {change : SessionChange} (hjoin : W.joins requester change.request) :
    Obeys L (awaitSession k requester cookie change) := by
  refine .get_bind fun _ => .bind (hL.setSystemTimer_obeys _ _) fun _ => .get_bind fun _ => ?_
  exact hL.occupied_obeys (hL.session_obeys k (.fill hjoin))

theorem Law.Tends.controlSession_obeys (k : SessionKind) {id : InstanceId}
    {request : Option SessionRequest} (hjoin : W.joins (some id) request) (cookie : Cookie) :
    Obeys L (controlSession k id request cookie) := by
  unfold controlSession
  refine .bind (.get_bind fun _ => .pure _) fun _ => .ite (fun _ => .pure _) fun _ => ?_
  refine .bind (.get_bind fun _ => .pure _) fun _ => .ite (fun _ => ?_) fun _ => ?_
  · exact .bind (hL.emit_obeys _ _ _) fun _ => .pure _
  refine .ite (fun _ => ?_) fun _ => ?_
  · exact .bind (hL.applySession_obeys k hjoin) fun _ =>
      .bind (hL.answerGnss_obeys _ _ _ _ _) fun _ => .pure _
  · refine .bind (hL.requestRadio_obeys (k.request_ne_scanMonitor _)) fun _ => ?_
    refine .ite (fun _ => .pure _) fun _ => ?_
    exact .bind (hL.awaitSession_obeys k _ hjoin) fun _ => .pure _

theorem Law.Tends.reconcileSession_obeys (k : SessionKind) : Obeys L (reconcileSession k) := by
  unfold reconcileSession
  refine .bind (.get_bind fun _ => .pure _) fun _ => .ite (fun _ => .pure _) fun _ => ?_
  refine .ite (fun _ => .pure _) fun _ => ?_
  refine .bind (hL.requestRadio_obeys (k.request_ne_scanMonitor _)) fun _ => ?_
  refine .ite (fun _ => ?_) fun _ => hL.emit_obeys _ _ _
  exact .bind (hL.emit_obeys _ _ _) fun _ => hL.awaitSession_obeys k _ W.joins_none

/-- A slot's requester, and nobody else, may come into the session. -/
theorem Law.Tends.sessionOutcome_obeys (k : SessionKind) {p : Pending SessionChange}
    (hp : W.joins p.requester p.kind.request) (result : ErrorCode) :
    Obeys L (sessionOutcome k p result) := by
  unfold sessionOutcome
  split
  · exact hL.reconcileSession_obeys k
  · rename_i id hid
    have hanswer : Obeys L (do
        answerGnss k id p.kind.request.isSome result p.cookie
        reconcileSession k) :=
      .bind (hL.answerGnss_obeys _ _ _ _ _) fun _ => hL.reconcileSession_obeys k
    refine .ite (fun _ => ?_) fun _ => hanswer
    exact .bind (hL.applySession_obeys k (hid ▸ hp)) fun _ => hanswer

theorem Law.Tends.handleSessionStatus_obeys (k : SessionKind) (enabled : Bool) (raw : Nat) :
    Obeys L (handleSessionStatus k enabled raw) := by
  refine hL.reading fun h hh => ?_
  dsimp only
  split
  · exact hL.emit_obeys _ _ _
  · rename_i p hp
    have houtcome := hL.sessionOutcome_obeys k (hh.session k p hp)
    refine .bind (hL.session_obeys k .vacate) fun _ => ?_
    refine .bind (hL.cancelSystemTimer_obeys _) fun _ => .bind (hL.checkCode_obeys _) fun _ => ?_
    refine .bind (hL.session_obeys k (.count raw)) fun _ => .ite (fun _ => ?_) fun _ => ?_
    · exact .bind (hL.session_obeys k (.confirm _)) fun _ => houtcome _
    · exact .bind (hL.countRadioError_obeys _) fun _ => houtcome _

theorem Law.Tends.handleSessionTimeout_obeys (k : SessionKind) (x : TimerHandle) :
    Obeys L (handleSessionTimeout k x) := by
  unfold handleSessionTimeout
  refine .bind (.get_bind fun _ => .pure _) fun _ => ?_
  split
  · exact hL.emit_obeys _ _ _
  · refine .ite (fun _ => ?_) fun _ => hL.emit_obeys _ _ _
    refine .bind (hL.session_obeys k .vacate) fun _ => .bind (hL.emit_obeys _ _ _) fun _ => ?_
    refine .bind (hL.session_obeys k (.count _)) fun _ => ?_
    split
    · exact .pure _
    · exact hL.answerGnss_obeys _ _ _ _ _

theorem Law.Tends.handleGnssReport_obeys (r : GnssReport) : Obeys L (handleGnssReport r) := by
  cases r with
  | locationStatus enabled code => exact hL.handleSessionStatus_obeys .location enabled code
  | location l => exact hL.shareSessionData_obeys .location _
  | measurementStatus enabled code => exact hL.handleSessionStatus_obeys .measurement enabled code
  | data d => exact hL.shareSessionData_obeys .measurement _

theorem Law.Tends.forgetSession_obeys (k : SessionKind) (id : InstanceId) :
    Obeys L (forgetSession k id) :=
  .bind (hL.session_obeys k (.forget id)) fun _ => hL.reconcileSession_obeys k

theorem Law.Tends.forgetGnss_obeys (id : InstanceId) : Obeys L (forgetGnss id) :=
  .bind (hL.forgetSession_obeys _ _) fun _ => hL.forgetSession_obeys _ _

end

/-! ## Scans on demand -/

section

variable [Radio R] (hL : L.Seeks W)

include hL

theorem Law.Seeks.answerScan_requester (requester : Option InstanceId) (code : ErrorCode)
    (cookie : Cookie) : Obeys L (answerRequester requester WifiKind.scan code cookie) := by
  unfold answerRequester
  split
  · exact .pure _
  · exact hL.answerScan_obeys _ _ _

theorem Law.Seeks.requestScan_obeys {id : InstanceId} (hid : W.holds id) (params : ScanParams)
    (cookie : Cookie) : Obeys L (requestScan id params cookie) := by
  unfold requestScan
  refine .bind (.get_bind fun _ => .pure _) fun _ => .ite (fun _ => .pure _) fun _ => ?_
  refine .get_bind fun _ => .ite (fun _ => ?_) fun _ => .ite (fun _ => .pure _) fun _ => ?_
  · exact .bind (hL.emit_obeys _ _ _) fun _ => .pure _
  refine .bind (hL.requestRadio_obeys nofun) fun _ => .ite (fun _ => .pure _) fun _ => ?_
  refine .get_bind fun _ => .bind (hL.setSystemTimer_obeys _ _) fun _ => .get_bind fun _ => ?_
  refine hL.occupied_obeys (.bind (hL.scan_obeys (.fill ?_)) fun _ => .pure _)
  exact Admission.holds_some hid

theorem Law.Seeks.setScanJob_obeys (job : ScanJob) : Obeys L (setScanJob job) :=
  hL.scan_obeys (.setJob job)

theorem Law.Seeks.vacateScan_obeys : Obeys L vacateScan := by
  unfold vacateScan
  refine .get_bind fun _ => ?_
  split
  · exact .pure _
  · refine .bind (hL.scan_obeys .vacate) fun _ => .bind (hL.cancelSystemTimer_obeys _) fun _ => ?_
    refine .ite (fun _ => ?_) fun _ => .pure _
    exact .bind (hL.cancelSystemTimer_obeys _) fun _ => .pure _

theorem Law.Seeks.failScan_obeys (code : ErrorCode) : Obeys L (failScan code) := by
  refine .bind hL.vacateScan_obeys fun _ => ?_
  split
  · exact .pure _
  · exact .bind (hL.countRadioError_obeys _) fun _ => hL.answerScan_requester _ _ _

theorem Law.Seeks.handleScanResponse_obeys (pending : Bool) (raw : Nat) :
    Obeys L (handleScanResponse pending raw) := by
  unfold handleScanResponse
  refine .get_bind fun _ => ?_
  dsimp only
  split
  · exact hL.emit_obeys _ _ _
  · refine .bind (hL.checkCode_obeys _) fun _ => .bind (hL.scan_obeys (.count raw)) fun _ => ?_
    refine .ite (fun _ => ?_) fun _ => .ite (fun _ => ?_) fun _ => hL.failScan_obeys _
    · exact .bind (hL.setScanJob_obeys _) fun _ => hL.answerScan_requester _ _ _
    · refine .bind (hL.setScanJob_obeys _) fun _ => .bind (hL.setSystemTimer_obeys _ _) fun _ => ?_
      exact .bind (hL.setScanJob_obeys _) fun _ => hL.emit_obeys _ _ _

theorem Law.Seeks.handleScanRetry_obeys (x : TimerHandle) : Obeys L (handleScanRetry x) := by
  unfold handleScanRetry
  refine .get_bind fun _ => ?_
  split
  · exact hL.emit_obeys _ _ _
  · refine .bind (hL.setScanJob_obeys _) fun _ => .bind (hL.requestRadio_obeys nofun) fun _ => ?_
    exact .ite (fun _ => hL.setScanJob_obeys _) fun _ => hL.failScan_obeys _

theorem Law.Seeks.handleScanTimeout_obeys (x : TimerHandle) : Obeys L (handleScanTimeout x) := by
  refine .get_bind fun _ => .ite (fun _ => ?_) fun _ => hL.emit_obeys _ _ _
  refine .bind (hL.emit_obeys _ _ _) fun _ => .bind (hL.scan_obeys (.count _)) fun _ => ?_
  exact hL.failScan_obeys _

theorem Law.Seeks.handleScan_obeys (scan : Scan) : Obeys L (handleScan scan) := by
  refine .get_bind fun _ => .ite (fun _ => ?_) fun _ => .ite (fun _ => ?_) fun _ => ?_
  · exact .bind hL.vacateScan_obeys fun _ => hL.shareScan_obeys _ _
  · exact hL.shareScan_obeys _ _
  · exact hL.emit_obeys _ _ _

theorem Law.Seeks.handleSystemTimer_obeys (x : TimerHandle) (purpose : TimerPurpose) :
    Obeys L (handleSystemTimer x purpose) := by
  cases purpose with
  | wifiScanRetry => exact hL.handleScanRetry_obeys x
  | wifiScanTimeout => exact hL.handleScanTimeout_obeys x
  | wifiRangingTimeout => exact hL.handleRangingTimeout_obeys x
  | wwanCellInfoTimeout => exact hL.handleCellTimeout_obeys x
  | gnssLocationTimeout => exact hL.handleSessionTimeout_obeys _ x
  | gnssMeasurementTimeout => exact hL.handleSessionTimeout_obeys _ x

theorem Law.Seeks.forgetWifi_obeys (hw : L.Watches W) (id : InstanceId) :
    Obeys L (forgetWifi id) := by
  have hranging := hL.forgetRanging_obeys hw.reconcileMonitor_obeys id
  refine .bind (hw.monitor_obeys (.forget id)) fun _ => .get_bind fun _ => ?_
  refine .ite (fun _ => ?_) fun _ => hranging
  exact .bind hL.vacateScan_obeys fun _ => .bind (hL.emit_obeys _ _ _) fun _ => hranging

/-- Nothing is left to look at where the parts of scan monitoring obey as well. -/
theorem Law.Seeks.serves (hw : L.Watches W) : L.Serves W where
  toSeeks := hL
  configureMonitor_obeys := hw.configureMonitor_obeys
  handleMonitorStatus_obeys := hw.handleMonitorStatus_obeys
  forgetWifi_obeys := hL.forgetWifi_obeys hw

end

/-! ## Requests and reports -/

section

variable [Radio R] (hL : L.Serves W)

include hL

theorem Law.Serves.hears : L.Hears W where
  toTells := hL.toTells
  configureMonitor_obeys := hL.configureMonitor_obeys
  requestScan_obeys := hL.requestScan_obeys
  requestRanging_obeys := hL.requestRanging_obeys
  requestCellInfo_obeys := hL.requestCellInfo_obeys
  controlSession_obeys := hL.controlSession_obeys

theorem Law.Serves.handleReport_obeys (r : Report) : Obeys L (handleReport r) := by
  cases r with
  | wifi r =>
    cases r with
    | monitorStatus enabled code => exact hL.handleMonitorStatus_obeys enabled code
    | scanResponse pending code => exact hL.handleScanResponse_obeys pending code
    | scan scan => exact hL.handleScan_obeys scan
    | ranging code results => exact hL.handleRanging_obeys code results
  | wwan r => exact hL.handleCellReport_obeys r
  | gnss r => exact hL.handleGnssReport_obeys r

end

end Hub

end ContextHub
