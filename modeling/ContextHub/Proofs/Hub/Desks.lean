import ContextHub.Proofs.Hub.Front
/-!
# The rules of the desks

At each desk of the hub requests are taken, worked on by a radio, answered, and given up when their
nanoapp is unloaded. `Desks.DeskRule m d fx d'` lists what may come of a `Move` `m`: which desks it
changes, and what becomes known of it. One rule is applied at a time, and it changes no desk but its
own. The operations on scan monitoring, scans, ranging and cells keep to the rules.
-/

namespace ContextHub

/-- What happens to a hub from the point of view of its front. -/
inductive Move where
  | called (id : InstanceId) (c : Call)
  | reported (r : Report)
  | expired (x : TimerHandle) (u : TimerPurpose)
  | left (id : InstanceId)
  | joined (id : InstanceId) (permissions : Permissions)
  /-- An event is taken from the queue to be dispatched. -/
  | taken (e : Event)
  | delivered (d : Delivery)
  | other

namespace Move

/-- Whether the move is about the scan in flight. -/
def servesScan : Move → Bool
  | reported (.wifi (.scanResponse _ _)) => true
  | reported (.wifi (.scan _)) => true
  | expired _ .wifiScanRetry => true
  | expired _ .wifiScanTimeout => true
  | _ => false

end Move

/-- The desks where a request, once the radio has accepted it, is in flight until a report or a
timer of its own closes it. -/
inductive Desk where
  | ranging
  | cell
  | session (k : SessionKind)

/-- What identifies a request in flight; `start` is whether it starts a session or stops it. -/
structure Ticket where
  requester : Option InstanceId
  cookie : Cookie
  timer : TimerHandle
  start : Bool

def Pending.ticket {κ : Type} (p : Pending κ) (start : Bool) : Ticket :=
  ⟨p.requester, p.cookie, p.timer, start⟩

def Desks.ticket (d : Desks) : Desk → Option Ticket
  | .ranging => d.ranging.map (·.ticket true)
  | .cell => d.cell.map (·.ticket true)
  | .session k => (d.session k).slot.map fun p => p.ticket p.kind.request.isSome

namespace Desk

def purpose : Desk → TimerPurpose
  | ranging => .wifiRangingTimeout
  | cell => .wwanCellInfoTimeout
  | session k => k.purpose

/-- Whether a report is on what is in flight at the desk. -/
def isReported : Desk → Report → Bool
  | ranging, .wifi (.ranging _ _) => true
  | cell, .wwan _ => true
  | session .location, .gnss (.locationStatus _ _) => true
  | session .measurement, .gnss (.measurementStatus _ _) => true
  | _, _ => false

theorem eq_of_isReported {desk desk' : Desk} {r : Report} (h : desk.isReported r = true)
    (h' : desk'.isReported r = true) : desk = desk' := by
  unfold isReported at h h'
  split at h <;> split at h' <;> simp_all

theorem purpose_inj {desk desk' : Desk} (h : desk.purpose = desk'.purpose) : desk = desk' := by
  rcases desk with _ | _ | _ | _ <;> rcases desk' with _ | _ | _ | _ <;> first | rfl | cases h

/-- Whether a move closes the request. -/
def closes (desk : Desk) (x : Ticket) : Move → Bool
  | .reported r => desk.isReported r
  | .expired handle u => u == desk.purpose && handle == x.timer
  | _ => false

theorem closes_timer (desk : Desk) (x : Ticket) :
    desk.closes x (.expired x.timer desk.purpose) = true := by simp [closes]

end Desk

/-- The move closes nothing. -/
def Desks.Idles (d : Desks) (m : Move) : Prop :=
  ∀ desk x, d.ticket desk = some x → desk.closes x m = false

namespace Desks

variable {d : Desks}

theorem idles_call {id : InstanceId} {c : Call} : d.Idles (.called id c) := fun _ _ _ => rfl

/-- A report on a desk where nothing is in flight. -/
theorem idles_vacant {desk : Desk} {r : Report} (hr : desk.isReported r = true)
    (hd : d.ticket desk = none) : d.Idles (.reported r) := by
  intro desk' x hx
  refine Bool.eq_false_iff.2 fun hc => ?_
  rw [Desk.eq_of_isReported hc hr, hd] at hx
  cases hx

/-- A report on nothing that a desk keeps. -/
theorem idles_elsewhere {r : Report} (hr : ∀ desk : Desk, desk.isReported r = false) :
    d.Idles (.reported r) := fun desk _ _ => hr desk

theorem idles_timer {desk : Desk} {x : TimerHandle} {u : TimerPurpose} (hu : desk.purpose = u)
    (hd : ∀ t, d.ticket desk = some t → t.timer ≠ x) : d.Idles (.expired x u) := by
  intro desk' t ht
  refine Bool.eq_false_iff.2 fun hc => ?_
  obtain ⟨hu', hx⟩ := Bool.and_eq_true_iff.1 hc
  rw [Desk.purpose_inj ((beq_iff_eq.1 hu').symm.trans hu.symm)] at ht
  exact hd t ht (beq_iff_eq.1 hx).symm

/-- A timer that is not the one of what is in flight. -/
theorem idles_stale {desk : Desk} {t : Ticket} {x : TimerHandle} {u : TimerPurpose}
    (hu : desk.purpose = u) (hd : d.ticket desk = some t) (hx : t.timer ≠ x) :
    d.Idles (.expired x u) :=
  idles_timer hu fun t' ht => by
    cases hd.symm.trans ht
    exact hx

/-- A timer that nothing in flight awaits. -/
theorem idles_unawaited {desk : Desk} {x : TimerHandle} {u : TimerPurpose} (hu : desk.purpose = u)
    (hd : d.ticket desk = none) : d.Idles (.expired x u) :=
  idles_timer hu fun t ht => by
    rw [hd] at ht
    cases ht

/-- A timer for nothing that a desk keeps. -/
theorem idles_foreign {x : TimerHandle} {u : TimerPurpose} (hu : ∀ desk : Desk, u ≠ desk.purpose) :
    d.Idles (.expired x u) := fun desk _ _ => by
  rw [Desk.closes, beq_eq_false_iff_ne.2 (hu desk), Bool.false_and]

end Desks

/-- Whether the effects are those of a request that is admitted. -/
def Effect.granted : List Effect → Bool
  | [] => false
  | [.asked _ false] => false
  | _ => true

def Effect.subscription (on : Bool) (id : InstanceId) (type : EventType) : Effect :=
  if on then .subscribed id type else .unsubscribed id type

/-! ## Answers -/

def wifiAnswer (id : InstanceId) (kind : Nat) (code : ErrorCode) (cookie : Cookie) : Event :=
  .toOne EventType.wifiAsyncResult (.async ⟨kind, code, cookie⟩) id

def rangingResults (id : InstanceId) (results : Option (List RangingResult)) : Event :=
  .toOne EventType.wifiRangingResult (.ranging (results.getD [])) id

def cellAnswer (id : InstanceId) (r : CellReport) : Event :=
  .toOne EventType.wwanCellInfoResult (.cells r) id

def sessionAnswer (k : SessionKind) (id : InstanceId) (start : Bool) (code : ErrorCode)
    (cookie : Cookie) : Event :=
  .toOne EventType.gnssAsyncResult (.async ⟨k.requestKind start, code, cookie⟩) id

/-- What is posted to the requester, if there still is one. -/
def Pending.answered {κ : Type} (p : Pending κ) (answer : InstanceId → List Effect) : List Effect :=
  p.requester.elim [] answer

/-- The request in flight, unless it is the nanoapp's. -/
def Slot.without {κ : Type} (s : Slot κ) (id : InstanceId) : Slot κ :=
  s.filter fun p => p.requester != some id

namespace Desks

/-! ## Scan monitoring -/

/-- A nanoapp's wish about monitoring is entered. -/
def enter (d : Desks) (id : InstanceId) (enable : Bool) : Desks :=
  { d with monitors :=
      if enable then if d.monitors.contains id then d.monitors else d.monitors ++ [id]
      else d.monitors.filter (· != id) }

theorem mem_enter (d : Desks) (id : InstanceId) (enable : Bool) (x : InstanceId) :
    x ∈ (d.enter id enable).monitors ↔
      if enable then x ∈ d.monitors ∨ x = id else x ∈ d.monitors ∧ x ≠ id := by
  cases enable with
  | true =>
    simp only [enter, ↓reduceIte]
    split
    · rename_i hid
      rw [List.contains_iff_mem] at hid
      exact ⟨.inl, fun hx => hx.elim (fun hx => hx) fun he => he ▸ hid⟩
    · simp
  | false => simp [enter]

theorem enter_isEmpty (d : Desks) (id : InstanceId) (enable : Bool) :
    (!(d.enter id enable).monitors.isEmpty) = (enable || d.monitors.any (· != id)) := by
  cases enable with
  | false =>
    rw [Bool.eq_iff_iff]
    simp [enter]
  | true =>
    simp only [enter, if_true, Bool.true_or]
    split
    · rename_i hid
      cases hm : d.monitors with
      | nil => simp [hm] at hid
      | cons => rfl
    · simp

theorem enter_nodup {d : Desks} (hd : d.monitors.Nodup) (id : InstanceId) (enable : Bool) :
    (d.enter id enable).monitors.Nodup := by
  cases enable with
  | false => exact hd.filter _
  | true =>
    simp only [enter, if_true]
    split
    · exact hd
    · rename_i hid
      exact hd.append (List.nodup_singleton id) (by simpa using hid)

/-- The requester of a change gets what it wished if the change was made. -/
def grantMonitor (d : Desks) (p : Pending MonitorChange) (result : ErrorCode) : Desks :=
  match p.requester with
  | none => d
  | some id => if result.isSuccess then d.enter id p.kind.enable else d

/-- The radio has carried out a change of monitoring, or has not. -/
def settleMonitor (d : Desks) (p : Pending MonitorChange) (enabled : Bool) (code : ErrorCode) :
    Desks :=
  grantMonitor { d with
    monitor := none
    monitorEnabled := if code.isSuccess then enabled else d.monitorEnabled } p
    (Hub.monitorResult code enabled p.kind.target)

/-- The radio is asked again if it does not do what is wished. -/
inductive MonitorRealigned : Desks → List Effect → Desks → Prop
  | kept {d : Desks} (h : d.monitor.isSome = true ∨ (!d.monitors.isEmpty) = d.monitorEnabled) :
      MonitorRealigned d [] d
  | refused {d : Desks} {target : Bool} (hfree : d.monitor = none)
      (htarget : target = !d.monitors.isEmpty) (hne : target ≠ d.monitorEnabled) :
      MonitorRealigned d [.asked (.scanMonitor target) false] d
  | awaited {d : Desks} {p : Pending MonitorChange} (hfree : d.monitor = none)
      (htarget : p.kind.target = !d.monitors.isEmpty) (hne : p.kind.target ≠ d.monitorEnabled)
      (hp : p.requester = none) :
      MonitorRealigned d [.asked (.scanMonitor p.kind.target) true] { d with monitor := some p }

/-- The requester of a change of monitoring is subscribed or not, and is told. -/
def monitorOutcome (p : Pending MonitorChange) (result : ErrorCode) : List Effect :=
  p.answered fun id =>
    (if result.isSuccess then [.subscription p.kind.enable id EventType.wifiScanResult] else []) ++
      [.posted (wifiAnswer id Hub.WifiKind.scanMonitor result p.cookie)]

inductive MonitorRule : Move → Desks → List Effect → Desks → Prop
  | entered {d : Desks} {id : InstanceId} {enable : Bool} {cookie : Cookie}
      (hfree : d.monitor = none)
      (htarget : (enable || d.monitors.any (· != id)) = d.monitorEnabled) :
      MonitorRule (.called id (.scanMonitor enable cookie)) d
        [.subscription enable id EventType.wifiScanResult,
          .posted (wifiAnswer id Hub.WifiKind.scanMonitor .none cookie)] (d.enter id enable)
  | refused {d : Desks} {id : InstanceId} {enable target : Bool} {cookie : Cookie}
      (hfree : d.monitor = none) (hne : target ≠ d.monitorEnabled) :
      MonitorRule (.called id (.scanMonitor enable cookie)) d [.asked (.scanMonitor target) false] d
  | awaited {d : Desks} {id : InstanceId} {enable : Bool} {cookie : Cookie}
      {p : Pending MonitorChange} (hfree : d.monitor = none)
      (htarget : p.kind = ⟨enable, enable || d.monitors.any (· != id)⟩)
      (hne : p.kind.target ≠ d.monitorEnabled) (hp : p.requester = some id)
      (hcookie : p.cookie = cookie) :
      MonitorRule (.called id (.scanMonitor enable cookie)) d
        [.asked (.scanMonitor p.kind.target) true] { d with monitor := some p }
  | settled {d d' : Desks} {p : Pending MonitorChange} {enabled : Bool} {raw : Nat}
      {code : ErrorCode} {fx : List Effect} (hs : d.monitor = some p)
      (hcode : code = Histogram.reading raw)
      (hr : MonitorRealigned (d.settleMonitor p enabled code) fx d') :
      MonitorRule (.reported (.wifi (.monitorStatus enabled raw))) d
        (monitorOutcome p (Hub.monitorResult code enabled p.kind.target) ++ fx) d'

/-! ## Scans on demand -/

/-- What becomes known while a scan is worked on or done with. -/
inductive ScanEffect (requester : Option InstanceId) : Effect → Prop
  | answered {id : InstanceId} (hid : requester = some id) (code : ErrorCode) (cookie : Cookie) :
      ScanEffect requester (.posted (wifiAnswer id Hub.WifiKind.scan code cookie))
  | passed {id : InstanceId} (hid : requester = some id) (scan : Scan) :
      ScanEffect requester (.posted (.toOne EventType.wifiScanResult (.scan scan) id))
  | shared (scan : Scan) :
      ScanEffect requester (.posted (.toAll EventType.wifiScanResult (.scan scan)))
  | asked (params : ScanParams) (accepted : Bool) :
      ScanEffect requester (.asked (.scan params) accepted)

inductive ScanRule : Move → Desks → List Effect → Desks → Prop
  | refused {d : Desks} {id : InstanceId} {params : ScanParams} {cookie : Cookie} :
      ScanRule (.called id (.scan params cookie)) d [.asked (.scan params) false] d
  | awaited {d : Desks} {id : InstanceId} {params : ScanParams} {cookie : Cookie}
      {p : Pending ScanJob} (hfree : d.scan = none) (hp : p.requester = some id)
      (hcookie : p.cookie = cookie) :
      ScanRule (.called id (.scan params cookie)) d [.asked (.scan params) true]
        { d with scan := some p }
  | served {d : Desks} {m : Move} {p : Pending ScanJob} {s : Slot ScanJob} {fx : List Effect}
      (hm : m.servesScan = true) (hs : d.scan = some p)
      (hkept : ∀ q ∈ s, ∃ job, q = { p with kind := job })
      (hfx : ∀ x ∈ fx, ScanEffect p.requester x) : ScanRule m d fx { d with scan := s }
  | shared {d : Desks} {scan : Scan} {fx : List Effect} (hfx : ∀ x ∈ fx, ScanEffect none x)
      (hposted : ∀ x ∈ fx, ∃ e, x = .posted e) : ScanRule (.reported (.wifi (.scan scan))) d fx d

/-! ## Ranging -/

inductive RangingRule : Move → Desks → List Effect → Desks → Prop
  | refused {d : Desks} {id : InstanceId} {targets : List Bssid} {cookie : Cookie} :
      RangingRule (.called id (.ranging targets cookie)) d [.asked (.ranging targets) false] d
  | awaited {d : Desks} {id : InstanceId} {targets : List Bssid} {cookie : Cookie}
      {p : Pending Unit} (hfree : d.ranging = none) (hp : p.requester = some id)
      (hcookie : p.cookie = cookie) :
      RangingRule (.called id (.ranging targets cookie)) d [.asked (.ranging targets) true]
        { d with ranging := some p }
  | answered {d : Desks} {p : Pending Unit} {raw : Nat} {results : Option (List RangingResult)}
      {code : ErrorCode} (hs : d.ranging = some p) (hcode : code = Histogram.reading raw) :
      RangingRule (.reported (.wifi (.ranging raw results))) d
        (p.answered fun id =>
          .posted (wifiAnswer id Hub.WifiKind.ranging code p.cookie) ::
            if code.isSuccess then [.posted (rangingResults id results)] else [])
        { d with ranging := none }
  | timedOut {d : Desks} {p : Pending Unit} (hs : d.ranging = some p) :
      RangingRule (.expired p.timer .wifiRangingTimeout) d
        (p.answered fun id => [.posted (wifiAnswer id Hub.WifiKind.ranging .timeout p.cookie)])
        { d with ranging := none }

/-! ## Cells -/

inductive CellRule : Move → Desks → List Effect → Desks → Prop
  | refused {d : Desks} {id : InstanceId} {cookie : Cookie} :
      CellRule (.called id (.cellInfo cookie)) d [.asked .cellInfo false] d
  | awaited {d : Desks} {id : InstanceId} {cookie : Cookie} {p : Pending Unit}
      (hfree : d.cell = none) (hp : p.requester = some id) (hcookie : p.cookie = cookie) :
      CellRule (.called id (.cellInfo cookie)) d [.asked .cellInfo true] { d with cell := some p }
  | answered {d : Desks} {p : Pending Unit} {r : CellReport} (hs : d.cell = some p) :
      CellRule (.reported (.wwan r)) d
        (p.answered fun id => [.posted (cellAnswer id { r with cookie := p.cookie })])
        { d with cell := none }
  | timedOut {d : Desks} {p : Pending Unit} (hs : d.cell = some p) :
      CellRule (.expired p.timer .wwanCellInfoTimeout) d
        (p.answered fun id =>
          [.posted (cellAnswer id { code := ErrorCode.timeout.raw, cookie := p.cookie })])
        { d with cell := none }

/-! ## Sessions -/

/-- The radio is asked again if it does not serve what is left of the requests. -/
inductive SessionRealigned (k : SessionKind) : Desks → List Effect → Desks → Prop
  | kept {d : Desks} (h : (d.session k).slot.isSome = true ∨
      SessionSetting.aggregate (d.session k).requests = (d.session k).confirmed) :
      SessionRealigned k d [] d
  | refused {d : Desks} {target : SessionSetting} (hfree : (d.session k).slot = none)
      (htarget : target = SessionSetting.aggregate (d.session k).requests)
      (hne : target ≠ (d.session k).confirmed) :
      SessionRealigned k d [.asked (k.request target) false] d
  | awaited {d : Desks} {p : Pending SessionChange} (hfree : (d.session k).slot = none)
      (htarget : p.kind = ⟨none, SessionSetting.aggregate (d.session k).requests⟩)
      (hne : p.kind.target ≠ (d.session k).confirmed) (hp : p.requester = none) :
      SessionRealigned k d [.asked (k.request p.kind.target) true]
        (d.setSession k { d.session k with slot := some p })

end Desks

/-- Which session a call of the nanoapp `id` is about, its part in it, and the cookie. -/
def Call.session? (id : InstanceId) : Call → Option (SessionKind × Option SessionRequest × Cookie)
  | .location interval fix cookie => some (.location, some ⟨id, interval, fix⟩, cookie)
  | .stopLocation cookie => some (.location, none, cookie)
  | .measurement interval cookie => some (.measurement, some ⟨id, interval, 0⟩, cookie)
  | .stopMeasurement cookie => some (.measurement, none, cookie)
  | _ => none

/-- How the radio reports on a session's setting. -/
def SessionKind.status : SessionKind → Bool → Nat → GnssReport
  | .location, enabled, raw => .locationStatus enabled raw
  | .measurement, enabled, raw => .measurementStatus enabled raw

theorem SessionKind.isReported_status (k : SessionKind) (enabled : Bool) (raw : Nat) :
    Desk.isReported (.session k) (.gnss (k.status enabled raw)) = true := by cases k <;> rfl

namespace Session

/-- A nanoapp's part in the session is entered or taken off. -/
def enter (s : Session) (id : InstanceId) (request : Option SessionRequest) : Session :=
  { s with requests := s.others id ++ request.toList }

/-- The requester of a change gets its part in the session if the change was made. -/
def grant (s : Session) (p : Pending SessionChange) (result : ErrorCode) : Session :=
  match p.requester with
  | none => s
  | some id => if result.isSuccess then s.enter id p.kind.request else s

/-- The radio has carried out a change of the session, or has not. -/
def settle (s : Session) (p : Pending SessionChange) (result : ErrorCode) : Session :=
  grant { s with
    slot := none
    confirmed := if result.isSuccess then p.kind.target else s.confirmed } p result

theorem settle_slot (s : Session) (p : Pending SessionChange) (result : ErrorCode) :
    (s.settle p result).slot = none := by
  unfold settle grant
  split
  · rfl
  · split <;> rfl

end Session

namespace Desks

/-- The requester of a change of a session is subscribed or not, and is told. -/
def sessionOutcome (k : SessionKind) (p : Pending SessionChange) (result : ErrorCode) :
    List Effect :=
  p.answered fun id =>
    (if result.isSuccess then [.subscription p.kind.request.isSome id k.dataType] else []) ++
      [.posted (sessionAnswer k id p.kind.request.isSome result p.cookie)]

@[simp] theorem session_setSession (d : Desks) (k : SessionKind) (s : Session) :
    (d.setSession k s).session k = s := Function.update_self ..

theorem session_setSession_of_ne {k k' : SessionKind} (hk : k' ≠ k) (d : Desks) (s : Session) :
    (d.setSession k s).session k' = d.session k' := Function.update_of_ne hk ..

@[simp] theorem setSession_setSession (d : Desks) (k : SessionKind) (s s' : Session) :
    (d.setSession k s).setSession k s' = d.setSession k s' :=
  congrArg (fun g => { d with session := g }) (Function.update_idem ..)

@[simp] theorem setSession_eq_self (d : Desks) (k : SessionKind) :
    d.setSession k (d.session k) = d :=
  congrArg (fun g => { d with session := g }) (Function.update_eq_self ..)

inductive SessionRule (k : SessionKind) : Move → Desks → List Effect → Desks → Prop
  | entered {d : Desks} {id : InstanceId} {c : Call} {request : Option SessionRequest}
      {cookie : Cookie} (hc : c.session? id = some (k, request, cookie))
      (hfree : (d.session k).slot = none)
      (htarget : SessionSetting.aggregate ((d.session k).others id ++ request.toList) =
        (d.session k).confirmed) :
      SessionRule k (.called id c) d
        [.subscription request.isSome id k.dataType,
          .posted (sessionAnswer k id request.isSome .none cookie)]
        (d.setSession k ((d.session k).enter id request))
  | refused {d : Desks} {id : InstanceId} {c : Call} {request : Option SessionRequest}
      {cookie : Cookie} {target : SessionSetting} (hc : c.session? id = some (k, request, cookie)) :
      SessionRule k (.called id c) d [.asked (k.request target) false] d
  | awaited {d : Desks} {id : InstanceId} {c : Call} {request : Option SessionRequest}
      {cookie : Cookie} {p : Pending SessionChange}
      (hc : c.session? id = some (k, request, cookie)) (hfree : (d.session k).slot = none)
      (htarget : p.kind =
        ⟨request, SessionSetting.aggregate ((d.session k).others id ++ request.toList)⟩)
      (hne : p.kind.target ≠ (d.session k).confirmed) (hp : p.requester = some id)
      (hcookie : p.cookie = cookie) :
      SessionRule k (.called id c) d [.asked (k.request p.kind.target) true]
        (d.setSession k { d.session k with slot := some p })
  | settled {d d' : Desks} {p : Pending SessionChange} {enabled : Bool} {raw : Nat}
      {code : ErrorCode} {fx : List Effect} (hs : (d.session k).slot = some p)
      (hcode : code = Hub.sessionResult (Histogram.reading raw) enabled p.kind.target)
      (hr : SessionRealigned k (d.setSession k ((d.session k).settle p code)) fx d') :
      SessionRule k (.reported (.gnss (k.status enabled raw))) d
        (sessionOutcome k p code ++ fx) d'
  | timedOut {d : Desks} {p : Pending SessionChange} (hs : (d.session k).slot = some p) :
      SessionRule k (.expired p.timer k.purpose) d
        (p.answered fun id =>
          [.posted (sessionAnswer k id p.kind.request.isSome .timeout p.cookie)])
        (d.setSession k { d.session k with slot := none })
  | shared {d : Desks} {r : Report} {payload : Payload}
      (hr : ∀ desk : Desk, desk.isReported r = false) :
      SessionRule k (.reported r) d [.posted (.toAll k.dataType payload)] d

/-! ## All desks -/

/-- The rules of all desks. -/
inductive DeskRule : Move → Desks → List Effect → Desks → Prop
  | idle {m : Move} {d : Desks} (hm : d.Idles m) : DeskRule m d [] d
  | subscribed {d : Desks} {id : InstanceId} {type : EventType} :
      DeskRule (.called id (.subscribe type)) d [.subscribed id type] d
  | unsubscribed {d : Desks} {id : InstanceId} {type : EventType} :
      DeskRule (.called id (.unsubscribe type)) d [.unsubscribed id type] d
  | monitor {m : Move} {d d' : Desks} {fx : List Effect} (h : MonitorRule m d fx d') :
      DeskRule m d fx d'
  | scan {m : Move} {d d' : Desks} {fx : List Effect} (h : ScanRule m d fx d') : DeskRule m d fx d'
  | ranging {m : Move} {d d' : Desks} {fx : List Effect} (h : RangingRule m d fx d') :
      DeskRule m d fx d'
  | cell {m : Move} {d d' : Desks} {fx : List Effect} (h : CellRule m d fx d') : DeskRule m d fx d'
  | session {m : Move} {d d' : Desks} {fx : List Effect} (k : SessionKind)
      (h : SessionRule k m d fx d') : DeskRule m d fx d'

/-! ## Leaving -/

def forgetMonitor (d : Desks) (id : InstanceId) : Desks :=
  { d with
    monitors := d.monitors.filter (· != id)
    monitor := d.monitor.map fun p =>
      if p.requester = some id then { p with requester := none } else p }

def forgetWifi (d : Desks) (id : InstanceId) : Desks :=
  { d.forgetMonitor id with scan := d.scan.without id, ranging := d.ranging.without id }

def forgetCell (d : Desks) (id : InstanceId) : Desks := { d with cell := d.cell.without id }

def forgetSession (d : Desks) (k : SessionKind) (id : InstanceId) : Desks :=
  d.setSession k ((d.session k).forget id)

/-- A nanoapp's part at the desks is given up, and what it shared goes on for the others. -/
inductive Leaves (id : InstanceId) (d : Desks) : List Effect → Desks → Prop
  | intro {d₁ d₂ d' : Desks} {fx₁ fx₂ fx₃ : List Effect}
      (hw : MonitorRealigned (d.forgetWifi id) fx₁ d₁)
      (hl : SessionRealigned .location ((d₁.forgetCell id).forgetSession .location id) fx₂ d₂)
      (hm : SessionRealigned .measurement (d₂.forgetSession .measurement id) fx₃ d') :
      Leaves id d (fx₁ ++ (fx₂ ++ fx₃)) d'

/-! ### What is left -/

variable {d d' : Desks} {fx : List Effect} {id : InstanceId}

/-- Realigning fills at most a slot, and on the hub's own account. -/
theorem MonitorRealigned.frame (hr : MonitorRealigned d fx d') :
    (∃ s, d' = { d with monitor := s } ∧
      (s = d.monitor ∨ d.monitor = none ∧ ∃ p, s = some p ∧ p.requester = none)) ∧
    ∀ x ∈ fx, ∃ q accepted, x = .asked q accepted := by
  cases hr with
  | kept => exact ⟨⟨_, rfl, .inl rfl⟩, by simp⟩
  | refused => exact ⟨⟨_, rfl, .inl rfl⟩, by simp⟩
  | awaited hfree _ _ hp => exact ⟨⟨_, rfl, .inr ⟨hfree, _, rfl, hp⟩⟩, by simp⟩

theorem SessionRealigned.frame {k : SessionKind} (hr : SessionRealigned k d fx d') :
    (∃ s, d' = d.setSession k { d.session k with slot := s } ∧
      (s = (d.session k).slot ∨
        (d.session k).slot = none ∧ ∃ p, s = some p ∧ p.requester = none)) ∧
    ∀ x ∈ fx, ∃ q accepted, x = .asked q accepted := by
  cases hr with
  | kept => exact ⟨⟨_, (setSession_eq_self _ _).symm, .inl rfl⟩, by simp⟩
  | refused => exact ⟨⟨_, (setSession_eq_self _ _).symm, .inl rfl⟩, by simp⟩
  | awaited hfree _ _ hp => exact ⟨⟨_, rfl, .inr ⟨hfree, _, rfl, hp⟩⟩, by simp⟩

/-- What a nanoapp that has left had in flight is given up or goes on without it. -/
structure Forgotten (id : InstanceId) (d d' : Desks) : Prop where
  monitor : d'.monitor = (d.forgetMonitor id).monitor ∨
    (d.forgetMonitor id).monitor = none ∧ ∃ p, d'.monitor = some p ∧ p.requester = none
  scan : d'.scan = d.scan.without id
  ranging : d'.ranging = d.ranging.without id
  cell : d'.cell = d.cell.without id
  session : ∀ k, (d'.session k).slot = ((d.session k).forget id).slot ∨
    ((d.session k).forget id).slot = none ∧ ∃ p, (d'.session k).slot = some p ∧ p.requester = none

theorem Leaves.forgotten (hl : Leaves id d fx d') :
    Forgotten id d d' ∧ ∀ x ∈ fx, ∃ q accepted, x = .asked q accepted := by
  obtain ⟨hw, hloc, hmeas⟩ := hl
  obtain ⟨⟨s₁, rfl, hs₁⟩, hfx₁⟩ := hw.frame
  obtain ⟨⟨s₂, rfl, hs₂⟩, hfx₂⟩ := hloc.frame
  obtain ⟨⟨s₃, rfl, hs₃⟩, hfx₃⟩ := hmeas.frame
  refine ⟨⟨hs₁, rfl, rfl, rfl, fun k => ?_⟩, ?_⟩
  · cases k with
    | location => exact hs₂
    | measurement => exact hs₃
  · exact List.forall_mem_append.2 ⟨hfx₁, List.forall_mem_append.2 ⟨hfx₂, hfx₃⟩⟩

end Desks

end ContextHub
