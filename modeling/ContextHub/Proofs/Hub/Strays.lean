import ContextHub.Proofs.Hub.Itinerary
import ContextHub.Proofs.Hub.Tracking
/-!
# Strays

A report may come when nobody waits for it any more: after a timeout, after an unloading, or because
a radio reports what it was not asked for. A timer of the system may expire when its request has
been answered already, and another one has taken the slot. `isStray` tells such callbacks from those
that the hub expects. Each manager looks before it touches anything, so a stray is one line in the
log (`stray_changes_nothing`), and any number of them are passed over (`runSome_strays`).
-/

namespace ContextHub.Hub

variable {A R : Type}

/-- Whether nobody waits for what a callback brings: the slot is empty, the request is in another
phase, the data was not asked for, or the timer is not the one that the request in the slot awaits.
A tick and an unloading are never strays. -/
def isStray (h : Hub A R) : Callback → Bool
  | .timerTick => false
  | .timerExpired handle purpose => h.core.awaited purpose != some handle
  | .report (.wifi (.monitorStatus _ _)) => h.wifi.monitorSlot.isNone
  | .report (.wifi (.scanResponse _ _)) =>
    !h.wifi.scanSlot.any fun p => p.kind.phase == .awaitingResponse
  | .report (.wifi (.scan _)) =>
    !(h.wifi.scanSlot.any fun p => p.kind.phase == .awaitingResults) && !h.wifi.monitorEnabled
  | .report (.wifi (.ranging _ _)) => h.wifi.rangingSlot.isNone
  | .report (.wwan _) => h.wwan.cellSlot.isNone
  | .report (.gnss (.locationStatus _ _)) => h.gnss.location.slot.isNone
  | .report (.gnss (.location _)) => !h.gnss.location.confirmed.enabled
  | .report (.gnss (.measurementStatus _ _)) => h.gnss.measurement.slot.isNone
  | .report (.gnss (.data _)) => !h.gnss.measurement.confirmed.enabled
  | .unload _ => false

/-- What is left of a callback that was passed over: it is counted, and there are two lines about it
in the log. -/
def passOver (h : Hub A R) (c : Callback) (line : LogLine) : Hub A R :=
  { h with
    stats := { h.stats with deferred := h.stats.deferred + 1 }
    metrics := h.metrics.map fun m => (m.addDeferred 1).observeLatency 0
    log := line :: ⟨.trace, "Running system callback", [("callback_type", c.kind)]⟩ :: h.log }

/-- From `h` the step does nothing but log one line. -/
def OnlyLogs (m : HubM A R Unit) (h : Hub A R) : Prop :=
  ∃ line, m h = .ok () { h with log := line :: h.log }

theorem bind_eq_of_ok {α β : Type} {m : HubM A R α} {f : α → HubM A R β} {h h' : Hub A R} {a : α}
    (hm : m h = .ok a h') : (m >>= f) h = f a h' := by
  change EStateM.bind m f h = _
  rw [EStateM.bind, hm]

section

variable {h : Hub A R}

theorem onlyLogs_emit (level : Level) (message : String) (fields : List (String × String)) :
    OnlyLogs (emit level message fields) h := ⟨_, rfl⟩

theorem onlyLogs_get_bind {f : Hub A R → HubM A R Unit} (hf : OnlyLogs (f h) h) :
    OnlyLogs (get >>= f) h := hf

theorem onlyLogs_getSession_bind {k : SessionKind} {f : Session → HubM A R Unit}
    (hf : OnlyLogs (f (h.gnss.session k)) h) : OnlyLogs (getSession k >>= f) h := hf

end

/-! ## Expired timers -/

section

variable {h : Hub A R} {handle : TimerHandle}

theorem handleScanTimeout_stray (hs : h.core.awaited .wifiScanTimeout ≠ some handle) :
    OnlyLogs (handleScanTimeout handle) h := by
  have hno : Slot.isTimedBy h.wifi.scanSlot handle = false := by
    cases hslot : h.wifi.scanSlot with
    | none => rfl
    | some p =>
      simp only [Core.awaited, core, hslot, Option.map_some, ne_eq, Option.some.injEq] at hs
      exact beq_false_of_ne hs
  unfold handleScanTimeout
  refine onlyLogs_get_bind ?_
  simp only [hno, Bool.false_eq_true, ↓reduceIte]
  exact onlyLogs_emit _ _ _

theorem handleRangingTimeout_stray (hs : h.core.awaited .wifiRangingTimeout ≠ some handle) :
    OnlyLogs (handleRangingTimeout handle) h := by
  unfold handleRangingTimeout
  refine onlyLogs_get_bind ?_
  cases hslot : h.wifi.rangingSlot with
  | none => exact onlyLogs_emit _ _ _
  | some p =>
    simp only [Core.awaited, core, hslot, Option.map_some, ne_eq, Option.some.injEq] at hs
    simp only [hs, ↓reduceIte]
    exact onlyLogs_emit _ _ _

theorem handleCellTimeout_stray (hs : h.core.awaited .wwanCellInfoTimeout ≠ some handle) :
    OnlyLogs (handleCellTimeout handle) h := by
  unfold handleCellTimeout
  refine onlyLogs_get_bind ?_
  cases hslot : h.wwan.cellSlot with
  | none => exact onlyLogs_emit _ _ _
  | some p =>
    simp only [Core.awaited, core, hslot, Option.map_some, ne_eq, Option.some.injEq] at hs
    simp only [hs, ↓reduceIte]
    exact onlyLogs_emit _ _ _

/-- What a session's timer is for, as its slot has it. -/
theorem awaited_purpose (k : SessionKind) :
    h.core.awaited k.purpose = (h.gnss.session k).slot.map (·.timer) := by
  cases k <;> rfl

theorem handleSessionTimeout_stray (k : SessionKind) (hs : h.core.awaited k.purpose ≠ some handle) :
    OnlyLogs (handleSessionTimeout k handle) h := by
  rw [awaited_purpose] at hs
  unfold handleSessionTimeout
  refine onlyLogs_getSession_bind ?_
  cases hslot : (h.gnss.session k).slot with
  | none => exact onlyLogs_emit _ _ _
  | some p =>
    simp only [hslot, Option.map_some, ne_eq, Option.some.injEq] at hs
    simp only [hs, ↓reduceIte]
    exact onlyLogs_emit _ _ _

theorem handleScanRetry_stray [Radio R] (hs : h.core.awaited .wifiScanRetry ≠ some handle) :
    OnlyLogs (handleScanRetry handle) h := by
  have hno : h.wifi.scanSlot.filter (fun p =>
      p.kind.phase == .retryScheduled && p.kind.retryTimer == handle) = none := by
    rw [Option.filter_eq_none_iff]
    intro p hp hc
    rw [Bool.and_eq_true, beq_iff_eq, beq_iff_eq] at hc
    simp only [Core.awaited, core, hp, Option.bind_some, hc, ↓reduceIte, ne_eq,
      not_true_eq_false] at hs
  unfold handleScanRetry
  refine onlyLogs_get_bind ?_
  simp only [hno]
  exact onlyLogs_emit _ _ _

theorem handleSystemTimer_stray [Radio R] {purpose : TimerPurpose}
    (hs : h.core.awaited purpose ≠ some handle) :
    OnlyLogs (handleSystemTimer handle purpose) h := by
  cases purpose with
  | wifiScanRetry => exact handleScanRetry_stray hs
  | wifiScanTimeout => exact handleScanTimeout_stray hs
  | wifiRangingTimeout => exact handleRangingTimeout_stray hs
  | wwanCellInfoTimeout => exact handleCellTimeout_stray hs
  | gnssLocationTimeout => exact handleSessionTimeout_stray .location hs
  | gnssMeasurementTimeout => exact handleSessionTimeout_stray .measurement hs

end

/-! ## Reports -/

section

variable {h : Hub A R}

theorem shareSessionData_stray (k : SessionKind) (payload : Payload)
    (hs : (h.gnss.session k).confirmed.enabled = false) :
    OnlyLogs (shareSessionData k payload) h := by
  unfold shareSessionData
  refine onlyLogs_getSession_bind ?_
  simp only [hs, Bool.not_false, ↓reduceIte]
  exact onlyLogs_emit _ _ _

theorem handleScan_stray (scan : Scan)
    (hs : h.wifi.scanSlot.any (fun p => p.kind.phase == .awaitingResults) = false)
    (hm : h.wifi.monitorEnabled = false) : OnlyLogs (handleScan scan) h := by
  have hno : awaitsResults h.wifi.scanSlot = false := by
    cases hslot : h.wifi.scanSlot with
    | none => rfl
    | some p =>
      rw [hslot] at hs
      exact hs
  unfold handleScan
  refine onlyLogs_get_bind ?_
  simp only [hno, hm, Bool.false_eq_true, ↓reduceIte]
  exact onlyLogs_emit _ _ _

theorem handleScanResponse_stray (pending : Bool) (raw : Nat)
    (hs : h.wifi.scanSlot.any (fun p => p.kind.phase == .awaitingResponse) = false) :
    OnlyLogs (handleScanResponse pending raw) h := by
  have hno : h.wifi.scanSlot.filter (fun p => p.kind.phase == .awaitingResponse) = none := by
    rw [Option.filter_eq_none_iff]
    intro p hp hc
    rw [hp, Option.any_some, hc] at hs
    cases hs
  unfold handleScanResponse
  refine onlyLogs_get_bind ?_
  simp only [hno]
  exact onlyLogs_emit _ _ _

theorem handleRanging_stray (raw : Nat) (results : Option (List RangingResult))
    (hs : h.wifi.rangingSlot = none) : OnlyLogs (handleRanging raw results) h := by
  unfold handleRanging
  refine onlyLogs_get_bind ?_
  simp only [hs]
  exact onlyLogs_emit _ _ _

theorem handleCellReport_stray (r : CellReport) (hs : h.wwan.cellSlot = none) :
    OnlyLogs (handleCellReport r) h := by
  unfold handleCellReport
  refine onlyLogs_get_bind ?_
  simp only [hs]
  exact onlyLogs_emit _ _ _

variable [Radio R]

theorem handleMonitorStatus_stray (enabled : Bool) (raw : Nat) (hs : h.wifi.monitorSlot = none) :
    OnlyLogs (handleMonitorStatus enabled raw) h := by
  unfold handleMonitorStatus
  refine onlyLogs_get_bind ?_
  simp only [hs]
  exact onlyLogs_emit _ _ _

theorem handleSessionStatus_stray (k : SessionKind) (enabled : Bool) (raw : Nat)
    (hs : (h.gnss.session k).slot = none) : OnlyLogs (handleSessionStatus k enabled raw) h := by
  unfold handleSessionStatus
  refine onlyLogs_getSession_bind ?_
  simp only [hs]
  exact onlyLogs_emit _ _ _

theorem handleReport_stray {r : Report} (hs : h.isStray (.report r) = true) :
    OnlyLogs (handleReport r) h := by
  cases r with
  | wifi r =>
    cases r with
    | monitorStatus => exact handleMonitorStatus_stray _ _ (Option.isNone_iff_eq_none.1 hs)
    | scanResponse => exact handleScanResponse_stray _ _ (Bool.not_eq_true' _ ▸ hs)
    | scan scan =>
      simp only [isStray, Bool.and_eq_true, Bool.not_eq_true'] at hs
      exact handleScan_stray scan hs.1 hs.2
    | ranging => exact handleRanging_stray _ _ (Option.isNone_iff_eq_none.1 hs)
  | wwan r => exact handleCellReport_stray r (Option.isNone_iff_eq_none.1 hs)
  | gnss r =>
    cases r with
    | locationStatus =>
      exact handleSessionStatus_stray .location _ _ (Option.isNone_iff_eq_none.1 hs)
    | location => exact shareSessionData_stray .location _ (Bool.not_eq_true' _ ▸ hs)
    | measurementStatus =>
      exact handleSessionStatus_stray .measurement _ _ (Option.isNone_iff_eq_none.1 hs)
    | data => exact shareSessionData_stray .measurement _ (Bool.not_eq_true' _ ▸ hs)

end

/-! ## Tasks -/

variable [Radio R] [Behaviour A]

theorem runCallback_stray {h : Hub A R} {c : Callback} (hs : h.isStray c = true) :
    OnlyLogs (runCallback c) h := by
  cases c with
  | timerTick => cases hs
  | timerExpired handle purpose => exact handleSystemTimer_stray (bne_iff_ne.1 hs)
  | report r => exact handleReport_stray hs
  | unload => cases hs

theorem process_stray {h : Hub A R} {c : Callback} (hs : h.isStray c = true) :
    ∃ line, process (.deferred c) h = .ok () (h.passOver c line) := by
  -- the task is counted and announced before it runs, which changes nothing that makes it a stray
  let h₁ : Hub A R := { h with
    stats := { h.stats with deferred := h.stats.deferred + 1 }
    metrics := h.metrics.map (·.addDeferred 1)
    log := ⟨.trace, "Running system callback", [("callback_type", c.kind)]⟩ :: h.log }
  have hs₁ : h₁.isStray c = true := hs
  obtain ⟨line, hrun⟩ := runCallback_stray hs₁
  refine ⟨line, ?_⟩
  change (do
    runCallback c
    countMetric (·.observeLatency ((← get).now - h.now)) : HubM A R Unit) h₁ = _
  rw [bind_eq_of_ok hrun]
  change EStateM.Result.ok () ({ h₁ with
    metrics := (h.metrics.map (·.addDeferred 1)).map (·.observeLatency (h.now - h.now))
    log := line :: h₁.log } : Hub A R) = _
  rw [Nat.sub_self, Option.map_map]
  rfl

/-- A callback that nobody waits for is one line in the log. As a task it is counted besides, with a
line and a time of its own; all else in the hub is as it was. -/
theorem stray_changes_nothing {h : Hub A R} {c : Callback} (hs : h.isStray c = true) :
    (∃ line, runCallback c h = .ok () { h with log := line :: h.log }) ∧
      ∃ line, process (.deferred c) h = .ok () (h.passOver c line) :=
  ⟨runCallback_stray hs, process_stray hs⟩

/-- The timeout of a scan long gone does nothing to the scan that is in flight. -/
theorem stale_timeout_spares_scan : ∃ h : Hub Script Stations, Reached {} h ∧
    h.wifi.scanSlot.isSome = true ∧ h.isStray (.timerExpired ⟨7⟩ .wifiScanTimeout) = true ∧
      ∃ h', process (.deferred (.timerExpired ⟨7⟩ .wifiScanTimeout)) h = .ok () h' ∧
        h'.wifi = h.wifi ∧ h'.timers = h.timers ∧ h'.queue = h.queue := by
  obtain ⟨h, hh, hscan, hs⟩ := reached_of_ends (A := Script) {} 0 Stations.scripted none
    [.load ⟨1⟩ { wifi := true } { start := [.scan {} ⟨1⟩] }]
    (P := fun h => h.wifi.scanSlot.isSome = true ∧
      h.isStray (.timerExpired ⟨7⟩ .wifiScanTimeout) = true) (by decide +kernel)
  obtain ⟨line, hrun⟩ := (stray_changes_nothing hs).2
  exact ⟨h, hh, hscan, hs, _, hrun, rfl, rfl, rfl⟩

theorem runOnce_stray {h : Hub A R} {c : Callback} {q : Queue}
    (hq : h.queue.next? = some (.deferred c, q)) (hs : h.isStray c = true) :
    ∃ line, runOnce h = .ok true ({ h with queue := q }.passOver c line) := by
  have hs' : ({ h with queue := q } : Hub A R).isStray c = true := by cases c <;> exact hs
  obtain ⟨line, hrun⟩ := process_stray hs'
  refine ⟨line, ?_⟩
  have honce : Ends runOnce h
      (fun b h' => b = true ∧ h' = ({ h with queue := q } : Hub A R).passOver c line)
      (fun _ _ => False) := by
    unfold runOnce
    rw [ends_bind, ends_get, hq]
    refine ends_bind.2 (ends_set.2 (ends_bind.2 ?_))
    unfold Ends
    rw [hrun]
    exact ⟨rfl, rfl⟩
  obtain ⟨_, _, hr, rfl, rfl⟩ := honce.exists_ok
  exact hr

/-- However many strays come first in the queue, the loop passes over them, and the hub is as it was
but for the log and the counts. -/
theorem runSome_strays {h : Hub A R} {cs : List Callback} {rest : List Task} (done : Nat)
    (htasks : h.queue.tasks = cs.map .deferred ++ rest) (hs : ∀ c ∈ cs, h.isStray c = true) :
    ∃ h', runSome cs.length done h = .ok (done + cs.length) h' ∧ h'.queue.tasks = rest ∧
      h' = { h with
        queue := h'.queue
        stats := { h.stats with deferred := h.stats.deferred + cs.length }
        metrics := h'.metrics
        log := h'.log } := by
  induction cs generalizing h done with
  | nil => exact ⟨h, rfl, htasks, rfl⟩
  | cons c cs ih =>
    rw [List.map_cons, List.cons_append] at htasks
    obtain ⟨q, hq, hrest⟩ := next?_of_tasks htasks
    obtain ⟨line, hrun⟩ := runOnce_stray hq (hs c List.mem_cons_self)
    -- what one stray leaves makes no difference to whether the others are strays
    have hs₁ : ∀ c' ∈ cs,
        (({ h with queue := q } : Hub A R).passOver c line).isStray c' = true := by
      intro c' hc'
      have := hs c' (List.mem_cons_of_mem c hc')
      cases c' <;> exact this
    obtain ⟨h', hsome, htasks', he⟩ := ih (done + 1) hrest hs₁
    refine ⟨h', ?_, htasks', ?_⟩
    · rw [List.length_cons, runSome, bind_eq_of_ok hrun, if_pos rfl, hsome]
      congr 1
      omega
    · refine he.trans ?_
      rw [List.length_cons, Nat.add_comm cs.length 1, ← Nat.add_assoc]
      rfl

end ContextHub.Hub
