import ContextHub.Proofs.Hub.Settling
/-!
# That every request settles

The operations of the request managers one by one: admitting a request, its response, its timeout,
and the unloading of its requester.
-/

namespace ContextHub.Hub

open TimerPool ContextHub.Hub.Core

variable {A R : Type}

/-- The scan slot with another job in it. -/
theorem core_setJob {h : Hub A R} {p : Pending ScanJob} (hs : h.core.scan = some p)
    {job : ScanJob} :
    core { h with wifi := { h.wifi with scanSlot := Slot.setKind h.wifi.scanSlot job } } =
      { h.core with scan := some { p with kind := job } } := by
  rw [show h.wifi.scanSlot = some p from hs]
  rfl

/-- Emptying the scan slot cancels the timers of the scan. -/
theorem vacateScan_ends (h : Hub A R) (hp : h.timers.Coherent) :
    Ends vacateScan h
      (fun o h' => match o with
        | none => h.wifi.scanSlot = none ∧ h'.core = h.core
        | some p => h.wifi.scanSlot = some p ∧ ∃ q, Sheds h.timers (ofScan p) q ∧
            h'.core = { h.core with timers := q, scan := none })
      (fun _ _ => False) := by
  unfold vacateScan
  rw [ends_bind, ends_get]
  split
  · rename_i hs
    exact ⟨hs, rfl⟩
  · rename_i p hs
    refine ends_bind.2 (ends_modify.2 ?_)
    refine (cancelSystemTimer_ends p.timer _ (by exact hp)).bind fun _ h₁ hc₁ => ?_
    obtain ⟨q₁, hq₁, hc₁⟩ := hc₁
    have ht₁ : h₁.timers = q₁ := congrArg Core.timers hc₁
    rw [ends_ite]
    split
    · rename_i hv
      refine (cancelSystemTimer_ends _ h₁ (ht₁ ▸ hq₁.coherent)).bind fun _ h₂ hc₂ => ?_
      obtain ⟨q₂, hq₂, hc₂⟩ := hc₂
      rw [ht₁] at hq₂
      refine ⟨hs, q₂, (hq₁.trans hq₂).congr fun r _ => ?_, ?_⟩
      · rw [ofScan, hv, Bool.true_and, Bool.and_or_distrib_left]
      · rw [hc₂, hc₁]
        rfl
    · rename_i hv
      refine ⟨hs, q₁, hq₁.congr fun r _ => ?_, hc₁⟩
      rw [ofScan, Bool.eq_false_iff.2 hv, Bool.false_and, Bool.or_false]

theorem core_session (h : Hub A R) (k : SessionKind) :
    h.core.session k = (h.gnss.session k).slot := by
  cases k <;> rfl

theorem core_modifySession (h : Hub A R) (k : SessionKind) (f : Session → Session) :
    core { h with gnss := h.gnss.modifySession k f } =
      h.core.withSession k (f (h.gnss.session k)).slot := by
  cases k <;> rfl

theorem getSession_ends {h : Hub A R} {k : SessionKind} {Q : Session → Hub A R → Prop}
    {E : Halt → Hub A R → Prop} : Ends (getSession k) h Q E ↔ Q (h.gnss.session k) h := Iff.rfl

variable [Radio R]

/-! ## Scans on demand -/

/-- A scan that is admitted awaits its timeout. -/
theorem requestScan_settles (id : InstanceId) (params : ScanParams) (cookie : Cookie) :
    Settles (requestScan id params cookie : HubM A R (Except RequestError Unit)) := by
  unfold requestScan
  refine .quiet_bind wifiCapabilities_quiet fun _ => .ite (fun _ => .pure _) fun _ => ?_
  intro n h hg
  rw [ends_bind, ends_get, ends_ite]
  split
  · exact Settles.quiet_bind (emit_quiet _ _ _) (fun _ => .pure _) n h hg
  rename_i hfree
  have hnone : h.core.scan = none := Option.not_isSome_iff_eq_none.1 hfree
  rw [ends_ite]
  split
  · exact hg.settled
  refine .quietly (requestRadio_quiet _) fun accepted h₁ hc₁ => ?_
  rw [ends_ite]
  split
  · exact Settles.pure _ n h₁ (hc₁ ▸ hg)
  rw [← hc₁] at hnone
  have hg₁ : h₁.core.Good n := hc₁ ▸ hg
  rw [ends_bind, ends_get]
  refine occupy_ends hg₁ rfl _ (by rw [awaited, hnone]; rfl) fun x h₂ q hc₂ hfill => ?_
  have hnone₂ : h₂.wifi.scanSlot = none := (congrArg Core.scan hc₂).trans hnone
  rw [ends_bind, ends_get, hnone₂, ends_bind, occupied_none]
  have hcore (p : Pending ScanJob) : core { h₂ with wifi := { h₂.wifi with scanSlot := some p } } =
      { h₁.core with timers := q, scan := some p } :=
    congrArg (fun c : Core => { c with scan := some p }) hc₂
  refine ends_bind.2 (ends_modify.2 (ends_pure.2 ?_))
  rw [hcore]
  refine ⟨hfill _ rfl rfl fun u => ?_, ?_⟩
  · cases u <;> simp [awaited, hnone]
  · rintro p hs -
    cases hs
    rfl

theorem vacateScan_keeps : Keeps (vacateScan : HubM A R (Option (Pending ScanJob))) := by
  intro n h hg
  refine (vacateScan_ends h hg.coherent).mono (fun o h' ho => ?_) fun _ _ => False.elim
  cases o with
  | none => exact ho.2 ▸ hg
  | some p =>
    obtain ⟨hs, q, hq, hc⟩ := ho
    rw [hc]
    refine ⟨hq.coherent, hq.kept.handlesLeft.2 hg.handlesLeft, hq.kept.limits ▸ hg.system, ?_⟩
    exact ⟨hg.settled.vacateScan hg.coherent hs (hg.settled.idle p hs) hq, by simp⟩

/-- Once the slot is empty, what is left to do is quiet. -/
theorem answerScan_settles (requester : Option InstanceId) (code : ErrorCode) (cookie : Cookie) :
    Settles (answerRequester requester WifiKind.scan code cookie : HubM A R Unit) := by
  unfold answerRequester
  split
  · exact .pure _
  · intro n h hg
    refine (answerScan_ends _ code cookie h).mono (fun _ h' hc => ?_) fun _ _ he _ => he.2
    rw [hc]
    exact ⟨hg.settled.same rfl rfl fun u => by cases u <;> rfl, hg.settled.idle⟩

/-- A scan fails: it is enough that the hub is settled once the slot is empty. -/
theorem failScan_ends {n : Nat} {h : Hub A R} {p : Pending ScanJob} (code : ErrorCode)
    (hp : h.timers.Coherent) (hl : h.timers.HandlesLeft) (hn : h.timers.limits.system = n)
    (hs : h.core.scan = some p)
    (hnext : ∀ q, Sheds h.timers (ofScan p) q →
      Settled { h.core with timers := q, scan := none }) :
    Ends (failScan code) h (fun _ h' => h'.core.Settled) (fun e _ => 6 ≤ n → Mild R e) := by
  refine ends_bind.2 ((vacateScan_ends h hp).mono (fun o h₁ ho => ?_) fun _ _ => False.elim)
  cases o with
  | none =>
    rw [show h.core.scan = none from ho.1] at hs
    cases hs
  | some p' =>
    obtain ⟨hs', q, hq, hc⟩ := ho
    obtain rfl : p' = p := Option.some.inj (hs'.symm.trans hs)
    have hg : h₁.core.Good n := by
      rw [hc]
      exact ⟨hq.coherent, hq.kept.handlesLeft.2 hl, hq.kept.limits ▸ hn, hnext q hq⟩
    exact Settles.quiet_bind (countRadioError_quiet _) (fun _ => answerScan_settles _ _ _) n h₁ hg

theorem handleScanResponse_settles (pending : Bool) (raw : Nat) :
    Settles (handleScanResponse pending raw : HubM A R Unit) := by
  intro n h hg
  unfold handleScanResponse
  rw [ends_bind, ends_get]
  dsimp only
  split
  · exact Settles.of_quiet (emit_quiet _ _ _) n h hg
  · rename_i p hs
    obtain ⟨hs, hph⟩ := Option.filter_eq_some_iff.1 hs
    have hph : p.kind.phase = .awaitingResponse := eq_of_beq hph
    refine .quietly (checkCode_quiet _) fun _ h₁ hc₁ => ?_
    have hcount (w : WifiState) : Obeys quiet (modifyWifi fun w => { w with
        scanErrors := w.scanErrors.record raw } : HubM A R Unit) :=
      modifyWifi_quiet (fun _ => rfl) fun _ => rfl
    refine .quietly (hcount h.wifi) fun _ h₂ hc₂ => ?_
    have hg₂ : h₂.core.Good n := hc₂.trans hc₁ ▸ hg
    have hs₂ : h₂.core.scan = some p := by rw [hc₂, hc₁]; exact hs
    have hidle : p.kind.retryTimer = .invalid :=
      hg₂.settled.idle p hs₂ (by rw [hph]; decide)
    rw [ends_ite]
    split
    · refine ends_bind.2 (ends_modify.2 (answerScan_settles _ _ _ n _ ?_))
      rw [core_setJob hs₂]
      refine ⟨hg₂.coherent, hg₂.handlesLeft, hg₂.system, hg₂.settled.same rfl rfl fun u => ?_, ?_⟩
      · cases u <;> simp [awaited, hs₂, hph]
      · rintro p' hs' -
        cases hs'
        exact hidle
    · rw [ends_ite]
      split
      · have hnone : h₂.core.awaited .wifiScanRetry = none := by simp [awaited, hs₂, hph]
        refine ends_bind.2 (ends_modify.2 ?_)
        refine occupy_ends hg₂ (by exact rfl) _ hnone fun x h₃ q hc₃ hfill => ?_
        rw [core_setJob hs₂] at hc₃
        have hs₃ := congrArg Core.scan hc₃
        refine ends_bind.2 (ends_modify.2 ?_)
        refine (emit_quiet _ _ _ _).mono (fun _ h₄ hc₄ => ?_) fun _ _ he _ => he.2
        rw [hc₄, core_setJob hs₃, hc₃]
        refine ⟨hfill _ rfl rfl fun u => ?_, ?_⟩
        · cases u <;> simp [awaited, hs₂]
        · rintro p' hs' hph'
          cases hs'
          exact absurd rfl hph'
      · refine failScan_ends _ hg₂.coherent hg₂.handlesLeft hg₂.system hs₂ fun q hq => ?_
        exact ⟨hg₂.settled.vacateScan hg₂.coherent hs₂ (fun _ => hidle) hq, by simp⟩

theorem handleScan_settles (scan : Scan) : Settles (handleScan scan : HubM A R Unit) := by
  unfold handleScan
  refine .get_bind fun h => .ite (fun _ => ?_) fun _ => .of_quiet ?_
  · exact .after vacateScan_keeps fun _ => .of_quiet (quiet_tells.shareScan_obeys _ _)
  · exact .ite (fun _ => quiet_tells.shareScan_obeys _ _) fun _ => emit_quiet _ _ _

/-- The expiry of a retry timer: it is stale, or the scan is tried again, or it fails. -/
theorem handleScanRetry_settles {n : Nat} {x : TimerHandle} {h : Hub A R}
    (hg : h.core.Serving n (x, .wifiScanRetry)) :
    Ends (handleScanRetry x) h (fun _ h' => h'.core.Settled) (fun e _ => 6 ≤ n → Mild R e) := by
  unfold handleScanRetry
  rw [ends_bind, ends_get]
  dsimp only
  split
  · rename_i hs
    refine Settles.of_quiet (emit_quiet _ _ _) n h (hg.stale ?_)
    intro hx
    obtain ⟨p, hp, hx⟩ := Option.bind_eq_some_iff.1 hx
    split at hx
    · rename_i hph
      have := Option.filter_eq_none_iff.1 hs p hp
      simp only [hph, Option.some.inj hx, beq_self_eq_true, Bool.and_self,
        not_true_eq_false] at this
    · cases hx
  · rename_i p hf
    obtain ⟨hs, hcur⟩ := Option.filter_eq_some_iff.1 hf
    rw [Bool.and_eq_true, beq_iff_eq, beq_iff_eq] at hcur
    obtain ⟨hph, hx⟩ := hcur
    subst hx
    let p₁ := unscheduled p .awaitingResponse .invalid
    have h₁ : Tracked [] [] { h.core with scan := some p₁ } := by
      have hu := hg.tracked.unschedule hg.coherent hs hph .awaitingResponse (by decide) .invalid
      refine (hu.dealt ?_).tight fun r hr _ => ?_
      · simp [awaited, unscheduled]
      · exact (hg.tracked.spent _ List.mem_cons_self).2 r hr
    refine ends_bind.2 (ends_modify.2 (.quietly (requestRadio_quiet _) fun accepted h₂ hc₂ => ?_))
    rw [core_setJob hs] at hc₂
    have hs₂ := congrArg Core.scan hc₂
    rw [ends_ite]
    split
    · refine ends_modify.2 ?_
      rw [core_setJob hs₂, hc₂]
      exact ⟨h₁, by rintro p hs -; cases hs; rfl⟩
    · have ht₂ : h₂.timers = h.timers := congrArg Core.timers hc₂
      refine failScan_ends _ (ht₂ ▸ hg.coherent) (ht₂ ▸ hg.handlesLeft) (ht₂ ▸ hg.system) hs₂ ?_
      intro q hq
      rw [ht₂] at hq
      rw [hc₂]
      exact ⟨h₁.vacateScan hg.coherent rfl (fun _ => rfl) hq, by simp⟩

/-- The expiry of a scan's timeout: it is stale, or the scan fails. -/
theorem handleScanTimeout_settles {n : Nat} {x : TimerHandle} {h : Hub A R}
    (hg : h.core.Serving n (x, .wifiScanTimeout)) :
    Ends (handleScanTimeout x) h (fun _ h' => h'.core.Settled) (fun e _ => 6 ≤ n → Mild R e) := by
  unfold handleScanTimeout
  rw [ends_bind, ends_get, ends_ite]
  split
  · rename_i ht
    obtain ⟨p, hs, hx⟩ : ∃ p, h.core.scan = some p ∧ p.timer = x := by
      unfold Slot.isTimedBy at ht
      split at ht
      · cases ht
      · rename_i p hs
        exact ⟨p, hs, eq_of_beq ht⟩
    refine .quietly (emit_quiet _ _ _) fun _ h₁ hc₁ => ?_
    refine .quietly (modifyWifi_quiet (fun _ => rfl) fun _ => rfl) fun _ h₂ hc₂ => ?_
    rw [hc₁] at hc₂
    have ht₂ : h₂.timers = h.timers := congrArg Core.timers hc₂
    refine failScan_ends _ (ht₂ ▸ hg.coherent) (ht₂ ▸ hg.handlesLeft) (ht₂ ▸ hg.system)
      (hc₂ ▸ hs) fun q hq => ?_
    rw [ht₂] at hq
    rw [hc₂]
    have hv := hg.tracked.vacateScan hg.coherent hs (hg.idle p hs) hq
    exact ⟨hv.dealt (by simp [awaited]), by simp⟩
  · rename_i ht
    refine Settles.of_quiet (emit_quiet _ _ _) n h (hg.stale ?_)
    intro hx
    obtain ⟨p, hs, hx⟩ := Option.map_eq_some_iff.1 hx
    refine ht ?_
    rw [show h.wifi.scanSlot = some p from hs, Slot.isTimedBy, hx, beq_self_eq_true]

/-! ## Ranging -/

theorem requestRanging_settles (id : InstanceId) (targets : List Bssid) (cookie : Cookie) :
    Settles (requestRanging id targets cookie : HubM A R (Except RequestError Unit)) := by
  unfold requestRanging
  refine .quiet_bind wifiCapabilities_quiet fun _ => .ite (fun _ => .pure _) fun _ => ?_
  intro n h hg
  rw [ends_bind, ends_get, ends_ite]
  split
  · exact hg.settled
  rename_i hfree
  have hnone : h.core.ranging = none := Option.not_isSome_iff_eq_none.1 hfree
  rw [ends_ite]
  split
  · exact hg.settled
  refine .quietly (requestRadio_quiet _) fun accepted h₁ hc₁ => ?_
  rw [ends_ite]
  split
  · exact Settles.pure _ n h₁ (hc₁ ▸ hg)
  rw [← hc₁] at hnone
  have hg₁ : h₁.core.Good n := hc₁ ▸ hg
  rw [ends_bind, ends_get]
  refine occupy_ends hg₁ rfl _ (by rw [awaited, hnone]; rfl) fun x h₂ q hc₂ hfill => ?_
  have hnone₂ : h₂.wifi.rangingSlot = none := (congrArg Core.ranging hc₂).trans hnone
  rw [ends_bind, ends_get, hnone₂, ends_bind, occupied_none]
  have hcore (p : Pending Unit) : core { h₂ with wifi := { h₂.wifi with rangingSlot := some p } } =
      { h₁.core with timers := q, ranging := some p } :=
    congrArg (fun c : Core => { c with ranging := some p }) hc₂
  refine ends_bind.2 (ends_modify.2 (ends_pure.2 ?_))
  rw [hcore]
  refine ⟨hfill _ rfl rfl fun u => ?_, hg₁.settled.idle⟩
  cases u <;> simp [awaited]

theorem handleRanging_settles (raw : Nat) (results : Option (List RangingResult)) :
    Settles (handleRanging raw results : HubM A R Unit) := by
  intro n h hg
  unfold handleRanging
  rw [ends_bind, ends_get]
  split
  · exact Settles.of_quiet (emit_quiet _ _ _) n h hg
  · rename_i p hs
    have hx : h.core.awaited .wifiRangingTimeout = some p.timer := congrArg (Option.map _) hs
    refine ends_bind.2 (ends_modify.2 ?_)
    refine .quietly (checkCode_quiet _) fun _ h₁ hc₁ => ?_
    refine .quietly (modifyWifi_quiet (fun _ => rfl) fun _ => rfl) fun _ h₂ hc₂ => ?_
    rw [hc₁] at hc₂
    refine (abandon_ends hg hx (congrArg Core.timers hc₂) ?_ ?_ fun u => ?_).bind ?_
    · rw [hc₂]; rfl
    · rw [hc₂]; rfl
    · rw [hc₂]; cases u <;> rfl
    · exact fun _ h₃ hg₃ => Settles.of_quiet (quiet_tells.passRanging_obeys raw results p) n h₃ hg₃

theorem handleRangingTimeout_settles {n : Nat} {x : TimerHandle} {h : Hub A R}
    (hg : h.core.Serving n (x, .wifiRangingTimeout)) :
    Ends (handleRangingTimeout x) h (fun _ h' => h'.core.Settled)
      (fun e _ => 6 ≤ n → Mild R e) := by
  unfold handleRangingTimeout
  rw [ends_bind, ends_get]
  split
  · rename_i hs
    refine Settles.of_quiet (emit_quiet _ _ _) n h (hg.stale ?_)
    simp [awaited, show h.core.ranging = none from hs]
  · rename_i p hs
    have hs : h.core.ranging = some p := hs
    rw [ends_ite]
    split
    · rename_i hx
      refine ends_bind.2 (ends_modify.2 ?_)
      refine .quietly (emit_quiet _ _ _) fun _ h₁ hc₁ => ?_
      refine .quietly (modifyWifi_quiet (fun _ => rfl) fun _ => rfl) fun _ h₂ hc₂ => ?_
      refine Settles.of_quiet (quiet_tells.answerRequester_obeys _ (by decide) _ _) n h₂ ?_
      rw [hc₂, hc₁]
      refine hg.expire (by simp [awaited, hs, hx]) rfl rfl rfl fun u => ?_
      cases u <;> rfl
    · rename_i hx
      refine Settles.of_quiet (emit_quiet _ _ _) n h (hg.stale ?_)
      simpa [awaited, hs] using hx

theorem forgetRanging_settles (id : InstanceId) :
    Settles (forgetRanging id : HubM A R Unit) := by
  unfold forgetRanging
  refine .get_bind fun _ => .ite (fun _ => ?_) fun _ =>
    .of_quiet quiet_watches.reconcileMonitor_obeys
  intro n h hg
  rw [ends_bind, ends_get]
  split
  · exact Settles.of_quiet quiet_watches.reconcileMonitor_obeys n h hg
  · rename_i p hs
    have hx : h.core.awaited .wifiRangingTimeout = some p.timer := congrArg (Option.map _) hs
    refine ends_bind.2 (ends_modify.2 ?_)
    refine (abandon_ends hg hx (by exact rfl) (by exact rfl) (by exact rfl) fun u => ?_).bind
      fun _ h₁ hg₁ => ?_
    · cases u <;> rfl
    · exact Settles.of_quiet quiet_watches.reconcileMonitor_obeys n h₁ hg₁

theorem forgetWifi_settles (id : InstanceId) : Settles (forgetWifi id : HubM A R Unit) := by
  have hranging : Settles (forgetRanging id : HubM A R Unit) := forgetRanging_settles id
  unfold forgetWifi
  refine .quiet_bind (modifyWifi_quiet (fun _ => rfl) fun _ => rfl) fun _ => ?_
  refine .get_bind fun _ => .ite (fun _ => .after vacateScan_keeps fun _ => ?_) fun _ => hranging
  exact .quiet_bind (emit_quiet _ _ _) fun _ => hranging

/-! ## Cells -/

theorem requestCellInfo_settles (id : InstanceId) (cookie : Cookie) :
    Settles (requestCellInfo id cookie : HubM A R (Except RequestError Unit)) := by
  unfold requestCellInfo
  refine .quiet_bind wwanCapabilities_quiet fun _ => .ite (fun _ => .pure _) fun _ => ?_
  intro n h hg
  rw [ends_bind, ends_get, ends_ite]
  split
  · exact Settles.quiet_bind (emit_quiet _ _ _) (fun _ => .pure _) n h hg
  rename_i hfree
  have hnone : h.core.cell = none := Option.not_isSome_iff_eq_none.1 hfree
  refine .quietly (requestRadio_quiet _) fun accepted h₁ hc₁ => ?_
  rw [ends_ite]
  split
  · exact Settles.pure _ n h₁ (hc₁ ▸ hg)
  rw [← hc₁] at hnone
  have hg₁ : h₁.core.Good n := hc₁ ▸ hg
  rw [ends_bind, ends_get]
  refine occupy_ends hg₁ rfl _ (by rw [awaited, hnone]; rfl) fun x h₂ q hc₂ hfill => ?_
  have hnone₂ : h₂.wwan.cellSlot = none := (congrArg Core.cell hc₂).trans hnone
  rw [ends_bind, ends_get, hnone₂, ends_bind, occupied_none]
  have hcore (p : Pending Unit) : core { h₂ with wwan := { h₂.wwan with cellSlot := some p } } =
      { h₁.core with timers := q, cell := some p } :=
    congrArg (fun c : Core => { c with cell := some p }) hc₂
  refine ends_bind.2 (ends_modify.2 (ends_pure.2 ?_))
  rw [hcore]
  refine ⟨hfill _ rfl rfl fun u => ?_, hg₁.settled.idle⟩
  cases u <;> simp [awaited]

theorem handleCellReport_settles (r : CellReport) :
    Settles (handleCellReport r : HubM A R Unit) := by
  intro n h hg
  unfold handleCellReport
  rw [ends_bind, ends_get]
  split
  · exact Settles.of_quiet (emit_quiet _ _ _) n h hg
  · rename_i p hs
    have hx : h.core.awaited .wwanCellInfoTimeout = some p.timer := congrArg (Option.map _) hs
    refine ends_bind.2 (ends_modify.2 ?_)
    refine (abandon_ends hg hx (by exact rfl) (by exact rfl) (by exact rfl) fun u => ?_).bind
      fun _ h₁ hg₁ => ?_
    · cases u <;> rfl
    · exact Settles.of_quiet (quiet_tells.passCells_obeys r p) n h₁ hg₁

theorem cellTimeout_quiet (p : Pending Unit) : Obeys quiet (match p.requester with
    | none => pure ()
    | some id => postCells id { code := ErrorCode.timeout.raw, cookie := p.cookie } :
    HubM A R Unit) := by
  split
  · exact .pure _
  · exact quiet_tells.postCells_obeys _ _

theorem handleCellTimeout_settles {n : Nat} {x : TimerHandle} {h : Hub A R}
    (hg : h.core.Serving n (x, .wwanCellInfoTimeout)) :
    Ends (handleCellTimeout x) h (fun _ h' => h'.core.Settled)
      (fun e _ => 6 ≤ n → Mild R e) := by
  unfold handleCellTimeout
  rw [ends_bind, ends_get]
  split
  · rename_i hs
    refine Settles.of_quiet (emit_quiet _ _ _) n h (hg.stale ?_)
    simp [awaited, show h.core.cell = none from hs]
  · rename_i p hs
    have hs : h.core.cell = some p := hs
    rw [ends_ite]
    split
    · rename_i hx
      refine ends_bind.2 (ends_modify.2 ?_)
      refine .quietly (emit_quiet _ _ _) fun _ h₁ hc₁ => ?_
      refine .quietly (modifyWwan_quiet fun _ => rfl) fun _ h₂ hc₂ => ?_
      refine Settles.of_quiet (cellTimeout_quiet p) n h₂ ?_
      rw [hc₂, hc₁]
      refine hg.expire (by simp [awaited, hs, hx]) rfl rfl rfl fun u => ?_
      cases u <;> rfl
    · rename_i hx
      refine Settles.of_quiet (emit_quiet _ _ _) n h (hg.stale ?_)
      simpa [awaited, hs] using hx

theorem forgetWwan_keeps (id : InstanceId) : Keeps (forgetWwan id : HubM A R Unit) := by
  intro n h hg
  unfold forgetWwan
  rw [ends_bind, ends_get]
  split
  · exact hg
  · rename_i p hs
    have hx : h.core.awaited .wwanCellInfoTimeout = some p.timer := congrArg (Option.map _) hs
    rw [ends_ite]
    split
    · refine ends_bind.2 (ends_modify.2 ?_)
      refine (abandon_ends hg hx (by exact rfl) (by exact rfl) (by exact rfl) fun u => ?_).bind
        fun _ h₁ hg₁ => ?_
      · cases u <;> rfl
      · exact Keeps.of_quiet (emit_quiet _ _ _) n h₁ hg₁
    · exact hg

/-! ## Sessions -/

theorem withSession_timers (c : Core) (k : SessionKind) (s : Slot SessionChange) :
    (c.withSession k s).timers = c.timers := by
  cases k <;> rfl

theorem withSession_queued (c : Core) (k : SessionKind) (s : Slot SessionChange) :
    (c.withSession k s).queued = c.queued := by
  cases k <;> rfl

theorem withSession_scan (c : Core) (k : SessionKind) (s : Slot SessionChange) :
    (c.withSession k s).scan = c.scan := by
  cases k <;> rfl

/-- A change of a session that the radio accepted awaits its timeout. -/
theorem awaitSession_ends {n : Nat} {h : Hub A R} (k : SessionKind) (requester : Option InstanceId)
    (cookie : Cookie) (change : SessionChange) (hg : h.core.Good n)
    (hnone : h.core.session k = none) :
    Ends (awaitSession k requester cookie change) h (fun _ h' => h'.core.Settled)
      (fun e _ => 6 ≤ n → Mild R e) := by
  unfold awaitSession
  rw [ends_bind, ends_get]
  refine occupy_ends hg rfl _ (by rw [awaited_session, hnone]; rfl) fun x h₁ q hc₁ hfill => ?_
  have hnone₁ : (h₁.gnss.session k).slot = none := by
    rw [← core_session, hc₁]
    exact (by cases k <;> exact hnone)
  rw [ends_bind, ends_get, hnone₁, ends_bind, occupied_none]
  refine ends_modify.2 ?_
  rw [core_modifySession, hc₁]
  refine ⟨hfill _ (withSession_timers _ _ _) (withSession_queued _ _ _) fun u => ?_, ?_⟩
  · rw [awaited_withSession]
    cases u <;> rfl
  · rw [withSession_scan]
    exact hg.settled.idle

theorem controlSession_settles (k : SessionKind) (id : InstanceId)
    (request : Option SessionRequest) (cookie : Cookie) :
    Settles (controlSession k id request cookie : HubM A R (Except RequestError Unit)) := by
  unfold controlSession
  refine .quiet_bind gnssCapabilities_quiet fun _ => .ite (fun _ => .pure _) fun _ => ?_
  intro n h hg
  rw [ends_bind, getSession_ends, ends_ite]
  split
  · exact Settles.quiet_bind (emit_quiet _ _ _) (fun _ => .pure _) n h hg
  rename_i hfree
  have hnone : h.core.session k = none := by
    rw [core_session]
    exact Option.not_isSome_iff_eq_none.1 hfree
  rw [ends_ite]
  split
  · exact Settles.quiet_bind (quiet_tells.applySession_obeys _ trivial) (fun _ => .quiet_bind
      (quiet_tells.answerGnss_obeys _ _ _ _ _) fun _ => .pure _) n h hg
  refine .quietly (requestRadio_quiet _) fun accepted h₁ hc₁ => ?_
  rw [ends_ite]
  split
  · exact Settles.pure _ n h₁ (hc₁ ▸ hg)
  · refine (awaitSession_ends k _ _ _ (hc₁ ▸ hg) (hc₁ ▸ hnone)).bind fun _ h₂ hs => hs

theorem reconcileSession_settles (k : SessionKind) :
    Settles (reconcileSession k : HubM A R Unit) := by
  intro n h hg
  unfold reconcileSession
  rw [ends_bind, getSession_ends, ends_ite]
  split
  · exact hg.settled
  rename_i hfree
  have hnone : h.core.session k = none := by
    rw [core_session]
    exact Option.not_isSome_iff_eq_none.1 hfree
  rw [ends_ite]
  split
  · exact hg.settled
  refine .quietly (requestRadio_quiet _) fun accepted h₁ hc₁ => ?_
  rw [ends_ite]
  split
  · refine .quietly (emit_quiet _ _ _) fun _ h₂ hc₂ => ?_
    rw [hc₁] at hc₂
    exact awaitSession_ends k _ _ _ (hc₂ ▸ hg) (hc₂ ▸ hnone)
  · exact Settles.of_quiet (emit_quiet _ _ _) n h₁ (hc₁ ▸ hg)

theorem sessionOutcome_settles (k : SessionKind) (p : Pending SessionChange)
    (result : ErrorCode) : Settles (sessionOutcome k p result : HubM A R Unit) := by
  unfold sessionOutcome
  split
  · exact reconcileSession_settles k
  · have hanswer (id : InstanceId) : Settles (do
        answerGnss k id p.kind.request.isSome result p.cookie
        reconcileSession k : HubM A R Unit) :=
      .quiet_bind (quiet_tells.answerGnss_obeys _ _ _ _ _) fun _ => reconcileSession_settles k
    refine .ite (fun _ => ?_) fun _ => hanswer _
    exact .quiet_bind (quiet_tells.applySession_obeys _ trivial) fun _ => hanswer _

theorem handleSessionStatus_settles (k : SessionKind) (enabled : Bool) (raw : Nat) :
    Settles (handleSessionStatus k enabled raw : HubM A R Unit) := by
  intro n h hg
  unfold handleSessionStatus
  rw [ends_bind, getSession_ends]
  split
  · exact Settles.of_quiet (emit_quiet _ _ _) n h hg
  · rename_i p hs
    have hx : h.core.awaited k.purpose = some p.timer := by
      rw [awaited_session, core_session, hs]
      rfl
    refine ends_bind.2 (ends_modify.2 ?_)
    refine (abandon_ends hg hx ?_ ?_ ?_ fun u => ?_).bind fun _ h₁ hg₁ => ?_
    · exact rfl
    · rw [core_modifySession, withSession_queued]
    · rw [core_modifySession, withSession_scan]
    · rw [core_modifySession, awaited_withSession]
      rfl
    · have hend (result : ErrorCode) : Settles (sessionOutcome k p result : HubM A R Unit) :=
        sessionOutcome_settles k p result
      refine Settles.quiet_bind (checkCode_quiet _) (fun _ => ?_) n h₁ hg₁
      refine .quiet_bind (modifySession_quiet k fun _ => rfl) fun _ =>
        .ite (fun _ => ?_) fun _ => ?_
      · exact .quiet_bind (modifySession_quiet k fun _ => rfl) fun _ => hend _
      · exact .quiet_bind (countRadioError_quiet _) fun _ => hend _

theorem sessionTimeout_quiet (k : SessionKind) (p : Pending SessionChange) :
    Obeys quiet (match p.requester with
      | none => pure ()
      | some id => answerGnss k id p.kind.request.isSome .timeout p.cookie : HubM A R Unit) := by
  split
  · exact .pure _
  · exact quiet_tells.answerGnss_obeys _ _ _ _ _

theorem handleSessionTimeout_settles {n : Nat} {k : SessionKind} {x : TimerHandle} {h : Hub A R}
    (hg : h.core.Serving n (x, k.purpose)) :
    Ends (handleSessionTimeout k x) h (fun _ h' => h'.core.Settled)
      (fun e _ => 6 ≤ n → Mild R e) := by
  unfold handleSessionTimeout
  rw [ends_bind, getSession_ends]
  split
  · rename_i hs
    refine Settles.of_quiet (emit_quiet _ _ _) n h (hg.stale ?_)
    rw [awaited_session, core_session, hs]
    simp
  · rename_i p hs
    have hx : h.core.awaited k.purpose = some p.timer := by
      rw [awaited_session, core_session, hs]
      rfl
    rw [ends_ite]
    split
    · rename_i e
      refine ends_bind.2 (ends_modify.2 ?_)
      refine .quietly (emit_quiet _ _ _) fun _ h₁ hc₁ => ?_
      refine .quietly (modifySession_quiet k fun _ => rfl) fun _ h₂ hc₂ => ?_
      refine Settles.of_quiet (sessionTimeout_quiet k p) n h₂ ?_
      rw [hc₂, hc₁, core_modifySession]
      refine hg.expire (e ▸ hx) (withSession_timers _ _ _) (withSession_queued _ _ _)
        (withSession_scan _ _ _) fun u => ?_
      rw [awaited_withSession]
      rfl
    · rename_i e
      refine Settles.of_quiet (emit_quiet _ _ _) n h (hg.stale ?_)
      rw [hx]
      exact fun e' => e (Option.some.inj e')

theorem handleGnssReport_settles (r : GnssReport) :
    Settles (handleGnssReport r : HubM A R Unit) := by
  unfold handleGnssReport
  split
  · exact handleSessionStatus_settles _ _ _
  · exact .of_quiet (quiet_tells.shareSessionData_obeys _ _)
  · exact handleSessionStatus_settles _ _ _
  · exact .of_quiet (quiet_tells.shareSessionData_obeys _ _)

theorem forgetSession_settles (k : SessionKind) (id : InstanceId) :
    Settles (forgetSession k id : HubM A R Unit) := by
  intro n h hg
  unfold forgetSession
  refine ends_bind.2 (ends_modify.2 (reconcileSession_settles k n _ ?_))
  rw [core_modifySession]
  -- the request keeps its timer when its requester leaves
  have hsame (u : TimerPurpose) : (h.core.withSession k ((h.gnss.session k).slot.map fun p =>
      if p.requester = some id then
        { p with requester := none, kind := { p.kind with request := none } }
      else p)).awaited u = h.core.awaited u := by
    rw [awaited_withSession]
    split
    · rename_i e
      rw [e, awaited_session, core_session, Option.map_map]
      refine congrArg (Option.map · _) (funext fun p => ?_)
      simp only [Function.comp_apply]
      split <;> rfl
    · rfl
  exact hg.same (withSession_timers _ _ _) (withSession_queued _ _ _) (withSession_scan _ _ _) hsame

end ContextHub.Hub
