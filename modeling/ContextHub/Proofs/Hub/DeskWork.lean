import ContextHub.Proofs.Hub.Desks
/-!
# Work at the desks

Every operation on scan monitoring, scans, ranging, cells and sessions keeps to the rules of the
desks, and so does whatever a nanoapp calls, a radio reports or a timer of the system brings about.
-/

namespace ContextHub.Hub

open Desks

variable {A R : Type} [Radio R]

theorem Yields.idle {α : Type} {m : HubM A R α} {h : Hub A R} {move : Move} (hm : Obeys still m)
    (hidle : h.desks.Idles move) : Yields m h fun _ d fx => DeskRule move h.desks fx d := by
  refine (Yields.of_still hm).mono ?_
  rintro _ d fx ⟨rfl, rfl⟩
  exact .idle hidle

/-! ## WiFi -/

theorem answerWifi_yields (id : InstanceId) (kind : Nat) (code : ErrorCode) (cookie : Cookie)
    (h : Hub A R) :
    Yields (answerWifi id kind code cookie) h fun _ d fx =>
      d = h.desks ∧ fx = [.posted (wifiAnswer id kind code cookie)] :=
  postOrDie_yields rfl h

theorem answerRequester_yields {κ : Type} (p : Pending κ) (kind : Nat) (code : ErrorCode)
    (h : Hub A R) :
    Yields (answerRequester p.requester kind code p.cookie) h fun _ d fx =>
      d = h.desks ∧ fx = p.answered fun id => [.posted (wifiAnswer id kind code p.cookie)] := by
  unfold answerRequester Pending.answered
  cases p.requester with
  | none => exact .pure ⟨rfl, rfl⟩
  | some id => exact answerWifi_yields id kind code p.cookie h

/-! ### Scan monitoring -/

theorem applyMonitor_yields (id : InstanceId) (enable : Bool) (h : Hub A R) :
    Yields (applyMonitor id enable) h fun _ d fx =>
      d = h.desks.enter id enable ∧ fx = [.subscription enable id EventType.wifiScanResult] := by
  unfold applyMonitor
  cases enable with
  | true =>
    refine .modify_bind rfl rfl rfl fun h₁ hd₁ => ?_
    refine .effect_bind (subscribe_yields _ _ h₁) fun _ h₂ hd₂ => .pure ⟨?_, rfl⟩
    rw [hd₂, hd₁]
    rfl
  | false =>
    refine .modify_bind rfl rfl rfl fun h₁ hd₁ => ?_
    refine .effect_bind (unsubscribe_yields _ _ h₁) fun _ h₂ hd₂ => .pure ⟨?_, rfl⟩
    rw [hd₂, hd₁]
    rfl

/-- An empty slot is filled. -/
theorem Yields.occupied_bind {β κ : Type} {p : Pending κ} {f : Slot κ → HubM A R β} {h : Hub A R}
    {Q : β → Desks → List Effect → Prop} (hf : Yields (f (some p)) h Q) :
    Yields (occupied none p >>= f) h Q := hf

theorem awaitMonitor_yields {h : Hub A R} (hfree : h.desks.monitor = none)
    (requester : Option InstanceId) (cookie : Cookie) (change : MonitorChange) :
    Yields (awaitMonitor requester cookie change) h fun _ d fx => fx = [] ∧
      ∃ p : Pending MonitorChange, p.requester = requester ∧ p.cookie = cookie ∧ p.kind = change ∧
        d = { h.desks with monitor := some p } := by
  unfold awaitMonitor
  refine .get_bind ?_
  rw [show h.wifi.monitorSlot = none from hfree]
  refine .occupied_bind ((Yields.of_modify rfl rfl rfl).mono ?_)
  rintro _ d fx ⟨rfl, rfl⟩
  exact ⟨rfl, _, rfl, rfl, rfl, rfl⟩

theorem configureMonitor_yields (id : InstanceId) (enable : Bool) (cookie : Cookie) (h : Hub A R) :
    Yields (configureMonitor id enable cookie) h fun r d fx =>
      DeskRule (.called id (.scanMonitor enable cookie)) h.desks fx d ∧
        r.toBool = Effect.granted fx := by
  unfold configureMonitor
  refine .still_bind wifiCapabilities_still fun caps h₁ hd₁ => ?_
  rw [← hd₁]
  refine .ite (fun _ => .pure ⟨.idle idles_call, rfl⟩) fun _ => .get_bind ?_
  refine .ite (fun _ => .pure ⟨.idle idles_call, rfl⟩) fun hbusy => ?_
  have hfree : h₁.desks.monitor = none := Option.not_isSome_iff_eq_none.1 hbusy
  refine .ite (fun htarget => ?_) fun hne => ?_
  · refine .bind (applyMonitor_yields id enable h₁) fun _ d fx h₂ hP hd₂ => ?_
    obtain ⟨rfl, rfl⟩ := hP
    refine .effect_bind (answerWifi_yields _ _ _ _ h₂) fun _ h₃ hd₃ => .pure ?_
    rw [hd₃, hd₂]
    exact ⟨.monitor (.entered hfree htarget), by cases enable <;> rfl⟩
  · refine .effect_bind (requestRadio_yields _ h₁) fun accepted h₂ hd₂ => ?_
    cases accepted with
    | false =>
      refine .pure ?_
      rw [hd₂]
      exact ⟨.monitor (.refused hfree hne), rfl⟩
    | true =>
      refine .bind (awaitMonitor_yields (hd₂ ▸ hfree) _ _ _) fun _ d fx h₃ hP hd₃ => .pure ?_
      obtain ⟨rfl, p, hp, hcookie, hkind, rfl⟩ := hP
      rw [hd₃, hd₂]
      have hrule := MonitorRule.awaited hfree hkind (hkind ▸ hne) hp hcookie
      rw [hkind] at hrule
      exact ⟨.monitor hrule, rfl⟩

theorem reconcileMonitor_yields (h : Hub A R) :
    Yields reconcileMonitor h fun _ d fx => MonitorRealigned h.desks fx d := by
  unfold reconcileMonitor
  refine .get_bind (.ite (fun hbusy => .pure (.kept (.inl hbusy))) fun hbusy => ?_)
  have hfree : h.desks.monitor = none := Option.not_isSome_iff_eq_none.1 hbusy
  refine .ite (fun hsame => .pure (.kept (.inr hsame))) fun hne => ?_
  refine .effect_bind (requestRadio_yields _ h) fun accepted h₂ hd₂ => ?_
  cases accepted with
  | false =>
    refine .mono (.of_still (emit_still _ _ _)) ?_
    rintro _ d fx ⟨rfl, rfl⟩
    rw [hd₂]
    exact .refused hfree rfl hne
  | true =>
    refine .mono (awaitMonitor_yields (hd₂ ▸ hfree) _ _ _) ?_
    rintro _ d fx ⟨rfl, p, hp, -, hkind, rfl⟩
    rw [hd₂]
    have hrule := MonitorRealigned.awaited hfree (by rw [hkind]; rfl) (by rw [hkind]; exact hne) hp
    rw [hkind] at hrule
    exact hrule

theorem concludeMonitor_yields (p : Pending MonitorChange) (result : ErrorCode) (h : Hub A R) :
    Yields (concludeMonitor p result) h fun _ d fx => ∃ fx',
      fx = monitorOutcome p result ++ fx' ∧
        MonitorRealigned (h.desks.grantMonitor p result) fx' d := by
  unfold concludeMonitor monitorOutcome Pending.answered grantMonitor
  cases p.requester with
  | none =>
    refine (reconcileMonitor_yields h).mono ?_
    exact fun _ d fx hr => ⟨fx, rfl, hr⟩
  | some id =>
    have hanswer (h₁ : Hub A R) : Yields (do
        answerWifi id WifiKind.scanMonitor result p.cookie
        reconcileMonitor) h₁ fun _ d fx => ∃ fx',
          fx = .posted (wifiAnswer id WifiKind.scanMonitor result p.cookie) :: fx' ∧
            MonitorRealigned h₁.desks fx' d := by
      refine .effect_bind (answerWifi_yields _ _ _ _ h₁) fun _ h₂ hd₂ => ?_
      refine (reconcileMonitor_yields h₂).mono ?_
      exact fun _ d fx hr => ⟨fx, rfl, hd₂ ▸ hr⟩
    refine .ite (fun hok => ?_) fun hno => ?_
    · refine .bind (applyMonitor_yields id p.kind.enable h) fun _ d fx h₁ hP hd₁ => ?_
      obtain ⟨rfl, rfl⟩ := hP
      refine (hanswer h₁).mono ?_
      rintro _ d fx ⟨fx', rfl, hr⟩
      rw [hd₁] at hr
      simp only [hok, ↓reduceIte, Option.elim]
      exact ⟨fx', rfl, hr⟩
    · refine (hanswer h).mono ?_
      rintro _ d fx ⟨fx', rfl, hr⟩
      simp only [hno, Bool.false_eq_true, ↓reduceIte, Option.elim]
      exact ⟨fx', rfl, hr⟩

theorem handleMonitorStatus_settles {h : Hub A R} {p : Pending MonitorChange}
    (hs : h.desks.monitor = some p) (enabled : Bool) (raw : Nat) :
    Yields (handleMonitorStatus enabled raw) h fun _ d fx => ∃ fx',
      fx = monitorOutcome p (monitorResult (Histogram.reading raw) enabled p.kind.target) ++ fx' ∧
        MonitorRealigned (h.desks.settleMonitor p enabled (Histogram.reading raw)) fx' d := by
  unfold handleMonitorStatus
  refine .get_bind ?_
  rw [show h.wifi.monitorSlot = some p from hs]
  refine .still_bind (checkCode_still raw) fun _ h₁ hd₁ => ?_
  refine .modify_bind rfl rfl rfl fun h₂ hd₂ => ?_
  have hd₂ : h₂.desks = { h₁.desks with monitor := none } := hd₂
  have hrest (h₃ : Hub A R) (hd₃ : h₃.desks = { h.desks with
      monitor := none
      monitorEnabled := if (Histogram.reading raw).isSuccess then enabled
        else h.desks.monitorEnabled }) :
      Yields (concludeMonitor p (monitorResult (Histogram.reading raw) enabled p.kind.target)) h₃
        fun _ d fx => ∃ fx',
        fx = monitorOutcome p (monitorResult (Histogram.reading raw) enabled p.kind.target) ++ fx' ∧
          MonitorRealigned (h.desks.settleMonitor p enabled (Histogram.reading raw)) fx' d := by
    refine (concludeMonitor_yields p _ h₃).mono fun _ d fx hr => ?_
    rwa [hd₃] at hr
  refine .ite (fun hok => ?_) fun hno => ?_
  · refine .modify_bind rfl rfl rfl fun h₃ hd₃ => hrest h₃ ?_
    have hd₃ : h₃.desks = { h₂.desks with monitorEnabled := enabled } := hd₃
    rw [if_pos hok, hd₃, hd₂, hd₁]
  · refine .still_bind (countRadioError_still _) fun _ h₃ hd₃ => hrest h₃ ?_
    rw [if_neg hno, hd₃, hd₂, hd₁]

theorem handleMonitorStatus_idles {h : Hub A R} (hs : h.desks.monitor = none) (enabled : Bool)
    (raw : Nat) :
    Yields (handleMonitorStatus enabled raw) h fun _ d fx => d = h.desks ∧ fx = [] := by
  unfold handleMonitorStatus
  refine .get_bind ?_
  rw [show h.wifi.monitorSlot = none from hs]
  exact .of_still (emit_still _ _ _)

theorem handleMonitorStatus_yields (enabled : Bool) (raw : Nat) (h : Hub A R) :
    Yields (handleMonitorStatus enabled raw) h fun _ d fx =>
      DeskRule (.reported (.wifi (.monitorStatus enabled raw))) h.desks fx d := by
  cases hs : h.desks.monitor with
  | none =>
    refine (handleMonitorStatus_idles hs enabled raw).mono ?_
    rintro _ d fx ⟨rfl, rfl⟩
    exact .idle (idles_elsewhere (by rintro (_ | _ | _ | _) <;> rfl))
  | some p =>
    refine (handleMonitorStatus_settles hs enabled raw).mono ?_
    rintro _ d fx ⟨fx', rfl, hr⟩
    exact .monitor (.settled hs rfl hr)

/-! ### Scans on demand -/

theorem requestScan_yields (id : InstanceId) (params : ScanParams) (cookie : Cookie)
    (h : Hub A R) :
    Yields (requestScan id params cookie) h fun r d fx =>
      DeskRule (.called id (.scan params cookie)) h.desks fx d ∧ r.toBool = Effect.granted fx := by
  unfold requestScan
  refine .still_bind wifiCapabilities_still fun caps h₁ hd₁ => ?_
  rw [← hd₁]
  refine .ite (fun _ => .pure ⟨.idle idles_call, rfl⟩) fun _ => .get_bind ?_
  refine .ite (fun _ => ?_) fun hbusy => ?_
  · exact .still_bind (emit_still _ _ _) fun _ h₂ hd₂ => .pure (hd₂ ▸ ⟨.idle idles_call, rfl⟩)
  have hfree : h₁.desks.scan = none := Option.not_isSome_iff_eq_none.1 hbusy
  refine .ite (fun _ => .pure ⟨.idle idles_call, rfl⟩) fun _ => ?_
  refine .effect_bind (requestRadio_yields _ h₁) fun accepted h₂ hd₂ => ?_
  cases accepted with
  | false => exact .pure (hd₂ ▸ ⟨.scan .refused, rfl⟩)
  | true =>
    refine .get_bind (.still_bind (setSystemTimer_still _ _) fun x h₃ hd₃ => .get_bind ?_)
    rw [show h₃.wifi.scanSlot = none from (congrArg Desks.scan (hd₃.trans hd₂)).trans hfree]
    refine .occupied_bind (.modify_bind rfl rfl rfl fun h₄ hd₄ => .pure ?_)
    obtain ⟨p, hp, hcookie, hd₄⟩ : ∃ p : Pending ScanJob, p.requester = some id ∧
        p.cookie = cookie ∧ h₄.desks = { h₃.desks with scan := some p } := ⟨_, rfl, rfl, hd₄⟩
    rw [hd₄, hd₃, hd₂]
    exact ⟨.scan (.awaited hfree hp hcookie), rfl⟩

/-- The job of the scan in flight is changed. -/
theorem setScanJob_yields {h : Hub A R} {p : Pending ScanJob} (hs : h.desks.scan = some p)
    (job : ScanJob) :
    Yields (setScanJob job) h fun _ d fx =>
      d = { h.desks with scan := some { p with kind := job } } ∧ fx = [] := by
  refine (Yields.of_modify rfl rfl rfl).mono ?_
  rintro _ d fx ⟨rfl, rfl⟩
  refine ⟨?_, rfl⟩
  have hset : Slot.setKind h.wifi.scanSlot job = some { p with kind := job } := by
    rw [show h.wifi.scanSlot = some p from hs]
    rfl
  exact congrArg (fun s => { h.desks with scan := s }) hset

theorem vacateScan_yields (h : Hub A R) :
    Yields vacateScan h fun o d fx =>
      o = h.desks.scan ∧ d = { h.desks with scan := none } ∧ fx = [] := by
  unfold vacateScan
  refine .get_bind ?_
  split
  · rename_i hs
    exact .pure ⟨hs.symm, congrArg (fun s => { h.desks with scan := s }) hs, rfl⟩
  · rename_i p hs
    refine .modify_bind rfl rfl rfl fun h₁ hd₁ => ?_
    refine .still_bind (cancelTimer_still _ _) fun _ h₂ hd₂ => ?_
    refine .ite (fun _ => ?_) fun _ => .pure ⟨hs.symm, hd₂.trans hd₁, rfl⟩
    refine .still_bind (cancelTimer_still _ _) fun _ h₃ hd₃ => .pure ⟨hs.symm, ?_, rfl⟩
    exact hd₃.trans (hd₂.trans hd₁)

theorem failScan_yields {h : Hub A R} {p : Pending ScanJob} (hs : h.desks.scan = some p)
    (code : ErrorCode) :
    Yields (failScan code) h fun _ d fx => d = { h.desks with scan := none } ∧
      fx = p.answered fun id => [.posted (wifiAnswer id WifiKind.scan code p.cookie)] := by
  refine .bind (vacateScan_yields h) fun o d fx h₁ hP hd₁ => ?_
  obtain ⟨rfl, rfl, rfl⟩ := hP
  rw [hs]
  refine .still_bind (countRadioError_still _) fun _ h₂ hd₂ => ?_
  refine (answerRequester_yields p _ _ h₂).mono ?_
  rintro _ d fx ⟨rfl, rfl⟩
  exact ⟨hd₂.trans hd₁, rfl⟩

/-- Answers to the requester of a scan are among what becomes known of it. -/
theorem scanEffect_answered {p : Pending ScanJob} {code : ErrorCode} :
    ∀ x ∈ p.answered fun id => [.posted (wifiAnswer id WifiKind.scan code p.cookie)],
      ScanEffect p.requester x := by
  unfold Pending.answered
  intro x hx
  cases hr : p.requester with
  | none => rw [hr] at hx; cases hx
  | some id =>
    rw [hr] at hx
    obtain rfl := List.mem_singleton.1 hx
    exact .answered rfl _ _

theorem handleScanResponse_yields (pending : Bool) (raw : Nat) (h : Hub A R) :
    Yields (handleScanResponse pending raw) h fun _ d fx =>
      DeskRule (.reported (.wifi (.scanResponse pending raw))) h.desks fx d := by
  unfold handleScanResponse
  refine .get_bind ?_
  dsimp only
  split
  · exact .idle (emit_still _ _ _) (idles_elsewhere (by rintro (_ | _ | _ | _) <;> rfl))
  · rename_i p hp
    have hs : h.desks.scan = some p := (Option.filter_eq_some_iff.1 hp).1
    refine .still_bind (checkCode_still raw) fun _ h₁ hd₁ => ?_
    refine .modify_bind rfl rfl rfl fun h₂ hd₂ => ?_
    have hd₂ : h₂.desks = h.desks := Eq.trans hd₂ hd₁
    rw [← hd₂] at hs ⊢
    refine .ite (fun _ => ?_) fun _ => .ite (fun _ => ?_) fun _ => ?_
    · refine .bind (setScanJob_yields hs _) fun _ d fx h₃ hP hd₃ => ?_
      obtain ⟨rfl, rfl⟩ := hP
      refine (answerRequester_yields p _ _ h₃).mono ?_
      rintro _ d fx ⟨rfl, rfl⟩
      rw [hd₃]
      exact .scan (.served rfl hs (by rintro q ⟨⟩; exact ⟨_, rfl⟩) scanEffect_answered)
    · refine .bind (setScanJob_yields hs _) fun _ d fx h₃ hP hd₃ => ?_
      obtain ⟨rfl, rfl⟩ := hP
      refine .still_bind (setSystemTimer_still _ _) fun x h₄ hd₄ => ?_
      have hs₄ := congrArg Desks.scan (hd₄.trans hd₃)
      refine .bind (setScanJob_yields hs₄ _) fun _ d fx h₅ hP hd₅ => ?_
      obtain ⟨rfl, rfl⟩ := hP
      refine (Yields.of_still (emit_still _ _ _)).mono ?_
      rintro _ d fx ⟨rfl, rfl⟩
      rw [hd₅, hd₄, hd₃]
      exact .scan (.served rfl hs (by rintro q ⟨⟩; exact ⟨_, rfl⟩) (by simp))
    · refine (failScan_yields hs _).mono ?_
      rintro _ d fx ⟨rfl, rfl⟩
      exact .scan (.served rfl hs (by simp) scanEffect_answered)

theorem handleScanRetry_yields (x : TimerHandle) (h : Hub A R) :
    Yields (handleScanRetry x) h fun _ d fx =>
      DeskRule (.expired x .wifiScanRetry) h.desks fx d := by
  unfold handleScanRetry
  refine .get_bind ?_
  dsimp only
  split
  · exact .idle (emit_still _ _ _) (idles_foreign (by rintro (_ | _ | _ | _) <;> decide))
  · rename_i p hp
    have hs : h.desks.scan = some p := (Option.filter_eq_some_iff.1 hp).1
    refine .bind (setScanJob_yields hs _) fun _ d fx h₁ hP hd₁ => ?_
    obtain ⟨rfl, rfl⟩ := hP
    refine .effect_bind (requestRadio_yields _ h₁) fun accepted h₂ hd₂ => ?_
    have hs₂ := congrArg Desks.scan (hd₂.trans hd₁)
    have hasked {y : Effect} (hy : y = .asked (.scan p.kind.params) accepted) :
        ScanEffect p.requester y := hy ▸ .asked _ _
    refine .ite (fun _ => ?_) fun _ => ?_
    · refine (setScanJob_yields hs₂ _).mono ?_
      rintro _ d fx ⟨rfl, rfl⟩
      rw [hd₂, hd₁]
      exact .scan (.served rfl hs (by rintro q ⟨⟩; exact ⟨_, rfl⟩)
        fun y hy => hasked (List.mem_singleton.1 hy))
    · refine (failScan_yields hs₂ _).mono ?_
      rintro _ d fx ⟨rfl, rfl⟩
      rw [hd₂, hd₁]
      refine .scan (.served rfl hs (by simp) fun y hy => ?_)
      rcases List.mem_cons.1 hy with hy | hy
      · exact hasked hy
      · exact scanEffect_answered y hy

theorem handleScanTimeout_yields (x : TimerHandle) (h : Hub A R) :
    Yields (handleScanTimeout x) h fun _ d fx =>
      DeskRule (.expired x .wifiScanTimeout) h.desks fx d := by
  unfold handleScanTimeout
  refine .get_bind (.ite (fun htimed => ?_) fun _ => .idle (emit_still _ _ _)
    (idles_foreign (by rintro (_ | _ | _ | _) <;> decide)))
  obtain ⟨p, hs⟩ : ∃ p, h.desks.scan = some p := by
    cases hs : h.wifi.scanSlot with
    | none => rw [hs] at htimed; cases htimed
    | some p => exact ⟨p, hs⟩
  refine .still_bind (emit_still _ _ _) fun _ h₁ hd₁ => ?_
  refine .modify_bind rfl rfl rfl fun h₂ hd₂ => ?_
  have hd₂ : h₂.desks = h.desks := Eq.trans hd₂ hd₁
  rw [← hd₂] at hs ⊢
  refine (failScan_yields hs _).mono ?_
  rintro _ d fx ⟨rfl, rfl⟩
  exact .scan (.served rfl hs (by simp) scanEffect_answered)

theorem postScan_yields {e : Event} (he : e.type.isResult = true) (h : Hub A R) :
    Yields (postScan e) h fun _ d fx => d = h.desks ∧ ∀ x ∈ fx, x = .posted e := by
  refine .effect_bind (post_yields he h) fun b h₁ hd₁ => ?_
  cases b with
  | true => exact .pure ⟨hd₁, by simp⟩
  | false =>
    refine (Yields.of_still (emit_still _ _ _)).mono ?_
    rintro _ d fx ⟨rfl, rfl⟩
    exact ⟨hd₁, by simp⟩

/-- Results reach the requester and the monitors, and nobody else. -/
theorem shareScan_yields (scan : Scan) (requester : Option InstanceId) (h : Hub A R) :
    Yields (shareScan scan requester) h fun _ d fx =>
      d = h.desks ∧ ∀ x ∈ fx, ScanEffect requester x ∧ ∃ e, x = .posted e := by
  unfold shareScan
  refine .get_bind ?_
  have hall (h₁ : Hub A R) (hd₁ : h₁.desks = h.desks) (monitors : List InstanceId)
      (lone : Bool) : Yields (do
      if !monitors.isEmpty then postScan (.toAll EventType.wifiScanResult (.scan scan))
      else if lone then emit .debug "Scan event has no recipients") h₁ fun _ d fx =>
        d = h.desks ∧ ∀ x ∈ fx, ScanEffect requester x ∧ ∃ e, x = .posted e := by
    refine .ite (fun _ => ?_) fun _ => .ite (fun _ => ?_) fun _ => .pure ⟨hd₁, by simp⟩
    · refine (postScan_yields rfl h₁).mono ?_
      rintro _ d fx ⟨rfl, hfx⟩
      exact ⟨hd₁, fun x hx => hfx x hx ▸ ⟨.shared scan, _, rfl⟩⟩
    · refine (Yields.of_still (emit_still _ _ _)).mono ?_
      rintro _ d fx ⟨rfl, rfl⟩
      exact ⟨hd₁, by simp⟩
  dsimp only
  split
  · exact hall h rfl _ _
  · rename_i id hid
    have hid : requester = some id := (Option.filter_eq_some_iff.1 hid).1
    refine .bind (postScan_yields rfl h) fun _ d fx h₁ hP hd₁ => ?_
    obtain ⟨rfl, hfx⟩ := hP
    refine (hall h₁ hd₁ _ _).mono ?_
    rintro _ d fx' ⟨rfl, hfx'⟩
    refine ⟨rfl, fun x hx => ?_⟩
    rcases List.mem_append.1 hx with hx | hx
    · exact hfx x hx ▸ ⟨.passed hid scan, _, rfl⟩
    · exact hfx' x hx

theorem handleScan_yields (scan : Scan) (h : Hub A R) :
    Yields (handleScan scan) h fun _ d fx =>
      DeskRule (.reported (.wifi (.scan scan))) h.desks fx d := by
  unfold handleScan
  refine .get_bind (.ite (fun hawaits => ?_) fun _ => .ite (fun _ => ?_) fun _ => ?_)
  · obtain ⟨p, hs⟩ : ∃ p, h.desks.scan = some p := by
      cases hs : h.wifi.scanSlot with
      | none => rw [hs] at hawaits; cases hawaits
      | some p => exact ⟨p, hs⟩
    refine .bind (vacateScan_yields h) fun o d fx h₁ hP hd₁ => ?_
    obtain ⟨rfl, rfl, rfl⟩ := hP
    refine (shareScan_yields scan _ h₁).mono ?_
    rintro _ d fx ⟨rfl, hfx⟩
    rw [hd₁]
    rw [hs] at hfx
    exact .scan (.served rfl hs (by simp) fun x hx => (hfx x hx).1)
  · refine (shareScan_yields scan none h).mono ?_
    rintro _ d fx ⟨rfl, hfx⟩
    exact .scan (.shared (fun x hx => (hfx x hx).1) fun x hx => (hfx x hx).2)
  · exact .idle (emit_still _ _ _) (idles_elsewhere (by rintro (_ | _ | _ | _) <;> rfl))

/-! ### Ranging -/

theorem requestRanging_yields (id : InstanceId) (targets : List Bssid) (cookie : Cookie)
    (h : Hub A R) :
    Yields (requestRanging id targets cookie) h fun r d fx =>
      DeskRule (.called id (.ranging targets cookie)) h.desks fx d ∧
        r.toBool = Effect.granted fx := by
  unfold requestRanging
  refine .still_bind wifiCapabilities_still fun caps h₁ hd₁ => ?_
  rw [← hd₁]
  refine .ite (fun _ => .pure ⟨.idle idles_call, rfl⟩) fun _ => .get_bind ?_
  refine .ite (fun _ => .pure ⟨.idle idles_call, rfl⟩) fun hbusy => ?_
  have hfree : h₁.desks.ranging = none := Option.not_isSome_iff_eq_none.1 hbusy
  refine .ite (fun _ => .pure ⟨.idle idles_call, rfl⟩) fun _ => ?_
  refine .effect_bind (requestRadio_yields _ h₁) fun accepted h₂ hd₂ => ?_
  cases accepted with
  | false => exact .pure (hd₂ ▸ ⟨.ranging .refused, rfl⟩)
  | true =>
    refine .get_bind (.still_bind (setSystemTimer_still _ _) fun x h₃ hd₃ => .get_bind ?_)
    rw [show h₃.wifi.rangingSlot = none from (congrArg Desks.ranging (hd₃.trans hd₂)).trans hfree]
    refine .occupied_bind (.modify_bind rfl rfl rfl fun h₄ hd₄ => .pure ?_)
    obtain ⟨p, hp, hcookie, hd₄⟩ : ∃ p : Pending Unit, p.requester = some id ∧
        p.cookie = cookie ∧ h₄.desks = { h₃.desks with ranging := some p } := ⟨_, rfl, rfl, hd₄⟩
    rw [hd₄, hd₃, hd₂]
    exact ⟨.ranging (.awaited hfree hp hcookie), rfl⟩

/-- The requester is told of the outcome, and after a success of the distances too. -/
theorem passRanging_yields (raw : Nat) (results : Option (List RangingResult)) (p : Pending Unit)
    (h : Hub A R) :
    Yields (passRanging raw results p) h
      fun _ d fx => d = h.desks ∧ fx = p.answered fun id =>
        .posted (wifiAnswer id WifiKind.ranging (Histogram.reading raw) p.cookie) ::
          if (Histogram.reading raw).isSuccess then [.posted (rangingResults id results)]
          else [] := by
  have htell (h₁ : Hub A R) (hd₁ : h₁.desks = h.desks) : Yields (tellRanging raw results p) h₁
      fun _ d fx => d = h.desks ∧ fx = p.answered fun id =>
        .posted (wifiAnswer id WifiKind.ranging (Histogram.reading raw) p.cookie) ::
          if (Histogram.reading raw).isSuccess then [.posted (rangingResults id results)]
          else [] := by
    unfold tellRanging Pending.answered
    cases p.requester with
    | none => exact .pure ⟨hd₁, rfl⟩
    | some id =>
      refine .effect_bind (answerWifi_yields _ _ _ _ h₁) fun _ h₂ hd₂ => .ite (fun hok => ?_) ?_
      · refine (postOrDie_yields rfl h₂).mono ?_
        rintro _ d fx ⟨rfl, rfl⟩
        exact ⟨hd₂.trans hd₁, by rw [Option.elim, if_pos hok]; rfl⟩
      · exact fun hno => .pure ⟨hd₂.trans hd₁, by rw [Option.elim, if_neg hno]; rfl⟩
  refine .ite (fun _ => ?_) fun _ => htell h rfl
  exact .still_bind (countRadioError_still _) fun _ h₁ hd₁ => htell h₁ hd₁

theorem handleRanging_yields (raw : Nat) (results : Option (List RangingResult)) (h : Hub A R) :
    Yields (handleRanging raw results) h fun _ d fx =>
      DeskRule (.reported (.wifi (.ranging raw results))) h.desks fx d := by
  unfold handleRanging
  refine .get_bind ?_
  split
  · rename_i hs
    have hs : h.desks.ticket .ranging = none := congrArg (Option.map (Pending.ticket · true)) hs
    exact .idle (emit_still _ _ _) (idles_vacant rfl hs)
  · rename_i p hs
    have hs : h.desks.ranging = some p := hs
    refine .modify_bind rfl rfl rfl fun h₁ hd₁ => ?_
    have hd₁ : h₁.desks = { h.desks with ranging := none } := hd₁
    refine .still_bind (checkCode_still raw) fun _ h₂ hd₂ => ?_
    refine .modify_bind rfl rfl rfl fun h₃ hd₃ => ?_
    have hd₃ : h₃.desks = h₂.desks := hd₃
    refine .still_bind (cancelTimer_still _ _) fun _ h₄ hd₄ => ?_
    refine (passRanging_yields raw results p h₄).mono ?_
    rintro _ d fx ⟨rfl, rfl⟩
    rw [hd₄, hd₃, hd₂, hd₁]
    exact .ranging (.answered hs rfl)

theorem handleRangingTimeout_yields (x : TimerHandle) (h : Hub A R) :
    Yields (handleRangingTimeout x) h fun _ d fx =>
      DeskRule (.expired x .wifiRangingTimeout) h.desks fx d := by
  unfold handleRangingTimeout
  refine .get_bind ?_
  split
  · rename_i hs
    have hs : h.desks.ticket .ranging = none := congrArg (Option.map (Pending.ticket · true)) hs
    exact .idle (emit_still _ _ _) (idles_unawaited rfl hs)
  · rename_i p hs
    have hs : h.desks.ranging = some p := hs
    have ht : h.desks.ticket .ranging = some (p.ticket true) :=
      congrArg (Option.map (Pending.ticket · true)) hs
    refine .ite (fun hx => ?_) fun hx => .idle (emit_still _ _ _) (idles_stale rfl ht hx)
    refine .modify_bind rfl rfl rfl fun h₁ hd₁ => ?_
    have hd₁ : h₁.desks = { h.desks with ranging := none } := hd₁
    refine .still_bind (emit_still _ _ _) fun _ h₂ hd₂ => ?_
    refine .modify_bind rfl rfl rfl fun h₃ hd₃ => ?_
    have hd₃ : h₃.desks = h₂.desks := hd₃
    refine (answerRequester_yields p _ _ h₃).mono ?_
    rintro _ d fx ⟨rfl, rfl⟩
    rw [hd₃, hd₂, hd₁, ← hx]
    exact .ranging (.timedOut hs)

/-! ## Cells -/

theorem requestCellInfo_yields (id : InstanceId) (cookie : Cookie) (h : Hub A R) :
    Yields (requestCellInfo id cookie) h fun r d fx =>
      DeskRule (.called id (.cellInfo cookie)) h.desks fx d ∧ r.toBool = Effect.granted fx := by
  unfold requestCellInfo
  refine .still_bind wwanCapabilities_still fun caps h₁ hd₁ => ?_
  rw [← hd₁]
  refine .ite (fun _ => .pure ⟨.idle idles_call, rfl⟩) fun _ => .get_bind ?_
  refine .ite (fun _ => ?_) fun hbusy => ?_
  · exact .still_bind (emit_still _ _ _) fun _ h₂ hd₂ => .pure (hd₂ ▸ ⟨.idle idles_call, rfl⟩)
  have hfree : h₁.desks.cell = none := Option.not_isSome_iff_eq_none.1 hbusy
  refine .effect_bind (requestRadio_yields _ h₁) fun accepted h₂ hd₂ => ?_
  cases accepted with
  | false => exact .pure (hd₂ ▸ ⟨.cell .refused, rfl⟩)
  | true =>
    refine .get_bind (.still_bind (setSystemTimer_still _ _) fun x h₃ hd₃ => .get_bind ?_)
    rw [show h₃.wwan.cellSlot = none from (congrArg Desks.cell (hd₃.trans hd₂)).trans hfree]
    refine .occupied_bind (.modify_bind rfl rfl rfl fun h₄ hd₄ => .pure ?_)
    obtain ⟨p, hp, hcookie, hd₄⟩ : ∃ p : Pending Unit, p.requester = some id ∧
        p.cookie = cookie ∧ h₄.desks = { h₃.desks with cell := some p } := ⟨_, rfl, rfl, hd₄⟩
    rw [hd₄, hd₃, hd₂]
    exact ⟨.cell (.awaited hfree hp hcookie), rfl⟩

theorem passCells_yields (r : CellReport) (p : Pending Unit) (h : Hub A R) :
    Yields (passCells r p) h fun _ d fx => d = h.desks ∧
      fx = p.answered fun id => [.posted (cellAnswer id { r with cookie := p.cookie })] := by
  have htell (h₁ : Hub A R) (hd₁ : h₁.desks = h.desks) :
      Yields (tellCells r p) h₁ fun _ d fx => d = h.desks ∧
        fx = p.answered fun id => [.posted (cellAnswer id { r with cookie := p.cookie })] := by
    unfold tellCells Pending.answered
    cases p.requester with
    | none => exact .pure ⟨hd₁, rfl⟩
    | some id => exact (postOrDie_yields rfl h₁).mono fun _ _ _ hP => ⟨hP.1.trans hd₁, hP.2⟩
  refine .still_bind (checkCode_still _) fun _ h₁ hd₁ => ?_
  refine .modify_bind rfl rfl rfl fun h₂ hd₂ => ?_
  have hd₂ : h₂.desks = h.desks := Eq.trans hd₂ hd₁
  refine .ite (fun _ => ?_) fun _ => htell h₂ hd₂
  exact .still_bind (countRadioError_still _) fun _ h₃ hd₃ => htell h₃ (hd₃.trans hd₂)

theorem handleCellReport_yields (r : CellReport) (h : Hub A R) :
    Yields (handleCellReport r) h fun _ d fx => DeskRule (.reported (.wwan r)) h.desks fx d := by
  unfold handleCellReport
  refine .get_bind ?_
  split
  · rename_i hs
    have hs : h.desks.ticket .cell = none := congrArg (Option.map (Pending.ticket · true)) hs
    exact .idle (emit_still _ _ _) (idles_vacant rfl hs)
  · rename_i p hs
    have hs : h.desks.cell = some p := hs
    refine .modify_bind rfl rfl rfl fun h₁ hd₁ => ?_
    have hd₁ : h₁.desks = { h.desks with cell := none } := hd₁
    refine .still_bind (cancelTimer_still _ _) fun _ h₂ hd₂ => ?_
    refine (passCells_yields r p h₂).mono ?_
    rintro _ d fx ⟨rfl, rfl⟩
    rw [hd₂, hd₁]
    exact .cell (.answered hs)

theorem handleCellTimeout_yields (x : TimerHandle) (h : Hub A R) :
    Yields (handleCellTimeout x) h fun _ d fx =>
      DeskRule (.expired x .wwanCellInfoTimeout) h.desks fx d := by
  unfold handleCellTimeout
  refine .get_bind ?_
  split
  · rename_i hs
    have hs : h.desks.ticket .cell = none := congrArg (Option.map (Pending.ticket · true)) hs
    exact .idle (emit_still _ _ _) (idles_unawaited rfl hs)
  · rename_i p hs
    have hs : h.desks.cell = some p := hs
    have ht : h.desks.ticket .cell = some (p.ticket true) :=
      congrArg (Option.map (Pending.ticket · true)) hs
    refine .ite (fun hx => ?_) fun hx => .idle (emit_still _ _ _) (idles_stale rfl ht hx)
    refine .modify_bind rfl rfl rfl fun h₁ hd₁ => ?_
    have hd₁ : h₁.desks = { h.desks with cell := none } := hd₁
    refine .still_bind (emit_still _ _ _) fun _ h₂ hd₂ => ?_
    refine .modify_bind rfl rfl rfl fun h₃ hd₃ => ?_
    have hd₃ : h₃.desks = { h.desks with cell := none } := Eq.trans hd₃ (hd₂.trans hd₁)
    have hrule := CellRule.timedOut hs
    rw [hx] at hrule
    unfold Pending.answered at hrule
    cases hr : p.requester with
    | none =>
      rw [hr] at hrule
      exact .pure (hd₃ ▸ .cell hrule)
    | some id =>
      rw [hr] at hrule
      refine (postOrDie_yields rfl h₃).mono ?_
      rintro _ d fx ⟨rfl, rfl⟩
      exact hd₃ ▸ .cell hrule

/-! ## Sessions -/

/-- A change of one session, of which the front sees `s`. -/
theorem modifySession_yields {k : SessionKind} {f : Session → Session} {h : Hub A R}
    {s : Session} (hs : { f (h.gnss.session k) with errors := {} } = s) :
    Yields (modifySession k f) h fun _ d fx => d = h.desks.setSession k s ∧ fx = [] := by
  refine (Yields.of_modify rfl rfl rfl).mono ?_
  rintro _ d fx ⟨rfl, rfl⟩
  refine ⟨congrArg (fun g => { h.desks with session := g }) (funext fun k' => ?_), rfl⟩
  by_cases hk : k' = k
  · rw [hk, Function.update_self, ← hs]
    cases k <;> rfl
  · rw [Function.update_of_ne hk]
    cases k <;> cases k' <;> first | rfl | exact absurd rfl hk

theorem modifySession_bind {β : Type} {k : SessionKind} {f : Session → Session} {h : Hub A R}
    {s : Session} (hs : { f (h.gnss.session k) with errors := {} } = s)
    {g : PUnit → HubM A R β} {Q : β → Desks → List Effect → Prop}
    (hg : ∀ h₁, h₁.desks = h.desks.setSession k s → Yields (g ⟨⟩) h₁ Q) :
    Yields (modifySession k f >>= g) h Q := by
  refine .bind (modifySession_yields hs) fun _ d fx h₁ hP hd₁ => ?_
  obtain ⟨rfl, rfl⟩ := hP
  exact hg h₁ hd₁

theorem answerGnss_yields (k : SessionKind) (id : InstanceId) (start : Bool) (code : ErrorCode)
    (cookie : Cookie) (h : Hub A R) :
    Yields (answerGnss k id start code cookie) h fun _ d fx =>
      d = h.desks ∧ fx = [.posted (sessionAnswer k id start code cookie)] :=
  postOrDie_yields rfl h

theorem applySession_yields (k : SessionKind) (id : InstanceId) (request : Option SessionRequest)
    (h : Hub A R) :
    Yields (applySession k id request) h fun _ d fx =>
      d = h.desks.setSession k ((h.desks.session k).enter id request) ∧
        fx = [.subscription request.isSome id k.dataType] := by
  unfold applySession
  refine modifySession_bind rfl fun h₁ hd₁ => ?_
  cases request with
  | none =>
    refine .effect_bind (unsubscribe_yields _ _ h₁) fun _ h₂ hd₂ => .pure ⟨?_, rfl⟩
    rw [hd₂, hd₁]
    rfl
  | some r =>
    refine .effect_bind (subscribe_yields _ _ h₁) fun _ h₂ hd₂ => .pure ⟨?_, rfl⟩
    rw [hd₂, hd₁]
    rfl

theorem awaitSession_yields {k : SessionKind} {h : Hub A R}
    (hfree : (h.desks.session k).slot = none) (requester : Option InstanceId) (cookie : Cookie)
    (change : SessionChange) :
    Yields (awaitSession k requester cookie change) h fun _ d fx => fx = [] ∧
      ∃ p : Pending SessionChange, p.requester = requester ∧ p.cookie = cookie ∧ p.kind = change ∧
        d = h.desks.setSession k { h.desks.session k with slot := some p } := by
  unfold awaitSession
  refine .get_bind (.still_bind (setSystemTimer_still _ _) fun x h₁ hd₁ => .get_bind ?_)
  have hs : (h₁.gnss.session k).slot = none :=
    (congrArg (fun d : Desks => (d.session k).slot) hd₁).trans hfree
  rw [hs]
  refine .occupied_bind ((modifySession_yields rfl).mono ?_)
  rintro _ d fx ⟨rfl, rfl⟩
  exact ⟨rfl, _, rfl, rfl, rfl,
    congrArg (fun d : Desks => d.setSession k { d.session k with slot := some _ }) hd₁⟩

theorem controlSession_yields {k : SessionKind} {id : InstanceId} {c : Call}
    {request : Option SessionRequest} {cookie : Cookie}
    (hc : c.session? id = some (k, request, cookie)) (h : Hub A R) :
    Yields (controlSession k id request cookie) h fun r d fx =>
      DeskRule (.called id c) h.desks fx d ∧ r.toBool = Effect.granted fx := by
  unfold controlSession
  refine .still_bind gnssCapabilities_still fun caps h₁ hd₁ => ?_
  rw [← hd₁]
  refine .ite (fun _ => .pure ⟨.idle idles_call, rfl⟩) fun _ => .get_bind ?_
  refine .ite (fun _ => ?_) fun hbusy => ?_
  · exact .still_bind (emit_still _ _ _) fun _ h₂ hd₂ => .pure (hd₂ ▸ ⟨.idle idles_call, rfl⟩)
  have hfree : (h₁.desks.session k).slot = none := Option.not_isSome_iff_eq_none.1 hbusy
  refine .ite (fun htarget => ?_) fun hne => ?_
  · refine .bind (applySession_yields k id request h₁) fun _ d fx h₂ hP hd₂ => ?_
    obtain ⟨rfl, rfl⟩ := hP
    refine .effect_bind (answerGnss_yields _ _ _ _ _ h₂) fun _ h₃ hd₃ => .pure ?_
    rw [hd₃, hd₂]
    exact ⟨.session k (.entered hc hfree htarget), by cases request <;> rfl⟩
  · refine .effect_bind (requestRadio_yields _ h₁) fun accepted h₂ hd₂ => ?_
    cases accepted with
    | false => exact .pure (hd₂ ▸ ⟨.session k (.refused hc), rfl⟩)
    | true =>
      refine .bind (awaitSession_yields (hd₂ ▸ hfree) _ _ _) fun _ d fx h₃ hP hd₃ => .pure ?_
      obtain ⟨rfl, p, hp, hcookie, hkind, rfl⟩ := hP
      rw [hd₃, hd₂]
      have hrule := SessionRule.awaited hc hfree hkind (hkind ▸ hne) hp hcookie
      rw [hkind] at hrule
      exact ⟨.session k hrule, rfl⟩

theorem reconcileSession_yields (k : SessionKind) (h : Hub A R) :
    Yields (reconcileSession k) h fun _ d fx => SessionRealigned k h.desks fx d := by
  unfold reconcileSession
  refine .get_bind (.ite (fun hbusy => .pure (.kept (.inl hbusy))) fun hbusy => ?_)
  have hfree : (h.desks.session k).slot = none := Option.not_isSome_iff_eq_none.1 hbusy
  refine .ite (fun hsame => .pure (.kept (.inr hsame))) fun hne => ?_
  refine .effect_bind (requestRadio_yields _ h) fun accepted h₂ hd₂ => ?_
  cases accepted with
  | false =>
    refine .mono (.of_still (emit_still _ _ _)) ?_
    rintro _ d fx ⟨rfl, rfl⟩
    rw [hd₂]
    exact .refused hfree rfl hne
  | true =>
    refine .still_bind (emit_still _ _ _) fun _ h₃ hd₃ => ?_
    have hd₃ := hd₃.trans hd₂
    refine .mono (awaitSession_yields (hd₃ ▸ hfree) _ _ _) ?_
    rintro _ d fx ⟨rfl, p, hp, -, hkind, rfl⟩
    rw [hd₃]
    have hrule := SessionRealigned.awaited hfree hkind (by rw [hkind]; exact hne) hp
    rw [hkind] at hrule
    exact hrule

theorem sessionOutcome_yields (k : SessionKind) (p : Pending SessionChange) (result : ErrorCode)
    (h : Hub A R) :
    Yields (sessionOutcome k p result) h fun _ d fx => ∃ fx',
      fx = Desks.sessionOutcome k p result ++ fx' ∧
        SessionRealigned k (h.desks.setSession k ((h.desks.session k).grant p result)) fx' d := by
  unfold sessionOutcome Desks.sessionOutcome Pending.answered Session.grant
  cases p.requester with
  | none =>
    refine (reconcileSession_yields k h).mono fun _ d fx hr => ⟨fx, rfl, ?_⟩
    rwa [Desks.setSession, Function.update_eq_self]
  | some id =>
    have hanswer (h₁ : Hub A R) : Yields (do
        answerGnss k id p.kind.request.isSome result p.cookie
        reconcileSession k) h₁ fun _ d fx => ∃ fx',
          fx = .posted (sessionAnswer k id p.kind.request.isSome result p.cookie) :: fx' ∧
            SessionRealigned k h₁.desks fx' d := by
      refine .effect_bind (answerGnss_yields _ _ _ _ _ h₁) fun _ h₂ hd₂ => ?_
      exact (reconcileSession_yields k h₂).mono fun _ d fx hr => ⟨fx, rfl, hd₂ ▸ hr⟩
    refine .ite (fun hok => ?_) fun hno => ?_
    · refine .bind (applySession_yields k id p.kind.request h) fun _ d fx h₁ hP hd₁ => ?_
      obtain ⟨rfl, rfl⟩ := hP
      refine (hanswer h₁).mono ?_
      rintro _ d fx ⟨fx', rfl, hr⟩
      rw [hd₁] at hr
      simp only [hok, ↓reduceIte, Option.elim]
      exact ⟨fx', rfl, hr⟩
    · refine (hanswer h).mono ?_
      rintro _ d fx ⟨fx', rfl, hr⟩
      simp only [hno, Bool.false_eq_true, ↓reduceIte, Option.elim]
      refine ⟨fx', rfl, ?_⟩
      rwa [Desks.setSession, Function.update_eq_self]

theorem handleSessionStatus_yields (k : SessionKind) (enabled : Bool) (raw : Nat) (h : Hub A R) :
    Yields (handleSessionStatus k enabled raw) h fun _ d fx =>
      DeskRule (.reported (.gnss (k.status enabled raw))) h.desks fx d := by
  unfold handleSessionStatus
  refine .get_bind ?_
  split
  · rename_i hs
    have hs : h.desks.ticket (.session k) = none :=
      congrArg (Option.map fun p : Pending SessionChange => p.ticket p.kind.request.isSome) hs
    exact .idle (emit_still _ _ _) (idles_vacant (by cases k <;> rfl) hs)
  · rename_i p hs
    have hs : (h.desks.session k).slot = some p := hs
    refine modifySession_bind rfl fun h₁ hd₁ => ?_
    have hd₁ : h₁.desks = h.desks.setSession k { h.desks.session k with slot := none } := hd₁
    refine .still_bind (cancelTimer_still _ _) fun _ h₂ hd₂ => ?_
    refine .still_bind (checkCode_still raw) fun _ h₃ hd₃ => ?_
    refine modifySession_bind rfl fun h₄ hd₄ => ?_
    have hd₄ : h₄.desks = h₃.desks := hd₄.trans (setSession_eq_self _ _)
    have hd₄ := hd₄.trans (hd₃.trans (hd₂.trans hd₁))
    dsimp only
    generalize hcode : sessionResult (Histogram.reading raw) enabled p.kind.target = code
    have hrest (h₅ : Hub A R) (hd₅ : h₅.desks = h.desks.setSession k { h.desks.session k with
        slot := none
        confirmed := if code.isSuccess then p.kind.target else (h.desks.session k).confirmed }) :
        Yields (sessionOutcome k p code) h₅ fun _ d fx =>
          DeskRule (.reported (.gnss (k.status enabled raw))) h.desks fx d := by
      refine (sessionOutcome_yields k p code h₅).mono ?_
      rintro _ d fx ⟨fx', rfl, hr⟩
      rw [hd₅, setSession_setSession, session_setSession] at hr
      exact .session k (.settled hs hcode.symm hr)
    refine .ite (fun hok => ?_) fun hno => ?_
    · refine modifySession_bind rfl fun h₅ hd₅ => hrest h₅ ?_
      have hd₅ : h₅.desks = h₄.desks.setSession k
        { h₄.desks.session k with confirmed := p.kind.target } := hd₅
      rw [hd₅, hd₄, if_pos hok, setSession_setSession, session_setSession]
    · refine .still_bind (countRadioError_still _) fun _ h₅ hd₅ => hrest h₅ ?_
      rw [hd₅, hd₄, if_neg hno]

theorem handleSessionTimeout_yields (k : SessionKind) (x : TimerHandle) (h : Hub A R) :
    Yields (handleSessionTimeout k x) h fun _ d fx =>
      DeskRule (.expired x k.purpose) h.desks fx d := by
  unfold handleSessionTimeout
  refine .get_bind ?_
  split
  · rename_i hs
    have hs : h.desks.ticket (.session k) = none :=
      congrArg (Option.map fun p : Pending SessionChange => p.ticket p.kind.request.isSome) hs
    exact .idle (emit_still _ _ _) (idles_unawaited rfl hs)
  · rename_i p hs
    have hs : (h.desks.session k).slot = some p := hs
    have ht : h.desks.ticket (.session k) = some (p.ticket p.kind.request.isSome) :=
      congrArg (Option.map fun p : Pending SessionChange => p.ticket p.kind.request.isSome) hs
    refine .ite (fun hx => ?_) fun hx => .idle (emit_still _ _ _) (idles_stale rfl ht hx)
    refine modifySession_bind rfl fun h₁ hd₁ => ?_
    have hd₁ : h₁.desks = h.desks.setSession k { h.desks.session k with slot := none } := hd₁
    refine .still_bind (emit_still _ _ _) fun _ h₂ hd₂ => ?_
    refine modifySession_bind rfl fun h₃ hd₃ => ?_
    have hd₃ : h₃.desks = h₂.desks := hd₃.trans (setSession_eq_self _ _)
    have hd₃ := hd₃.trans (hd₂.trans hd₁)
    have hrule := SessionRule.timedOut hs
    rw [hx] at hrule
    unfold Pending.answered at hrule
    cases hr : p.requester with
    | none =>
      rw [hr] at hrule
      exact .pure (hd₃ ▸ .session k hrule)
    | some id =>
      rw [hr] at hrule
      refine (answerGnss_yields _ _ _ _ _ h₃).mono ?_
      rintro _ d fx ⟨rfl, rfl⟩
      exact hd₃ ▸ .session k hrule

/-- Data is for everyone who subscribed, or for nobody. -/
theorem shareSessionData_yields (k : SessionKind) (payload : Payload) {r : Report}
    (hr : ∀ desk : Desk, desk.isReported r = false) (h : Hub A R) :
    Yields (shareSessionData k payload) h fun _ d fx => DeskRule (.reported r) h.desks fx d := by
  have hresult : (Event.toAll k.dataType payload).type.isResult = true := by cases k <;> rfl
  unfold shareSessionData
  refine .get_bind (.ite (fun _ => .idle (emit_still _ _ _) (idles_elsewhere hr)) fun _ => ?_)
  refine .ite (fun _ => .pure (.idle (idles_elsewhere hr))) fun _ => ?_
  refine .effect_bind (post_yields hresult h) fun b h₁ hd₁ => ?_
  cases b with
  | true => exact .pure (hd₁ ▸ .session k (.shared hr))
  | false => exact hd₁ ▸ .idle (emit_still _ _ _) (idles_elsewhere hr)

theorem handleGnssReport_yields (r : GnssReport) (h : Hub A R) :
    Yields (handleGnssReport r) h fun _ d fx => DeskRule (.reported (.gnss r)) h.desks fx d := by
  cases r with
  | locationStatus enabled raw => exact handleSessionStatus_yields .location enabled raw h
  | location l => exact shareSessionData_yields _ _ (by rintro (_ | _ | _ | _) <;> rfl) h
  | measurementStatus enabled raw => exact handleSessionStatus_yields .measurement enabled raw h
  | data g => exact shareSessionData_yields _ _ (by rintro (_ | _ | _ | _) <;> rfl) h

/-! ## Reports, timeouts and calls -/

theorem handleReport_yields (r : Report) (h : Hub A R) :
    Yields (handleReport r) h fun _ d fx => DeskRule (.reported r) h.desks fx d := by
  cases r with
  | wifi r =>
    cases r with
    | monitorStatus enabled raw => exact handleMonitorStatus_yields enabled raw h
    | scanResponse pending raw => exact handleScanResponse_yields pending raw h
    | scan scan => exact handleScan_yields scan h
    | ranging raw results => exact handleRanging_yields raw results h
  | wwan r => exact handleCellReport_yields r h
  | gnss r => exact handleGnssReport_yields r h

theorem handleSystemTimer_yields (x : TimerHandle) (u : TimerPurpose) (h : Hub A R) :
    Yields (handleSystemTimer x u) h fun _ d fx => DeskRule (.expired x u) h.desks fx d := by
  cases u with
  | wifiScanRetry => exact handleScanRetry_yields x h
  | wifiScanTimeout => exact handleScanTimeout_yields x h
  | wifiRangingTimeout => exact handleRangingTimeout_yields x h
  | wwanCellInfoTimeout => exact handleCellTimeout_yields x h
  | gnssLocationTimeout => exact handleSessionTimeout_yields .location x h
  | gnssMeasurementTimeout => exact handleSessionTimeout_yields .measurement x h

/-! ## Unloading -/

omit [Radio R] in
theorem without_eq_none {κ : Type} {s : Slot κ} {id : InstanceId} (hs : s.isOwnedBy id = true) :
    s.without id = none := by
  cases s with
  | none => rfl
  | some p =>
    have hp : p.requester = some id := by simpa [Slot.isOwnedBy] using hs
    simp [Slot.without, hp]

omit [Radio R] in
theorem without_eq_self {κ : Type} {s : Slot κ} {id : InstanceId} (hs : ¬ s.isOwnedBy id = true) :
    s.without id = s := by
  cases s with
  | none => rfl
  | some p =>
    have hp : p.requester ≠ some id := by simpa [Slot.isOwnedBy] using hs
    simp [Slot.without, hp]

theorem forgetRanging_yields (id : InstanceId) (h : Hub A R) :
    Yields (forgetRanging id) h fun _ d fx =>
      MonitorRealigned { h.desks with ranging := h.desks.ranging.without id } fx d := by
  unfold forgetRanging
  refine .get_bind (.ite (fun hown => .get_bind ?_) fun hown => ?_)
  · rw [show h.desks.ranging.without id = none from without_eq_none hown]
    split
    · rename_i hs
      refine (reconcileMonitor_yields h).mono fun _ d fx hr => ?_
      rwa [← show h.desks.ranging = none from hs]
    · refine .modify_bind rfl rfl rfl fun h₁ hd₁ => ?_
      have hd₁ : h₁.desks = { h.desks with ranging := none } := hd₁
      refine .still_bind (cancelTimer_still _ _) fun _ h₂ hd₂ => ?_
      refine (reconcileMonitor_yields h₂).mono fun _ d fx hr => ?_
      rwa [hd₂, hd₁] at hr
  · rw [show h.desks.ranging.without id = h.desks.ranging from without_eq_self hown]
    exact reconcileMonitor_yields h

theorem forgetWifi_yields (id : InstanceId) (h : Hub A R) :
    Yields (forgetWifi id) h fun _ d fx => MonitorRealigned (h.desks.forgetWifi id) fx d := by
  unfold forgetWifi
  refine .modify_bind rfl rfl rfl fun h₁ hd₁ => ?_
  have hd₁ : h₁.desks = h.desks.forgetMonitor id := hd₁
  refine .get_bind (.ite (fun hown => ?_) fun hown => ?_)
  · refine .bind (vacateScan_yields h₁) fun _ d fx h₂ hP hd₂ => ?_
    obtain ⟨-, rfl, rfl⟩ := hP
    refine .still_bind (emit_still _ _ _) fun _ h₃ hd₃ => ?_
    refine (forgetRanging_yields id h₃).mono fun _ d fx hr => ?_
    have hs : h₁.desks.scan.without id = none := without_eq_none hown
    rw [hd₁] at hs
    rw [hd₃, hd₂, hd₁, ← hs] at hr
    exact hr
  · refine (forgetRanging_yields id h₁).mono fun _ d fx hr => ?_
    have hs : h₁.desks.scan.without id = h₁.desks.scan := without_eq_self hown
    rw [hd₁] at hs hr
    unfold Desks.forgetWifi
    rw [show h.desks.scan.without id = h.desks.scan from hs]
    exact hr

theorem forgetWwan_yields (id : InstanceId) (h : Hub A R) :
    Yields (forgetWwan id) h fun _ d fx => d = h.desks.forgetCell id ∧ fx = [] := by
  have hcell {s : Slot Unit} (hs : s = h.desks.cell.without id) :
      { h.desks with cell := s } = h.desks.forgetCell id := by rw [hs, Desks.forgetCell]
  unfold forgetWwan
  refine .get_bind ?_
  split
  · rename_i hs
    have hs : h.desks.cell = none := hs
    exact .pure ⟨hcell (s := h.desks.cell) (by rw [hs]; rfl), rfl⟩
  · rename_i p hs
    have hs : h.desks.cell = some p := hs
    refine .ite (fun hp => ?_) fun hp => .pure ⟨hcell ?_, rfl⟩
    · refine .modify_bind rfl rfl rfl fun h₁ hd₁ => ?_
      refine .still_bind (cancelTimer_still _ _) fun _ h₂ hd₂ => ?_
      refine (Yields.of_still (emit_still _ _ _)).mono ?_
      rintro _ d fx ⟨rfl, rfl⟩
      refine ⟨hd₂.trans (hd₁.trans (hcell ?_)), rfl⟩
      rw [hs, without_eq_none (by simp [Slot.isOwnedBy, hp])]
    · refine (without_eq_self (s := h.desks.cell) ?_).symm
      simpa [hs, Slot.isOwnedBy] using hp

theorem forgetSession_yields (k : SessionKind) (id : InstanceId) (h : Hub A R) :
    Yields (forgetSession k id) h fun _ d fx =>
      SessionRealigned k (h.desks.forgetSession k id) fx d := by
  unfold forgetSession
  refine modifySession_bind rfl fun h₁ hd₁ => ?_
  refine (reconcileSession_yields k h₁).mono fun _ d fx hr => ?_
  rwa [hd₁] at hr

/-! ## Calls -/

theorem permitted_yields (id : InstanceId) (p : Permission) (h : Hub A R) :
    Yields (permitted id p) h fun b d fx =>
      d = h.desks ∧ fx = [] ∧ (b = true → h.front.holds id p) := by
  unfold permitted
  refine .get_bind ?_
  split
  · exact .pure ⟨rfl, rfl, fun hb => by cases hb⟩
  · rename_i n hn
    refine .ite (fun hp => .pure ⟨rfl, rfl, fun _ => ?_⟩) fun _ => ?_
    · refine ⟨n.member, List.mem_map_of_mem (List.mem_of_find?_eq_some hn), ?_, hp⟩
      simpa [Nanoapp.member] using List.find?_some hn
    · refine .still_bind (emit_still _ _ _) fun _ h₁ hd₁ => .pure ⟨hd₁, rfl, fun hb => by cases hb⟩

/-- What a nanoapp asks for is refused, or it has the permission. -/
theorem askFor_yields {id : InstanceId} {p : Permission} {request : String}
    {ask : HubM A R (Except RequestError Unit)} {c : Call}
    (hask : ∀ h : Hub A R, Yields ask h fun r d fx =>
      DeskRule (.called id c) h.desks fx d ∧ r.toBool = Effect.granted fx) (h : Hub A R) :
    Yields (askFor id p request ask) h fun b d fx => DeskRule (.called id c) h.desks fx d ∧
      b = Effect.granted fx ∧ (fx = [] ∧ d = h.desks ∨ h.front.holds id p) := by
  refine .bind (permitted_yields id p h) fun b d fx h₁ hP hd₁ => ?_
  obtain ⟨rfl, rfl, hb⟩ := hP
  refine .ite (fun hok => ?_) fun _ => .pure (hd₁ ▸ ⟨.idle idles_call, rfl, .inl ⟨rfl, rfl⟩⟩)
  refine .bind (hask h₁) fun r d fx h₂ hP hd₂ => ?_
  rw [hd₁] at hP
  have hend {b : Bool} {h₃ : Hub A R} (hd₃ : h₃.desks = d) (hr : b = r.toBool) :
      Yields (pure b) h₃ fun b d fx' => DeskRule (.called id c) h.desks ([] ++ (fx ++ fx')) d ∧
        b = Effect.granted ([] ++ (fx ++ fx')) ∧
          ([] ++ (fx ++ fx') = [] ∧ d = h.desks ∨ h.front.holds id p) := by
    refine .pure ?_
    rw [hd₃, List.append_nil, List.nil_append]
    exact ⟨hP.1, hr.trans hP.2, .inr (hb hok)⟩
  unfold admitted
  cases r with
  | ok => exact hend hd₂ rfl
  | error e => exact .still_bind (emit_still _ _ _) fun _ h₃ hd₃ => hend (hd₃.trans hd₂) rfl

end ContextHub.Hub

namespace ContextHub

/-- The permission that a call is refused without. -/
def Call.permission? : Call → Option Permission
  | .scanMonitor _ _ => some .wifi
  | .scan _ _ => some .wifi
  | .ranging _ _ => some .wifi
  | .cellInfo _ => some .wwan
  | .location _ _ _ => some .gnss
  | .stopLocation _ => some .gnss
  | .measurement _ _ => some .gnss
  | .stopMeasurement _ => some .gnss
  | _ => none

/-- Whether a call was admitted, if it is a request to a radio. -/
def Call.admitted? : (c : Call) → c.Reply → Option Bool
  | .scanMonitor _ _, b => some b
  | .scan _ _, b => some b
  | .ranging _ _, b => some b
  | .cellInfo _, b => some b
  | .location _ _ _, b => some b
  | .stopLocation _, b => some b
  | .measurement _ _, b => some b
  | .stopMeasurement _, b => some b
  | _, _ => none

namespace Hub

open Desks

variable {A R : Type} [Radio R]

/-- A call keeps to the rules of the desks, and a request changes nothing without the permission. -/
theorem perform_yields (id : InstanceId) (c : Call) (h : Hub A R) :
    Yields (perform id c) h fun reply d fx => DeskRule (.called id c) h.desks fx d ∧
      (∀ b, c.admitted? reply = some b → b = Effect.granted fx) ∧
      ∀ p, c.permission? = some p → fx = [] ∧ d = h.desks ∨ h.front.holds id p := by
  have hstill {m : HubM A R c.Reply} (hm : Obeys still m) (hc : ∀ r, c.admitted? r = none)
      (hc' : c.permission? = none) : Yields m h fun reply d fx =>
        DeskRule (.called id c) h.desks fx d ∧
        (∀ b, c.admitted? reply = some b → b = Effect.granted fx) ∧
        ∀ p, c.permission? = some p → fx = [] ∧ d = h.desks ∨ h.front.holds id p := by
    refine (Yields.of_still hm).mono ?_
    rintro reply d fx ⟨rfl, rfl⟩
    refine ⟨.idle idles_call, fun b hb => ?_, fun p hp => ?_⟩
    · rw [hc] at hb
      cases hb
    · rw [hc'] at hp
      cases hp
  have hsubscription {b : Bool} {c : Call} {d : Desks} {fx : List Effect} {x : Effect}
      (hP : d = h.desks ∧ fx = [x]) (hrule : DeskRule (.called id c) h.desks [x] h.desks) :
      DeskRule (.called id c) h.desks fx d ∧ (∀ b', none = some b' → b' = Effect.granted fx) ∧
        ∀ p, none = some p → fx = [] ∧ d = h.desks ∨ h.front.holds id p := by
    obtain ⟨rfl, rfl⟩ := hP
    exact ⟨hrule, (fun b hb => by cases hb), fun p hp => by cases hp⟩
  have hasked {c : Call} {p : Permission} {b : Bool} {d : Desks} {fx : List Effect}
      (hP : DeskRule (.called id c) h.desks fx d ∧ b = Effect.granted fx ∧
        (fx = [] ∧ d = h.desks ∨ h.front.holds id p)) :
      DeskRule (.called id c) h.desks fx d ∧ (∀ b', some b = some b' → b' = Effect.granted fx) ∧
        ∀ p', some p = some p' → fx = [] ∧ d = h.desks ∨ h.front.holds id p' := by
    refine ⟨hP.1, fun b' hb => Option.some.inj hb ▸ hP.2.1, fun p' hp => ?_⟩
    rw [← Option.some.inj hp]
    exact hP.2.2
  cases c with
  | now => exact hstill (.get_bind fun _ => .pure _) (fun _ => rfl) rfl
  | appId => exact hstill (.get_bind fun _ => .pure _) (fun _ => rfl) rfl
  | setTimer => exact hstill (setNanoappTimer_still _ _ _ _) (fun _ => rfl) rfl
  | cancelTimer => exact hstill (cancelWithExpiries_still _ _) (fun _ => rfl) rfl
  | alloc =>
    refine hstill (.bind (still_grants.heapAlloc_obeys trivial _) fun _ => ?_) (fun _ => rfl) rfl
    exact .bind updateHeapGauge_still fun _ => .pure _
  | free =>
    refine hstill (.bind (still_grants.heapFree_obeys _ _) fun _ => ?_) (fun _ => rfl) rfl
    exact updateHeapGauge_still
  | access => exact hstill (still_grants.heapAccess_obeys _ _ _) (fun _ => rfl) rfl
  | wasIssued => exact hstill (.get_bind fun _ => .pure _) (fun _ => rfl) rfl
  | send => exact hstill (still_grants.send_obeys _ _) (fun _ => rfl) rfl
  | subscribe type =>
    exact (subscribe_yields id type h).mono fun b _ _ hP => hsubscription (b := b) hP .subscribed
  | unsubscribe type =>
    exact (unsubscribe_yields id type h).mono fun b _ _ hP =>
      hsubscription (b := b) hP .unsubscribed
  | find => exact hstill (.get_bind fun _ => .pure _) (fun _ => rfl) rfl
  | requestUnload => exact hstill (requestUnload_still _) (fun _ => rfl) rfl
  | stopLoop => exact hstill stopLoop_still (fun _ => rfl) rfl
  | capabilities => exact hstill (still_grants.capabilitiesFor_obeys _ _) (fun _ => rfl) rfl
  | scanMonitor enable cookie =>
    exact (askFor_yields (configureMonitor_yields id enable cookie) h).mono fun _ _ _ => hasked
  | scan params cookie =>
    exact (askFor_yields (requestScan_yields id params cookie) h).mono fun _ _ _ => hasked
  | ranging targets cookie =>
    exact (askFor_yields (requestRanging_yields id targets cookie) h).mono fun _ _ _ => hasked
  | cellInfo cookie =>
    exact (askFor_yields (requestCellInfo_yields id cookie) h).mono fun _ _ _ => hasked
  | location interval fix cookie =>
    exact (askFor_yields (controlSession_yields rfl) h).mono fun _ _ _ => hasked
  | stopLocation cookie =>
    exact (askFor_yields (controlSession_yields rfl) h).mono fun _ _ _ => hasked
  | measurement interval cookie =>
    exact (askFor_yields (controlSession_yields rfl) h).mono fun _ _ _ => hasked
  | stopMeasurement cookie =>
    exact (askFor_yields (controlSession_yields rfl) h).mono fun _ _ _ => hasked
  | trace => exact hstill (.modify fun _ => rfl) (fun _ => rfl) rfl
  | log => exact hstill (emit_still _ _ _) (fun _ => rfl) rfl
  | note => exact hstill (note_still rfl) (fun _ => rfl) rfl

end Hub

end ContextHub
