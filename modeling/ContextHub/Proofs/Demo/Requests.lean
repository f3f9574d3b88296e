import ContextHub.Proofs.Demo.Bearing
import ContextHub.Proofs.Hub.SafeCalls
/-!
# The demo's requests

A scan and a cell request from the call of the nanoapp to the answer, whatever the radio makes of
it. Each step is paid from what its task costs and leaves the hub ready for the next: the timer that
it sets is for the request in flight, and where it empties a slot, no timer is left for it.
-/

namespace ContextHub.Demo

open Hub TimerPool

variable {registry : Registry DemoApp} {total left : Nat} {h : DemoHub}

/-! ## Slots and timers -/

namespace Ready

variable {g : Gist}

/-- An event was posted. -/
theorem posted (hr : Ready registry total left g) {q : Queue} {e : Event} {dropped less : Nat}
    (hd : dropped = g.dropped) (hq : Affords total less q)
    (ht : q.tasks = g.queue.tasks ++ [.event e]) :
    Ready registry total less { g with queue := q, dropped } := by
  refine { hr.queued hq ?_ with dropped := hd.trans hr.dropped }
  rw [ht, told_append, told_cons_of_none rfl]
  exact List.append_nil _

/-- A radio was asked. -/
theorem askedWifi (hr : Ready registry total left g) {q : Queue} {station : Station} {less : Nat}
    (hq : Affords total less q) (ht : told q.tasks = told g.queue.tasks)
    (hs : Answers 15 station) : Ready registry total less
      { g with queue := q, radios := g.radios.set .wifi station } :=
  { hr.queued hq ht with wifi := hs }

theorem askedWwan (hr : Ready registry total left g) {q : Queue} {station : Station} {less : Nat}
    (hq : Affords total less q) (ht : told q.tasks = told g.queue.tasks)
    (hs : Answers 1 station) : Ready registry total less
      { g with queue := q, radios := g.radios.set .wwan station } :=
  { hr.queued hq ht with wwan := hs }

theorem scanFilled (hr : Ready registry total left g) (hfree : g.scan = none) {p : Pending ScanJob}
    (hp : p.requester = some ⟨2⟩) : Ready registry total left { g with scan := some p } := by
  have hempty : awaited g.scan g.cell .wifiScanTimeout = none := by rw [hfree]; rfl
  have hunpaused : awaited g.scan g.cell .wifiScanRetry = none := by rw [hfree]; rfl
  refine ⟨{ hr.toSteady with scanner := ?_ }, hr.ahead, hr.linked.realigned fun u => ?_⟩
  · rintro _ ⟨⟩
    exact hp
  · cases u with
    | wifiScanTimeout => exact .inr ⟨hr.linked.unset hempty, .inr (hr.linked.untold hempty nofun)⟩
    | wifiScanRetry => exact .inr ⟨hr.linked.unset hunpaused, .inl rfl⟩
    | _ => exact .inl rfl

theorem cellFilled (hr : Ready registry total left g) (hfree : g.cell = none) {p : Pending Unit}
    (hp : p.requester = some ⟨3⟩) : Ready registry total left { g with cell := some p } := by
  have hempty : awaited g.scan g.cell .wwanCellInfoTimeout = none := by rw [hfree]; rfl
  refine ⟨{ hr.toSteady with poller := ?_ }, hr.ahead, hr.linked.realigned fun u => ?_⟩
  · rintro _ ⟨⟩
    exact hp
  · cases u with
    | wwanCellInfoTimeout =>
      exact .inr ⟨hr.linked.unset hempty, .inr (hr.linked.untold hempty nofun)⟩
    | _ => exact .inl rfl

/-- While no pause is timed, the job of the scan in flight may change. -/
theorem rejob (hr : Ready registry total left g) {p : Pending ScanJob} (hp : g.scan = some p)
    (hnone : ∀ r ∈ g.timers.requests, r.purpose ≠ some .wifiScanRetry) (job : ScanJob) :
    Ready registry total left { g with scan := some { p with kind := job } } := by
  refine ⟨{ hr.toSteady with scanner := ?_ }, hr.ahead, hr.linked.realigned fun u => ?_⟩
  · rintro _ ⟨⟩
    exact hr.scanner p hp
  · cases u with
    | wifiScanRetry => exact .inr ⟨hnone, .inl rfl⟩
    | _ => exact .inl (by simp [awaited, hp])

/-- A timer that the request in flight awaits is set. -/
theorem armed (hr : Ready registry total left g) {u : TimerPurpose} {x : TimerHandle}
    {q : TimerPool} {duration : Nat} (hq : Census q)
    (ha : g.timers.Admits g.now { owner := .system, duration, purpose := some u } x q)
    (hd : 0 < duration) (hx : awaited g.scan g.cell u = some x) (hno : u ∉ told g.queue.tasks) :
    Ready registry total left { g with timers := q } :=
  { hr with
    census := hq
    ahead := hr.ahead_of_admits ha hd
    linked := hr.linked.set (fun _ => ha.mem) fun v hv => by
      obtain rfl : u = v := Option.some.inj hv
      exact ⟨hx, hno⟩ }

end Ready

/-! ## Making a request -/

theorem Ready.wifiBits (hr : Ready registry total left (gist h)) : h.capabilityBits .wifi = 15 := by
  rw [capabilityBits, if_pos (show h.wifi.available = true from hr.wifiOn)]
  exact capabilities_of_answers hr.wifi

theorem Ready.wwanBits (hr : Ready registry total left (gist h)) : h.capabilityBits .wwan = 1 := by
  rw [capabilityBits, if_pos (show h.wwan.available = true from hr.wwanOn)]
  exact capabilities_of_answers hr.wwan

theorem requestScan_ready (hr : Ready registry total (left + 4) (gist h)) (cookie : Cookie) :
    Ends (requestScan ⟨2⟩ {} cookie) h (fun _ h' => Ready registry total left (gist h'))
      (fun _ _ => False) := by
  have hwifi : Answers 15 h.radios.wifi := hr.wifi
  unfold requestScan
  rw [ends_bind, wifiCapabilities_ends, hr.wifiBits, if_neg (by decide), ends_bind, ends_get,
    ends_ite]
  split
  · exact hr.spend (Nat.le_add_right _ _)
  rename_i hfree
  have hfree : h.wifi.scanSlot = none := Option.not_isSome_iff_eq_none.1 hfree
  rw [if_neg (by decide)]
  refine (requestRadio_answers left hr.queue hwifi (reports_scan {})).bind ?_
  rintro _ _ ⟨rfl, q, station, j, rfl, hstation, hafford, htold⟩
  rw [if_neg (by decide), ends_bind, ends_get]
  dsimp only
  have hempty : awaited h.wifi.scanSlot h.wwan.cellSlot .wifiScanTimeout = none := by
    rw [hfree]
    rfl
  refine Ends.bind (setSystemTimer_census ?_ (by decide) ?_ _) ?_
  · exact hr.census
  · exact hr.linked.unset hempty
  rintro x _ ⟨p, log, rfl, hp, ha⟩
  rw [ends_bind, ends_get]
  dsimp only
  rw [hfree, ends_bind, occupied_none]
  refine ends_bind.2 (ends_modify.2 (ends_pure.2 ?_))
  refine ((hr.askedWifi hafford htold hstation).scanFilled hfree ?_).armed hp ha ?_ ?_ ?_
  · rfl
  · show 0 < h.wifi.settings.scanTimeout
    rw [show h.wifi.settings = {} from hr.wifiSettings]
    decide
  · rfl
  · exact htold ▸ hr.linked.untold hempty nofun

theorem requestCellInfo_ready (hr : Ready registry total (left + 2) (gist h)) (cookie : Cookie) :
    Ends (requestCellInfo ⟨3⟩ cookie) h (fun _ h' => Ready registry total left (gist h'))
      (fun _ _ => False) := by
  have hwwan : Answers 1 h.radios.wwan := hr.wwan
  unfold requestCellInfo
  rw [ends_bind, wwanCapabilities_ends, hr.wwanBits, if_neg (by decide), ends_bind, ends_get,
    ends_ite]
  split
  · exact hr.spend (Nat.le_add_right _ _)
  rename_i hfree
  have hfree : h.wwan.cellSlot = none := Option.not_isSome_iff_eq_none.1 hfree
  refine (requestRadio_answers left hr.queue hwwan reports_cellInfo).bind ?_
  rintro _ _ ⟨rfl, q, station, j, rfl, hstation, hafford, htold⟩
  rw [if_neg (by decide), ends_bind, ends_get]
  dsimp only
  have hempty : awaited h.wifi.scanSlot h.wwan.cellSlot .wwanCellInfoTimeout = none := by
    rw [hfree]
    rfl
  refine Ends.bind (setSystemTimer_census ?_ (by decide) ?_ _) ?_
  · exact hr.census
  · exact hr.linked.unset hempty
  rintro x _ ⟨p, log, rfl, hp, ha⟩
  rw [ends_bind, ends_get]
  dsimp only
  rw [hfree, ends_bind, occupied_none]
  refine ends_bind.2 (ends_modify.2 (ends_pure.2 ?_))
  refine ((hr.askedWwan hafford htold hstation).cellFilled hfree ?_).armed hp ha ?_ ?_ ?_
  · rfl
  · show 0 < h.wwan.settings.cellInfoTimeout
    rw [show h.wwan.settings = {} from hr.wwanSettings]
    decide
  · rfl
  · exact htold ▸ hr.linked.untold hempty nofun

/-! ## Answers -/

theorem post_ready {e : Event} (hr : Ready registry total (left + cost (.event e)) (gist h))
    (he : Foreseen (.event e)) :
    Ends (post e) h (fun b h' => b = true ∧ Ready registry total left (gist h') ∧
      h'.timers = h.timers) (fun _ _ => False) := by
  refine (post_affords left hr.queue he).mono ?_ fun _ _ => id
  rintro _ _ ⟨rfl, q, s, j, rfl, hdropped, hafford, htasks⟩
  exact ⟨rfl, hr.posted (hdropped.trans rfl) hafford htasks, rfl⟩

theorem postOrDie_ready {e : Event} (hr : Ready registry total (left + cost (.event e)) (gist h))
    (he : Foreseen (.event e)) :
    Ends (postOrDie e) h (fun _ h' => Ready registry total left (gist h'))
      (fun _ _ => False) := by
  refine (postOrDie_affords left hr.queue he).mono ?_ fun _ _ => id
  rintro _ _ ⟨q, s, j, rfl, hdropped, hafford, htasks⟩
  exact hr.posted (hdropped.trans rfl) hafford htasks

/-- The scanner is answered. -/
theorem answerWifi_ready (hr : Ready registry total (left + 1) (gist h)) (kind : Nat)
    (code : ErrorCode) (cookie : Cookie) :
    Ends (answerRequester (some ⟨2⟩) kind code cookie) h
      (fun _ h' => Ready registry total left (gist h')) (fun _ _ => False) :=
  postOrDie_ready hr (.inr (.inr (.inl rfl)))

theorem postCells_ready (hr : Ready registry total (left + 1) (gist h)) (r : CellReport) :
    Ends (postCells ⟨3⟩ r) h (fun _ h' => Ready registry total left (gist h'))
      (fun _ _ => False) :=
  postOrDie_ready hr (.inr (.inr (.inr rfl)))

/-! ## Emptying a slot -/

/-- Without the timers of the scan in flight, its slot can be emptied. -/
theorem Ready.vacated {g : Gist} (hr : Ready registry total left g) {p : Pending ScanJob}
    (hp : g.scan = some p) (hno : .wifiScanTimeout ∉ told g.queue.tasks) {q : TimerPool}
    (hq : Census q) (hsub : ∀ r ∈ q.requests, r ∈ g.timers.requests)
    (htimer : ∀ r ∈ q.requests, r.purpose.isSome = true → r.handle ≠ p.timer)
    (hretry : ∀ r ∈ q.requests, r.purpose.isSome = true → p.kind.retryTimer.isValid = true →
      r.handle ≠ p.kind.retryTimer) :
    Ready registry total left { g with timers := q, scan := none } := by
  have hawaited (r) (hm : r ∈ q.requests) := hr.linked.awaited r (hsub r hm)
  refine ⟨{ hr.toSteady with census := hq, scanner := nofun },
    fun r hm => hr.ahead r (hsub r hm), ?_⟩
  refine (hr.linked.fewer hsub).realigned fun u => ?_
  cases u with
  | wifiScanTimeout =>
    refine .inr ⟨fun r hm hu => ?_, .inr hno⟩
    have hx := hawaited r hm _ hu
    rw [hp] at hx
    exact htimer r hm (by simp [hu]) (Option.some.inj hx).symm
  | wifiScanRetry =>
    refine .inr ⟨fun r hm hu => ?_, .inl rfl⟩
    have hx := hawaited r hm _ hu
    simp only [hp, awaited, Option.bind_some] at hx
    split at hx
    · have hx := Option.some.inj hx
      refine hretry r hm (by simp [hu]) ?_ hx.symm
      rw [hx]
      exact hq.coherent.valid r hm
    · cases hx
  | _ => exact .inl rfl

theorem vacateScan_ready (hr : Ready registry total left (gist h)) {p : Pending ScanJob}
    (hp : h.wifi.scanSlot = some p) (hno : .wifiScanTimeout ∉ told h.queue.tasks) :
    Ends vacateScan h (fun o h' => o = some p ∧ Ready registry total left (gist h'))
      (fun _ _ => False) := by
  unfold vacateScan
  rw [ends_bind, ends_get, hp]
  dsimp only
  refine ends_bind.2 (ends_modify.2 ?_)
  refine Ends.bind (cancelSystemTimer_census ?_ _) ?_
  · exact hr.census
  rintro _ _ ⟨q, rfl, hq, hmem⟩
  rw [ends_ite]
  split
  · refine Ends.bind (cancelSystemTimer_census ?_ _) ?_
    · exact hq
    rintro _ _ ⟨q', rfl, hq', hmem'⟩
    refine ⟨rfl, hr.vacated hp hno hq' (fun r hm => ?_) (fun r hm => ?_) fun r hm hu _ => ?_⟩
    · exact ((hmem r).1 ((hmem' r).1 hm).1).1
    · exact ((hmem r).1 ((hmem' r).1 hm).1).2
    · exact ((hmem' r).1 hm).2 hu
  · rename_i hinvalid
    refine ⟨rfl, hr.vacated hp hno hq (fun r hm => ((hmem r).1 hm).1)
      (fun r hm => ((hmem r).1 hm).2) fun r _ _ hvalid => ?_⟩
    exact absurd hvalid hinvalid

theorem failScan_ready (hr : Ready registry total (left + 1) (gist h)) {p : Pending ScanJob}
    (hp : h.wifi.scanSlot = some p) (hno : .wifiScanTimeout ∉ told h.queue.tasks)
    (code : ErrorCode) :
    Ends (failScan code) h (fun _ h' => Ready registry total left (gist h'))
      (fun _ _ => False) := by
  refine (vacateScan_ready hr hp hno).bind ?_
  rintro _ h₁ ⟨rfl, hr₁⟩
  have hrequester : p.requester = some ⟨2⟩ := hr.scanner p hp
  dsimp only
  rw [hrequester]
  refine ends_bind.2 (ends_modify.2 (answerWifi_ready ?_ _ _ _))
  exact hr₁

/-! ## Reports and expiries of a scan -/

theorem checkCode_logs (raw : Nat) (h : DemoHub) :
    Ends (checkCode raw) h (fun _ h' => ∃ log, h' = { h with log }) (fun _ _ => False) := by
  unfold checkCode
  rw [ends_ite]
  split
  · exact ⟨_, rfl⟩
  · exact ⟨_, rfl⟩

theorem handleScanResponse_ready (hr : Ready registry total (left + 1) (gist h))
    (hno : told h.queue.tasks = []) (pending : Bool) (raw : Nat) :
    Ends (handleScanResponse pending raw) h (fun _ h' => Ready registry total left (gist h'))
      (fun _ _ => False) := by
  unfold handleScanResponse
  rw [ends_bind, ends_get]
  dsimp only
  split
  · exact hr.spend (Nat.le_add_right _ _)
  rename_i p hf
  obtain ⟨hp, hphase⟩ := Option.filter_eq_some_iff.1 hf
  have hphase : p.kind.phase = .awaitingResponse := eq_of_beq hphase
  have hrequester : p.requester = some ⟨2⟩ := hr.scanner p hp
  have hnone : ∀ r ∈ h.timers.requests, r.purpose ≠ some .wifiScanRetry := by
    apply hr.linked.unset
    simp [awaited, gist, hp, hphase]
  refine (checkCode_logs raw h).bind ?_
  rintro _ _ ⟨log, rfl⟩
  refine ends_bind.2 (ends_modify.2 ?_)
  rw [ends_ite]
  split
  · -- acknowledged
    refine ends_bind.2 (ends_modify.2 ?_)
    rw [hrequester]
    refine answerWifi_ready ?_ _ _ _
    simp only [gist, hp, Slot.setKind, Option.map_some]
    exact hr.rejob hp hnone _
  rw [ends_ite]
  split
  · -- refused for now, with another attempt after a pause
    refine ends_bind.2 (ends_modify.2 ?_)
    refine Ends.bind (setSystemTimer_census ?_ (by decide) ?_ _) ?_
    · exact hr.census
    · exact hnone
    rintro x _ ⟨q, log', rfl, hq, ha⟩
    refine ends_bind.2 (ends_modify.2 (ends_modify.2 ?_))
    simp only [gist, hp, Slot.setKind, Option.map_some]
    refine ((hr.spend (Nat.le_add_right _ _)).rejob hp hnone _).armed hq ha ?_ ?_ ?_
    · show 0 < h.wifi.settings.retryBackoff
      rw [show h.wifi.settings = {} from hr.wifiSettings]
      decide
    · rfl
    · simp [gist, hno]
  · apply failScan_ready (p := p)
    · exact hr
    · exact hp
    · simp [hno]

theorem handleScanRetry_ready (hr : Ready registry total (left + 4) (gist h))
    (hnone : ∀ r ∈ h.timers.requests, r.purpose ≠ some .wifiScanRetry) (x : TimerHandle) :
    Ends (handleScanRetry x) h (fun _ h' => Ready registry total left (gist h'))
      (fun _ _ => False) := by
  unfold handleScanRetry
  rw [ends_bind, ends_get]
  dsimp only
  split
  · exact hr.spend (Nat.le_add_right _ _)
  rename_i p hf
  obtain ⟨hp, -⟩ := Option.filter_eq_some_iff.1 hf
  have hwifi : Answers 15 h.radios.wifi := hr.wifi
  refine ends_bind.2 (ends_modify.2 ?_)
  refine Ends.bind (requestRadio_answers left hr.queue hwifi (reports_scan _)) ?_
  rintro _ _ ⟨rfl, q, station, j, rfl, hstation, hafford, htold⟩
  rw [if_pos rfl]
  refine ends_modify.2 ?_
  simp only [gist, hp, Slot.setKind, Option.map_some]
  exact (hr.askedWifi hafford htold hstation).rejob hp hnone _

theorem handleScanTimeout_ready (hr : Ready registry total (left + 1) (gist h))
    (hno : .wifiScanTimeout ∉ told h.queue.tasks) (x : TimerHandle) :
    Ends (handleScanTimeout x) h (fun _ h' => Ready registry total left (gist h'))
      (fun _ _ => False) := by
  unfold handleScanTimeout
  rw [ends_bind, ends_get, ends_ite]
  split
  · rename_i htimed
    cases hp : h.wifi.scanSlot with
    | none => simp [hp, Slot.isTimedBy] at htimed
    | some p =>
      refine ends_bind.2 (ends_modify.2 (ends_bind.2 (ends_modify.2 ?_)))
      apply failScan_ready (p := p)
      · exact hr
      · exact hp
      · exact hno
  · exact hr.spend (Nat.le_add_right _ _)

theorem postScan_ready (hr : Ready registry total (left + 1) (gist h)) (scan : Scan) :
    Ends (postScan (.toOne EventType.wifiScanResult (.scan scan) ⟨2⟩)) h
      (fun _ h' => Ready registry total left (gist h')) (fun _ _ => False) := by
  refine (post_ready hr (.inr (.inr (.inl rfl)))).bind ?_
  rintro _ _ ⟨rfl, hr', -⟩
  exact hr'

theorem handleScan_ready (hr : Ready registry total (left + 1) (gist h))
    (hno : told h.queue.tasks = []) (scan : Scan) :
    Ends (handleScan scan) h (fun _ h' => Ready registry total left (gist h'))
      (fun _ _ => False) := by
  unfold handleScan
  rw [ends_bind, ends_get]
  dsimp only
  rw [ends_ite]
  split
  · rename_i hawaits
    cases hp : h.wifi.scanSlot with
    | none => simp [hp, awaitsResults] at hawaits
    | some p =>
      refine (vacateScan_ready hr hp (by simp [hno])).bind ?_
      rintro _ h₁ ⟨rfl, hr₁⟩
      have hrequester : p.requester = some ⟨2⟩ := hr.scanner p hp
      have hmonitors : h₁.wifi.monitors = [] := hr₁.unmonitored.2
      unfold shareScan
      rw [ends_bind, ends_get, hmonitors]
      simp only [Option.bind_some, hrequester, Option.filter_some, List.contains_nil,
        Bool.not_false, ↓reduceIte, List.isEmpty_nil, Bool.not_true, Bool.false_eq_true,
        Option.isNone_some]
      exact (postScan_ready hr₁ scan).bind fun _ _ hr₂ => hr₂
  · rw [if_neg]
    · exact hr.spend (Nat.le_add_right _ _)
    · rw [show h.wifi.monitorEnabled = false from hr.unmonitored.1]
      exact Bool.false_ne_true

/-! ## Reports and expiries of a cell request -/

/-- Without its timer, the cell request in flight can be given up. -/
theorem Ready.cellVacated {g : Gist} (hr : Ready registry total left g) {q : TimerPool}
    (hq : Census q) (hsub : ∀ r ∈ q.requests, r ∈ g.timers.requests)
    (hnone : ∀ r ∈ q.requests, r.purpose ≠ some .wwanCellInfoTimeout)
    (hno : .wwanCellInfoTimeout ∉ told g.queue.tasks) :
    Ready registry total left { g with timers := q, cell := none } := by
  refine ⟨{ hr.toSteady with census := hq, poller := nofun },
    fun r hm => hr.ahead r (hsub r hm), ?_⟩
  refine (hr.linked.fewer hsub).realigned fun u => ?_
  cases u with
  | wwanCellInfoTimeout => exact .inr ⟨hnone, .inr hno⟩
  | _ => exact .inl rfl

theorem handleCellReport_ready (hr : Ready registry total (left + 1) (gist h))
    (hno : told h.queue.tasks = []) (r : CellReport) :
    Ends (handleCellReport r) h (fun _ h' => Ready registry total left (gist h'))
      (fun _ _ => False) := by
  unfold handleCellReport
  rw [ends_bind, ends_get]
  split
  · exact hr.spend (Nat.le_add_right _ _)
  rename_i p hp
  have hrequester : p.requester = some ⟨3⟩ := hr.poller p hp
  refine ends_bind.2 (ends_modify.2 ?_)
  refine Ends.bind (cancelSystemTimer_census ?_ _) ?_
  · exact hr.census
  rintro _ _ ⟨q, rfl, hq, hmem⟩
  refine Ends.bind (checkCode_logs _ _) ?_
  rintro _ _ ⟨log, rfl⟩
  refine ends_bind.2 (ends_modify.2 ?_)
  have hready : Ready registry total (left + 1) { gist h with timers := q, cell := none } := by
    have htold : .wwanCellInfoTimeout ∉ told (gist h).queue.tasks := by simp [gist, hno]
    refine hr.cellVacated hq (fun a ha => ((hmem a).1 ha).1) (fun a ha hu => ?_) htold
    obtain ⟨hold, hne⟩ := (hmem a).1 ha
    have hx := hr.linked.awaited a hold _ hu
    rw [show (gist h).cell = some p from hp] at hx
    exact hne (by simp [hu]) (Option.some.inj hx).symm
  rw [hrequester]
  rw [ends_ite]
  split
  · refine ends_bind.2 (ends_modify.2 (postCells_ready ?_ _))
    exact hready
  · refine postCells_ready ?_ _
    exact hready

theorem handleCellTimeout_ready (hr : Ready registry total (left + 1) (gist h))
    (hnone : ∀ r ∈ h.timers.requests, r.purpose ≠ some .wwanCellInfoTimeout)
    (hno : .wwanCellInfoTimeout ∉ told h.queue.tasks) (x : TimerHandle) :
    Ends (handleCellTimeout x) h (fun _ h' => Ready registry total left (gist h'))
      (fun _ _ => False) := by
  unfold handleCellTimeout
  rw [ends_bind, ends_get]
  split
  · exact hr.spend (Nat.le_add_right _ _)
  rename_i p hp
  have hrequester : p.requester = some ⟨3⟩ := hr.poller p hp
  rw [ends_ite]
  split
  · refine ends_bind.2 (ends_modify.2 (ends_bind.2 (ends_modify.2 (ends_bind.2 ?_))))
    refine ends_modify.2 ?_
    rw [hrequester]
    refine postCells_ready ?_ _
    exact hr.cellVacated hr.census (fun _ ha => ha) hnone hno
  · exact hr.spend (Nat.le_add_right _ _)

end ContextHub.Demo
