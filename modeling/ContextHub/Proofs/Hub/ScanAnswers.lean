import ContextHub.Proofs.Hub.Deliveries
import ContextHub.Proofs.Hub.ScanSteps
/-!
# Answers to scans on demand

From the acceptance of a scan to the emptying of its slot, its requester is answered once, whatever
happens in between and in whatever order. There is one exception: if the scan times out after the
radio acknowledged it, the requester is answered twice. Nobody else is answered, and nothing is
answered while the slot is empty.
-/

namespace ContextHub.Hub

variable {A R : Type}

/-! ## A request in flight -/

/-- The scan of `id` is in flight, and has been answered if and only if its results are awaited. -/
def ScanView.InFlight (id : InstanceId) (cookie : Cookie) (answers : List Event) (v : ScanView) :
    Prop :=
  ∃ p : Pending ScanJob, p.requester = some id ∧ p.cookie = cookie ∧ v = ⟨some p, answers ++
    if p.kind.phase = .awaitingResults then [scanAnswer id .none cookie] else []⟩

/-- How a scan in flight ends: with one answer, with none or one if its requester is unloaded, and
with two if it times out while its results are awaited. -/
structure Ending (id : InstanceId) (cookie : Cookie) (awaited : Bool) (m : ScanMove)
    (answers : List Event) : Prop where
  own : ∀ e ∈ answers, ∃ code, e = scanAnswer id code cookie
  unloaded : ∀ i, m = .unloaded i → answers.length ≤ 1
  once : (∀ i, m ≠ .unloaded i) →
    (answers.length = 1 ↔ ¬ ((∃ x, m = .expired x) ∧ awaited = true))
  twice : ∀ x, m = .expired x → awaited = true →
    answers = [scanAnswer id .none cookie, scanAnswer id .timeout cookie]

namespace ScanView

variable {id : InstanceId} {cookie : Cookie} {answers : List Event} {v v' : ScanView} {m : ScanMove}

theorem answersTo_eq {p : Pending ScanJob} (hid : p.requester = some id) (hc : p.cookie = cookie)
    (code : ErrorCode) : answersTo p code = [scanAnswer id code cookie] := by
  rw [answersTo, hid, hc, Option.map_some, Option.toList_some]

theorem Step.answers_of_none (hs : v.Step m v') (hnone : v.slot = none) :
    v'.answers = v.answers := by
  cases hs with
  | idle => rfl
  | accepted => rfl
  | _ => cases hnone

/-- As long as the slot is not emptied, the scan stays in flight. -/
theorem InFlight.step (hf : v.InFlight id cookie answers) (hs : v.Step m v')
    (hsome : v'.slot.isSome = true) : v'.InFlight id cookie answers := by
  obtain ⟨p, hid, hc, rfl⟩ := hf
  cases hs with
  | idle => exact ⟨p, hid, hc, rfl⟩
  | acknowledged hphase =>
    refine ⟨{ p with kind := { p.kind with phase := .awaitingResults } }, hid, hc, ?_⟩
    rw [if_neg (by simp [hphase]), List.append_nil, if_pos rfl, answersTo_eq hid hc]
  | postponed hphase hjob =>
    rename_i job _ _
    refine ⟨{ p with kind := job }, hid, hc, ?_⟩
    rw [if_neg (by simp [hphase]), if_neg (by simp [hjob])]
  | resumed hphase hjob =>
    rename_i job _
    refine ⟨{ p with kind := job }, hid, hc, ?_⟩
    rw [if_neg (by simp [hphase]), if_neg (by simp [hjob])]
  | _ => cases hsome

theorem ending_single {awaited : Bool} (hm : ¬ ((∃ x, m = .expired x) ∧ awaited = true))
    (code : ErrorCode) : Ending id cookie awaited m [scanAnswer id code cookie] where
  own _ he := ⟨code, List.mem_singleton.1 he⟩
  unloaded _ _ := Nat.le_refl _
  once _ := ⟨fun _ => hm, fun _ => rfl⟩
  twice x hx ha := absurd ⟨⟨x, hx⟩, ha⟩ hm

theorem InFlight.ending (hf : v.InFlight id cookie answers) (hs : v.Step m v')
    (hnone : v'.slot = none) :
    ∃ l, v'.answers = answers ++ l ∧ Ending id cookie (awaitsResults v.slot) m l := by
  obtain ⟨p, hid, hc, rfl⟩ := hf
  cases hs with
  | refused hphase code =>
    refine ⟨[scanAnswer id code cookie], ?_, ending_single (by simp) code⟩
    rw [if_neg (by simp [hphase]), List.append_nil, answersTo_eq hid hc]
  | rejected hphase code =>
    refine ⟨[scanAnswer id code cookie], ?_, ending_single (by simp) code⟩
    rw [if_neg (by simp [hphase]), List.append_nil, answersTo_eq hid hc]
  | completed hphase =>
    refine ⟨[scanAnswer id .none cookie], ?_, ending_single (by simp) .none⟩
    rw [if_pos hphase]
  | timedOut =>
    refine ⟨_, List.append_assoc _ _ _, ?_⟩
    rw [answersTo_eq hid hc]
    by_cases hphase : p.kind.phase = .awaitingResults
    · have ha : awaitsResults (some p) = true := by simp [awaitsResults, hphase]
      rw [if_pos hphase]
      refine ⟨?_, by simp, by simp [ha], fun _ _ _ => rfl⟩
      intro e he
      rcases List.mem_cons.1 he with rfl | he
      · exact ⟨.none, rfl⟩
      · exact ⟨.timeout, List.mem_singleton.1 he⟩
    · have ha : awaitsResults (some p) = false := by simp [awaitsResults, hphase]
      rw [if_neg hphase]
      exact ending_single (by simp [ha]) .timeout
  | forgotten =>
    refine ⟨_, rfl, ?_⟩
    split
    · exact ending_single (by simp) .none
    · exact ⟨by simp, by simp, fun hm => absurd rfl (hm _), fun x hx => by cases hx⟩
  | _ => cases hnone

end ScanView

/-! ## Runs of the manager -/

section

variable [Radio R]

/-- The manager of scans is told something, or something else happens to the hub. -/
inductive ScanStep : Hub A R → ScanMove → Hub A R → Prop
  | request {h h' : Hub A R} {id : InstanceId} {params : ScanParams} {cookie : Cookie}
      {reply : Except RequestError Unit} (hr : requestScan id params cookie h = .ok reply h') :
      ScanStep h (.requested id cookie) h'
  | response {h h' : Hub A R} {pending : Bool} {raw : Nat}
      (hr : handleScanResponse pending raw h = .ok () h') : ScanStep h (.responded pending raw) h'
  | results {h h' : Hub A R} {scan : Scan} (hr : handleScan scan h = .ok () h') :
      ScanStep h .results h'
  | retry {h h' : Hub A R} {x : TimerHandle} (hr : handleScanRetry x h = .ok () h') :
      ScanStep h (.retried x) h'
  | timeout {h h' : Hub A R} {x : TimerHandle} (hr : handleScanTimeout x h = .ok () h') :
      ScanStep h (.expired x) h'
  | unload {h h' : Hub A R} {id : InstanceId} (hr : forgetWifi id h = .ok () h') :
      ScanStep h (.unloaded id) h'
  | other {h h' : Hub A R} (hslot : h'.wifi.scanSlot = h.wifi.scanSlot)
      (hanswers : h'.scanAnswers = h.scanAnswers) : ScanStep h .other h'

/-- Steps lead from `h` to a hub, and `P` holds all along. -/
inductive Scans (P : Hub A R → Prop) (h : Hub A R) : Hub A R → Prop
  | stay (hP : P h) : Scans P h h
  | snoc {h₁ h₂ : Hub A R} {m : ScanMove} (hl : Scans P h h₁) (hs : ScanStep h₁ m h₂) (hP : P h₂) :
      Scans P h h₂

theorem ScanStep.view {h h' : Hub A R} {m : ScanMove} (hs : ScanStep h m h') :
    h.view.Step m h'.view := by
  cases hs with
  | request hr =>
    rename_i params cookie reply
    have hv := (requestScan_view _ params cookie h).ok hr
    cases reply with
    | error e =>
      rw [show h'.view = h.view from hv]
      exact .idle _ _
    | ok u =>
      obtain ⟨hnone, p, hid, hc, hphase, hv⟩ := hv
      rw [hv, show h.view = ⟨none, h.view.answers⟩ by rw [← hnone]]
      exact .accepted hid hc hphase
  | response hr => exact (handleScanResponse_step _ _ h).ok hr
  | results hr => exact (handleScan_step _ h).ok hr
  | retry hr => exact (handleScanRetry_step _ h).ok hr
  | timeout hr => exact (handleScanTimeout_step _ h).ok hr
  | unload hr => exact (forgetWifi_step _ h).ok hr
  | other hslot hanswers =>
    rw [show h'.view = h.view by rw [Hub.view, hslot, hanswers, Hub.view]]
    exact .idle _ _

theorem Scans.append {P : Hub A R → Prop} {h h₁ h₂ : Hub A R} (hs : Scans P h h₁)
    (hs' : Scans P h₁ h₂) : Scans P h h₂ := by
  induction hs' with
  | stay => exact hs
  | snoc _ hstep hP ih => exact ih.snoc hstep hP

/-- A scan stays in flight in a run in which the slot is not emptied. -/
theorem Scans.inFlight {h h' : Hub A R} {id : InstanceId} {cookie : Cookie} {answers : List Event}
    (hs : Scans (·.wifi.scanSlot.isSome = true) h h') (hf : h.view.InFlight id cookie answers) :
    h'.view.InFlight id cookie answers := by
  induction hs with
  | stay => exact hf
  | snoc _ hstep hP ih => exact ih.step hstep.view hP

/-! ## What is reached lies on a run -/

theorem Scans.of_step {h h' : Hub A R} {m : ScanMove} (hs : ScanStep h m h') :
    Scans (fun _ => True) h h' :=
  (Scans.stay trivial).snoc hs trivial

/-- Whatever is done are steps. -/
def scanning : Law A R where
  rel := Scans fun _ => True
  halts _ _ _ := True
  refl _ := .stay trivial
  trans := Scans.append
  halts_of_rel _ _ := trivial

theorem scanning_of_step {α : Type} {m : HubM A R α} {move : ScanMove}
    (hstep : ∀ h a h', m h = .ok a h' → ScanStep h move h') : Obeys scanning m := by
  intro h
  unfold Ends
  split
  · exact .of_step (hstep _ _ _ ‹_›)
  · trivial

theorem scanning_unseen : (unseen : Law A R).Within scanning where
  rel hv := .of_step (.other (congrArg ScanView.slot hv) (congrArg ScanView.answers hv))
  halts _ := trivial

theorem scanning_quiet : (quiet : Law A R).Within scanning where
  rel hc := scanning_unseen.rel (unseen_quiet.rel hc)
  halts _ := trivial

theorem scanning_requests : (scanning : Law A R).Requests where
  quietly := scanning_quiet
  scan _ _ _ := scanning_of_step fun _ _ _ => .request
  ranging _ _ _ := (unseen_manages.tends.requestRanging_obeys trivial _ _).within scanning_unseen
  cellInfo _ _ := (unseen_manages.tends.requestCellInfo_obeys trivial _).within scanning_unseen
  session _ _ _ _ := (unseen_manages.tends.controlSession_obeys _ trivial _).within scanning_unseen

theorem perform_scanning (id : InstanceId) (c : Call) :
    Obeys scanning (perform id c : HubM A R c.Reply) := by
  by_cases hc : c.isTimerCall = true
  · cases c with
    | setTimer => exact (setNanoappTimer_unseen _ _ _ _).within scanning_unseen
    | cancelTimer => exact (cancelWithExpiries_unseen _ _).within scanning_unseen
    | _ => cases hc
  · exact scanning_requests.perform_obeys id c (Bool.eq_false_iff.2 hc)

theorem tick_unseen : Obeys unseen (tick : HubM A R Nat) := by
  unfold tick
  refine .get_bind fun h => ?_
  split
  · exact .throw fun _ => trivial
  · refine .bind (.modify fun _ => rfl) fun _ => .bind (.forM fun r _ h => ?_) fun _ => .pure _
    refine (postExpiry_ends r h).mono (fun _ h' hr => ?_) fun _ _ _ => trivial
    rcases hr with hc | ⟨-, lost, hc⟩
    · exact view_eq (by rw [hc]) (by rw [hc])
    · exact view_eq (by rw [hc]) (by rw [hc])

theorem handleReport_scanning (r : Report) : Obeys scanning (handleReport r : HubM A R Unit) := by
  have hunseen {m : HubM A R Unit} (hm : Obeys unseen m) : Obeys scanning m :=
    hm.within scanning_unseen
  cases r with
  | wifi r =>
    cases r with
    | monitorStatus => exact (quiet_watches.handleMonitorStatus_obeys _ _).within scanning_quiet
    | scanResponse => exact scanning_of_step fun _ _ _ => .response
    | scan => exact scanning_of_step fun _ _ _ => .results
    | ranging => exact hunseen (unseen_manages.tends.handleRanging_obeys _ _)
  | wwan r => exact hunseen (unseen_manages.tends.handleCellReport_obeys r)
  | gnss r => exact hunseen (unseen_manages.tends.handleGnssReport_obeys r)

theorem handleSystemTimer_scanning (x : TimerHandle) (u : TimerPurpose) :
    Obeys scanning (handleSystemTimer x u : HubM A R Unit) := by
  have hunseen {m : HubM A R Unit} (hm : Obeys unseen m) : Obeys scanning m :=
    hm.within scanning_unseen
  cases u with
  | wifiScanRetry => exact scanning_of_step fun _ _ _ => .retry
  | wifiScanTimeout => exact scanning_of_step fun _ _ _ => .timeout
  | wifiRangingTimeout => exact hunseen (unseen_manages.tends.handleRangingTimeout_obeys x)
  | wwanCellInfoTimeout => exact hunseen (unseen_manages.tends.handleCellTimeout_obeys x)
  | gnssLocationTimeout => exact hunseen (unseen_manages.tends.handleSessionTimeout_obeys _ x)
  | gnssMeasurementTimeout => exact hunseen (unseen_manages.tends.handleSessionTimeout_obeys _ x)

theorem releaseResources_scanning (id : InstanceId) :
    Obeys scanning (releaseResources id : HubM A R Unit) := by
  have hunseen {α : Type} {m : HubM A R α} (hm : Obeys unseen m) : Obeys scanning m :=
    hm.within scanning_unseen
  refine releaseResources_obeys scanning_quiet (hunseen fun _ => rfl) ?_
    (hunseen (unseen_manages.tends.forgetWwan_obeys id))
    (hunseen (unseen_manages.tends.forgetGnss_obeys id))
    (hunseen (discard_unseen _)) fun h => scanning_unseen.rel rfl
  exact scanning_of_step fun _ _ _ => .unload

/-- Every step of a hub is made of steps of the manager of scans. -/
theorem Step.scans {h h' : Hub A R} {e : Option Happening} (hs : Step h e h') :
    Scans (fun _ => True) h h' := by
  have hunseen {h' : Hub A R} (hv : h'.view = h.view) : Scans (fun _ => True) h h' :=
    scanning_unseen.rel hv
  cases hs with
  | call _ hr => exact (perform_scanning _ _ h).ok hr
  | tick hr => exact hunseen ((tick_unseen h).ok hr)
  | deliver => exact hunseen rfl
  | drop => exact hunseen rfl
  | expiry _ hc hr =>
    refine .append (hunseen ?_) ((handleSystemTimer_scanning _ _ _).ok hr)
    exact view_eq (by rw [hc]; rfl) (by rw [hc]; rfl)
  | report hr => exact (handleReport_scanning _ h).ok hr
  | release _ hr => exact (releaseResources_scanning _ h).ok hr
  | register => exact hunseen rfl
  | clock => exact hunseen rfl
  | alarm => exact hunseen rfl
  | quiet hc => exact scanning_quiet.rel hc

theorem Lives.scans {h h' : Hub A R} {past : List Happening} (hl : Lives h past h') :
    Scans (fun _ => True) h h' := by
  induction hl with
  | stay => exact .stay trivial
  | snoc _ hs ih => exact ih.append hs.scans

/-! ## The count of answers -/

/-- An accepted scan is answered once by the time its slot is emptied, at most once if its requester
is unloaded, and twice exactly if it times out while its results are awaited. Nothing is answered
while the slot is empty. Whatever a hub does is made of such steps. -/
theorem scan_answers_counted [Behaviour A] :
    (∀ (h h' : Hub A R) m, ScanStep h m h' → h.wifi.scanSlot = none →
      h'.scanAnswers = h.scanAnswers) ∧
    (∀ (h h₁ h₂ h₃ : Hub A R) id params cookie m,
      requestScan id params cookie h = .ok (.ok ()) h₁ →
        Scans (·.wifi.scanSlot.isSome = true) h₁ h₂ → ScanStep h₂ m h₃ →
          h₃.wifi.scanSlot = none → ∃ answers, h₃.scanAnswers = h.scanAnswers ++ answers ∧
            Ending id cookie (awaitsResults h₂.wifi.scanSlot) m answers) ∧
    ∀ config (h : Hub A R), Reached config h → ∃ now radios metrics,
      Scans (fun _ => True) (blank config now radios metrics) h := by
  refine ⟨fun h h' m hs hnone => ?_, ?_, fun config h hh => ?_⟩
  · exact hs.view.answers_of_none hnone
  · intro h h₁ h₂ h₃ id params cookie m hr hrun hs hnone
    obtain ⟨-, p, hid, hc, hphase, hv⟩ := (requestScan_view id params cookie h).ok hr
    refine (hrun.inFlight ⟨p, hid, hc, ?_⟩).ending hs.view hnone
    rw [hv, if_neg (by simp [hphase]), List.append_nil]
    rfl
  · obtain ⟨past, now, radios, metrics, hl⟩ := hh.lived
    exact ⟨now, radios, metrics, hl.scans⟩

end

/-- A scan that the radio refuses for good is answered once. -/
theorem refused_scan_is_answered_once : ∃ h h₁ h₂ : Hub Script Stations,
    requestScan ⟨1⟩ {} ⟨7⟩ h = .ok (.ok ()) h₁ ∧ ScanStep h₁ (.responded false 1) h₂ ∧
    h₂.wifi.scanSlot = none ∧
    ∃ answers, h₂.scanAnswers = h.scanAnswers ++ answers ∧ answers.length = 1 := by
  have hrun : Ends initialise (blank {} 0 Stations.scripted none : Hub Script Stations) (fun _ h =>
      Ends (requestScan ⟨1⟩ {} ⟨7⟩) h (fun reply h₁ => reply.toBool = true ∧
        h₁.wifi.scanSlot.isSome = true ∧
        Ends (handleScanResponse false 1) h₁ (fun _ h₂ => h₂.wifi.scanSlot = none)
        fun _ _ => False) fun _ _ => False) fun _ _ => False := by decide +kernel
  obtain ⟨_, h, -, hrun⟩ := hrun.exists_ok
  obtain ⟨reply, h₁, hr, hok, hsome, hrun⟩ := hrun.exists_ok
  obtain ⟨_, h₂, hr', hnone⟩ := hrun.exists_ok
  cases reply with
  | error e => cases hok
  | ok u =>
    have hs := ScanStep.response hr'
    obtain ⟨answers, hanswers, hending⟩ :=
      (@scan_answers_counted Script Stations _ _).2.1 h h₁ h₁ h₂ _ _ _ _ hr (.stay hsome) hs hnone
    exact ⟨h, h₁, h₂, hr, hs, hnone, answers, hanswers, (hending.once (by simp)).2 (by simp)⟩

/-- An accepted scan is not always answered once: one that times out after it was acknowledged is
answered twice. -/
theorem acknowledged_scan_is_answered_twice : ¬ ∀ (h h₁ h₂ h₃ : Hub Script Stations)
    id params cookie m, requestScan id params cookie h = .ok (.ok ()) h₁ →
      Scans (·.wifi.scanSlot.isSome = true) h₁ h₂ → ScanStep h₂ m h₃ → h₃.wifi.scanSlot = none →
        (∀ i, m ≠ .unloaded i) →
          ∃ code, h₃.scanAnswers = h.scanAnswers ++ [scanAnswer id code cookie] := by
  intro hclaim
  have hrun : Ends initialise (blank {} 0 Stations.scripted none : Hub Script Stations) (fun _ h =>
      Ends (requestScan ⟨1⟩ {} ⟨7⟩) h (fun reply h₁ =>
        (reply.toBool && h₁.wifi.scanSlot.isSome) = true ∧
        Ends (handleScanResponse true 0) h₁ (fun _ h₂ => h₂.wifi.scanSlot.isSome = true ∧
          Ends (handleScanTimeout ⟨0⟩) h₂ (fun _ h₃ =>
            (h₃.wifi.scanSlot.isNone && h₃.scanAnswers.length == h.scanAnswers.length + 2) = true)
          fun _ _ => False) fun _ _ => False) fun _ _ => False) fun _ _ => False := by decide +kernel
  obtain ⟨_, h, -, hrun⟩ := hrun.exists_ok
  obtain ⟨reply, h₁, hr, hok, hrun⟩ := hrun.exists_ok
  obtain ⟨_, h₂, hr', hsome', hrun⟩ := hrun.exists_ok
  obtain ⟨_, h₃, hr'', hdone⟩ := hrun.exists_ok
  obtain ⟨hok, hsome⟩ := Bool.and_eq_true_iff.1 hok
  obtain ⟨hnone, htwo⟩ := Bool.and_eq_true_iff.1 hdone
  have hnone : h₃.wifi.scanSlot = none := Option.isNone_iff_eq_none.1 hnone
  have htwo := eq_of_beq htwo
  cases reply with
  | error e => cases hok
  | ok u =>
    have hl : Scans (·.wifi.scanSlot.isSome = true) h₁ h₂ :=
      (Scans.stay hsome).snoc (.response hr') hsome'
    obtain ⟨code, hone⟩ := hclaim h h₁ h₂ h₃ _ _ _ _ hr hl (.timeout hr'') hnone (by simp)
    rw [hone, List.length_append] at htwo
    simp at htwo

end ContextHub.Hub
