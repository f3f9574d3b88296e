import ContextHub.Proofs.Hub.Expiries
/-!
# Steps of the scan on demand

All that a scan's requester can tell of it is the slot and the answers that were posted
(`ScanView`). Whatever the manager of scans is told, in whatever order, moves the view by a rule of
`ScanView.Step`; whatever else a hub does leaves it alone.
-/

namespace ContextHub

/-- The answer to a scan on demand that an entry tells of. -/
def Entry.scanAnswer? : Entry → Option Event
  | .handed e accepted => if accepted && e.isScanAnswer then some e else none
  | _ => none

namespace Hub

variable {A R : Type}

/-- The answers to scans on demand that were posted, in order. -/
def scanAnswers (h : Hub A R) : List Event := (h.journal.filterMap Entry.scanAnswer?).reverse

structure ScanView where
  slot : Slot ScanJob
  answers : List Event

def view (h : Hub A R) : ScanView := ⟨h.wifi.scanSlot, h.scanAnswers⟩

def Core.view (c : Core) : ScanView := ⟨c.scan, (c.told.filterMap Entry.scanAnswer?).reverse⟩

theorem core_view (h : Hub A R) : h.core.view = h.view := by
  rw [Core.view, view, scanAnswers, core, List.filterMap_filter]
  congr 2
  refine List.filterMap_congr fun e _ => ?_
  cases e with
  | handed e accepted =>
    rw [Entry.isTold, Entry.scanAnswer?]
    split <;> rfl
  | _ => simp [Entry.scanAnswer?]

/-- What the requester of a scan is answered. -/
def answersTo (p : Pending ScanJob) (code : ErrorCode) : List Event :=
  (p.requester.map (scanAnswer · code p.cookie)).toList

/-- What the manager of scans is told. -/
inductive ScanMove where
  | requested (id : InstanceId) (cookie : Cookie)
  | responded (pending : Bool) (raw : Nat)
  | results
  | retried (x : TimerHandle)
  | expired (x : TimerHandle)
  | unloaded (id : InstanceId)
  /-- Something that is not about scans on demand. -/
  | other

/-- The rules by which the slot and the answers change. -/
inductive ScanView.Step : ScanView → ScanMove → ScanView → Prop
  | idle (v : ScanView) (m : ScanMove) : Step v m v
  | accepted {answers : List Event} {p : Pending ScanJob} {id : InstanceId} {cookie : Cookie}
      (hid : p.requester = some id) (hcookie : p.cookie = cookie)
      (hphase : p.kind.phase = .awaitingResponse) :
      Step ⟨none, answers⟩ (.requested id cookie) ⟨some p, answers⟩
  | acknowledged {answers : List Event} {p : Pending ScanJob} {pending : Bool} {raw : Nat}
      (hphase : p.kind.phase = .awaitingResponse) :
      Step ⟨some p, answers⟩ (.responded pending raw)
        ⟨some { p with kind := { p.kind with phase := .awaitingResults } },
          answers ++ answersTo p .none⟩
  | postponed {answers : List Event} {p : Pending ScanJob} {job : ScanJob} {pending : Bool}
      {raw : Nat} (hphase : p.kind.phase = .awaitingResponse) (hjob : job.phase = .retryScheduled) :
      Step ⟨some p, answers⟩ (.responded pending raw) ⟨some { p with kind := job }, answers⟩
  | refused {answers : List Event} {p : Pending ScanJob} {pending : Bool} {raw : Nat}
      (hphase : p.kind.phase = .awaitingResponse) (code : ErrorCode) :
      Step ⟨some p, answers⟩ (.responded pending raw) ⟨none, answers ++ answersTo p code⟩
  | resumed {answers : List Event} {p : Pending ScanJob} {job : ScanJob} {x : TimerHandle}
      (hphase : p.kind.phase = .retryScheduled) (hjob : job.phase = .awaitingResponse) :
      Step ⟨some p, answers⟩ (.retried x) ⟨some { p with kind := job }, answers⟩
  | rejected {answers : List Event} {p : Pending ScanJob} {x : TimerHandle}
      (hphase : p.kind.phase = .retryScheduled) (code : ErrorCode) :
      Step ⟨some p, answers⟩ (.retried x) ⟨none, answers ++ answersTo p code⟩
  | completed {answers : List Event} {p : Pending ScanJob}
      (hphase : p.kind.phase = .awaitingResults) : Step ⟨some p, answers⟩ .results ⟨none, answers⟩
  | timedOut {answers : List Event} {p : Pending ScanJob} {x : TimerHandle} :
      Step ⟨some p, answers⟩ (.expired x) ⟨none, answers ++ answersTo p .timeout⟩
  | forgotten {answers : List Event} {p : Pending ScanJob} {id : InstanceId} :
      Step ⟨some p, answers⟩ (.unloaded id) ⟨none, answers⟩

/-! ## What leaves the view alone -/

/-- Neither the slot nor the answers change. -/
def unseen : Law A R where
  rel h h' := h'.view = h.view
  halts _ _ _ := True
  refl _ := rfl
  trans h h' := h'.trans h
  halts_of_rel _ _ := trivial

theorem view_eq {h h' : Hub A R} (hscan : h'.core.scan = h.core.scan)
    (htold : h'.core.told = h.core.told) : h'.view = h.view := by
  rw [← core_view, ← core_view, Core.view, hscan, htold, Core.view]

theorem cancelTimer_unseen (owner : InstanceId) (x : TimerHandle) :
    Obeys unseen (cancelTimer owner x : HubM A R Bool) := by
  unfold cancelTimer
  refine .get_bind fun h => ?_
  split
  · exact .pure _
  · exact .bind (.modify fun _ => rfl) fun _ => .pure _

theorem setNanoappTimer_unseen (owner : InstanceId) (duration : Nat) (cookie : Cookie)
    (oneShot : Bool) :
    Obeys unseen (setNanoappTimer owner duration cookie oneShot : HubM A R TimerHandle) := by
  intro h
  refine (setNanoappTimer_ends owner duration cookie oneShot h).mono (fun x h' hx => ?_)
    fun _ _ => False.elim
  rcases hx with ⟨-, hc⟩ | ⟨q, -, hc⟩
  · exact view_eq (by rw [hc]) (by rw [hc])
  · exact view_eq (by rw [hc]) (by rw [hc])

theorem discard_unseen (p : Event → Bool) : Obeys unseen (discard p : HubM A R (List Event)) := by
  intro h
  refine (discard_ends p h).mono (fun out h' hr => ?_) fun _ _ => False.elim
  exact view_eq (by rw [hr.2.2]) (by rw [hr.2.2])

theorem cancelWithExpiries_unseen (id : InstanceId) (x : TimerHandle) :
    Obeys unseen (cancelWithExpiries id x : HubM A R Bool) :=
  .bind (cancelTimer_unseen id x) fun _ => .bind (discard_unseen _) fun _ => .pure _

/-- Something that leaves the view alone, and then more. -/
theorem unseen_bind {α β : Type} {m : HubM A R α} {f : α → HubM A R β} {h : Hub A R}
    {Q : β → Hub A R → Prop} (hm : Obeys unseen m)
    (hf : ∀ a h', h'.view = h.view → Ends (f a) h' Q fun _ _ => True) :
    Ends (m >>= f) h Q fun _ _ => True :=
  hm.andThen (unseen.refl h) (fun _ _ _ => trivial) hf

/-! ## The slot -/

theorem view_some {h : Hub A R} {p : Pending ScanJob} (hs : h.view.slot = some p) :
    h.view = ⟨some p, h.view.answers⟩ := by
  rw [← hs]

theorem setScanJob_view {h : Hub A R} {p : Pending ScanJob} (hs : h.view.slot = some p)
    (job : ScanJob) :
    Ends (setScanJob job) h
      (fun _ h' => h'.view = ⟨some { p with kind := job }, h.view.answers⟩) (fun _ _ => True) := by
  have hslot : Slot.setKind h.wifi.scanSlot job = some { p with kind := job } := by
    rw [show h.wifi.scanSlot = some p from hs]
    rfl
  exact congrArg (ScanView.mk · h.scanAnswers) hslot

theorem vacateScan_view (h : Hub A R) :
    Ends vacateScan h (fun o h' => o = h.view.slot ∧ h'.view = ⟨none, h.view.answers⟩)
      (fun _ _ => True) := by
  unfold vacateScan
  rw [ends_bind, ends_get]
  split
  · rename_i hs
    exact ⟨hs.symm, congrArg (ScanView.mk · h.scanAnswers) hs⟩
  · rename_i p hs
    refine ends_bind.2 (ends_modify.2 (unseen_bind (cancelTimer_unseen _ _) fun _ h₁ hv₁ => ?_))
    have hdone : some p = h.view.slot := hs.symm
    refine ends_ite.2 ?_
    split
    · refine unseen_bind (cancelTimer_unseen _ _) fun _ h₂ hv₂ => ⟨hdone, ?_⟩
      rw [hv₂, hv₁]
      rfl
    · exact ⟨hdone, hv₁⟩

section

variable [Radio R]

theorem unseen_quiet : (quiet : Law A R).Within unseen where
  rel hc := view_eq (congrArg Core.scan hc) (congrArg Core.told hc)
  halts _ := trivial

theorem unseen_manages : (unseen : Law A R).Manages where
  quietly := unseen_quiet
  set duration purpose h := by
    refine (setSystemTimer_ends duration purpose h).mono (fun x h' hx => ?_) fun _ _ _ => trivial
    obtain ⟨q, -, hc⟩ := hx
    exact view_eq (by rw [hc]) (by rw [hc])
  cancel x := cancelTimer_unseen .system x
  wifi f hf := .modify fun h => congrArg (ScanView.mk · h.scanAnswers) (hf h.wifi)
  wwan f := .modify fun _ => rfl
  session k f := .modify fun _ => rfl

/-! ## Answers -/

theorem answerRequester_view (p : Pending ScanJob) (code : ErrorCode) (h : Hub A R) :
    Ends (answerRequester p.requester WifiKind.scan code p.cookie) h
      (fun _ h' => h'.view = ⟨h.view.slot, h.view.answers ++ answersTo p code⟩)
      (fun _ _ => True) := by
  unfold answerRequester answersTo
  cases p.requester with
  | none => exact congrArg (ScanView.mk h.view.slot) (List.append_nil h.view.answers).symm
  | some id =>
    refine (answerScan_ends id code p.cookie h).mono (fun _ h' hc => ?_) fun _ _ _ => trivial
    rw [← core_view, ← core_view, hc]
    have hanswer : Entry.scanAnswer? (.handed (scanAnswer id code p.cookie) true) =
        some (scanAnswer id code p.cookie) := rfl
    simp only [Core.view, List.filterMap_cons_some hanswer, List.reverse_cons, Option.map_some,
      Option.toList_some]

theorem failScan_view {h : Hub A R} {p : Pending ScanJob} (hs : h.view.slot = some p)
    (code : ErrorCode) :
    Ends (failScan code) h
      (fun _ h' => h'.view = ⟨none, h.view.answers ++ answersTo p code⟩) (fun _ _ => True) := by
  refine ends_bind.2 ((vacateScan_view h).mono ?_ fun _ _ _ => trivial)
  rintro o h₁ ⟨rfl, hv₁⟩
  rw [hs]
  refine unseen_bind (unseen_manages.of (countRadioError_quiet _)) fun _ h₂ hv₂ => ?_
  refine (answerRequester_view p code h₂).mono (fun _ h₃ hv₃ => ?_) fun _ _ _ => trivial
  rw [hv₃, hv₂, hv₁]

/-! ## What the manager is told -/

/-- A request is accepted where the slot is empty, and is not answered yet. -/
theorem requestScan_view (id : InstanceId) (params : ScanParams) (cookie : Cookie) (h : Hub A R) :
    Ends (requestScan id params cookie) h
      (fun r h' => match r with
        | .error _ => h'.view = h.view
        | .ok _ => h.view.slot = none ∧ ∃ p : Pending ScanJob, p.requester = some id ∧
            p.cookie = cookie ∧ p.kind.phase = .awaitingResponse ∧
            h'.view = ⟨some p, h.view.answers⟩)
      (fun _ _ => True) := by
  unfold requestScan
  refine unseen_bind (unseen_manages.of wifiCapabilities_quiet) fun _ h₁ hv₁ => ends_ite.2 ?_
  split
  · exact hv₁
  rw [ends_bind, ends_get, ends_ite]
  split
  · exact unseen_bind (unseen_manages.of (emit_quiet _ _ _)) fun _ h₂ hv₂ => hv₂.trans hv₁
  rename_i hfree
  have hnone : h.view.slot = none :=
    hv₁ ▸ Option.not_isSome_iff_eq_none.1 hfree
  rw [ends_ite]
  split
  · exact hv₁
  refine unseen_bind (unseen_manages.of (requestRadio_quiet _)) fun accepted h₂ hv₂ => ends_ite.2 ?_
  split
  · exact hv₂.trans hv₁
  rw [ends_bind, ends_get]
  refine unseen_bind (unseen_manages.set _ _) fun timer h₃ hv₃ => ?_
  have hv : h₃.view = h.view := hv₃.trans (hv₂.trans hv₁)
  have hnone₃ : h₃.wifi.scanSlot = none := (congrArg ScanView.slot hv).trans hnone
  rw [ends_bind, ends_get, hnone₃, ends_bind, occupied_none]
  have hview (p : Pending ScanJob) :
      view { h₃ with wifi := { h₃.wifi with scanSlot := some p } } = ⟨some p, h.view.answers⟩ :=
    congrArg (ScanView.mk _) (congrArg ScanView.answers hv)
  refine ends_bind.2 (ends_modify.2 (ends_pure.2 ⟨hnone, _, ?_, ?_, ?_, hview _⟩))
  · rfl
  · rfl
  · rfl

theorem idle_ends {m : HubM A R Unit} (hm : Obeys Hub.quiet m) (move : ScanMove) (h : Hub A R) :
    Ends m h (fun _ h' => h.view.Step move h'.view) (fun _ _ => True) := by
  refine (unseen_manages.of hm h).mono (fun _ h' hv => ?_) fun _ _ _ => trivial
  rw [show h'.view = h.view from hv]
  exact .idle _ _

theorem handleScanResponse_step (pending : Bool) (raw : Nat) (h : Hub A R) :
    Ends (handleScanResponse pending raw) h
      (fun _ h' => h.view.Step (.responded pending raw) h'.view) (fun _ _ => True) := by
  unfold handleScanResponse
  rw [ends_bind, ends_get]
  dsimp only
  split
  · exact idle_ends (emit_quiet _ _ _) _ h
  · rename_i p hp
    obtain ⟨hs, hphase⟩ := Option.filter_eq_some_iff.1 hp
    have hphase : p.kind.phase = .awaitingResponse := by simpa using hphase
    have hs : h.view.slot = some p := hs
    refine unseen_bind (unseen_manages.of (checkCode_quiet _)) fun _ h₁ hv₁ => ?_
    refine unseen_bind (unseen_manages.wifi _ fun _ => rfl) fun _ h₂ hv₂ => ends_ite.2 ?_
    have hv : h₂.view = h.view := hv₂.trans hv₁
    have hs₂ : h₂.view.slot = some p := hv ▸ hs
    rw [view_some hs, ← hv]
    split
    · refine ends_bind.2 ((setScanJob_view hs₂ _).mono (fun _ h₃ hv₃ => ?_) fun _ _ _ => trivial)
      refine (answerRequester_view p .none h₃).mono (fun _ h₄ hv₄ => ?_) fun _ _ _ => trivial
      rw [hv₄, hv₃]
      exact .acknowledged hphase
    · rw [ends_ite]
      split
      · refine ends_bind.2 ((setScanJob_view hs₂ _).mono (fun _ h₃ hv₃ => ?_) fun _ _ _ => trivial)
        refine unseen_bind (unseen_manages.set _ _) fun x h₄ hv₄ => ?_
        have hs₄ := congrArg ScanView.slot (hv₄.trans hv₃)
        refine ends_bind.2 ((setScanJob_view hs₄ _).mono (fun _ h₅ hv₅ => ?_) fun _ _ _ => trivial)
        refine (unseen_manages.of (emit_quiet _ _ _) h₅).mono (fun _ h₆ hv₆ => ?_)
          fun _ _ _ => trivial
        rw [show h₆.view = h₅.view from hv₆, hv₅, hv₄, hv₃]
        exact .postponed hphase rfl
      · refine (failScan_view hs₂ _).mono (fun _ h₃ hv₃ => ?_) fun _ _ _ => trivial
        rw [hv₃]
        exact .refused hphase _

theorem handleScan_step (scan : Scan) (h : Hub A R) :
    Ends (handleScan scan) h (fun _ h' => h.view.Step .results h'.view) (fun _ _ => True) := by
  unfold handleScan
  rw [ends_bind, ends_get, ends_ite]
  split
  · rename_i hawaits
    obtain ⟨p, hs, hphase⟩ : ∃ p, h.wifi.scanSlot = some p ∧ p.kind.phase = .awaitingResults := by
      unfold awaitsResults at hawaits
      split at hawaits
      · cases hawaits
      · exact ⟨_, ‹_›, by simpa using hawaits⟩
    refine ends_bind.2 ((vacateScan_view h).mono ?_ fun _ _ _ => trivial)
    rintro o h₁ ⟨-, hv₁⟩
    refine (unseen_manages.of (quiet_tells.shareScan_obeys _ _) h₁).mono (fun _ h₂ hv₂ => ?_)
      fun _ _ _ => trivial
    rw [show h₂.view = h₁.view from hv₂, hv₁, view_some hs]
    exact .completed hphase
  · rw [ends_ite]
    split
    · exact idle_ends (quiet_tells.shareScan_obeys _ _) _ h
    · exact idle_ends (emit_quiet _ _ _) _ h

theorem handleScanRetry_step (x : TimerHandle) (h : Hub A R) :
    Ends (handleScanRetry x) h (fun _ h' => h.view.Step (.retried x) h'.view)
      (fun _ _ => True) := by
  unfold handleScanRetry
  rw [ends_bind, ends_get]
  split
  · exact idle_ends (emit_quiet _ _ _) _ h
  · rename_i p hp
    obtain ⟨hs, hcurrent⟩ := Option.filter_eq_some_iff.1 hp
    have hphase : p.kind.phase = .retryScheduled := by simp at hcurrent; exact hcurrent.1
    have hs : h.view.slot = some p := hs
    refine ends_bind.2 ((setScanJob_view hs _).mono (fun _ h₁ hv₁ => ?_) fun _ _ _ => trivial)
    refine unseen_bind (unseen_manages.of (requestRadio_quiet _)) fun _ h₂ hv₂ => ends_ite.2 ?_
    have hs₂ := congrArg ScanView.slot (hv₂.trans hv₁)
    rw [view_some hs]
    split
    · refine (setScanJob_view hs₂ _).mono (fun _ h₃ hv₃ => ?_) fun _ _ _ => trivial
      rw [hv₃, hv₂, hv₁]
      exact .resumed hphase rfl
    · refine (failScan_view hs₂ _).mono (fun _ h₃ hv₃ => ?_) fun _ _ _ => trivial
      rw [hv₃, hv₂, hv₁]
      exact .rejected hphase _

theorem handleScanTimeout_step (x : TimerHandle) (h : Hub A R) :
    Ends (handleScanTimeout x) h (fun _ h' => h.view.Step (.expired x) h'.view)
      (fun _ _ => True) := by
  unfold handleScanTimeout
  rw [ends_bind, ends_get, ends_ite]
  split
  · rename_i htimed
    obtain ⟨p, hs⟩ : ∃ p, h.wifi.scanSlot = some p := by
      unfold Slot.isTimedBy at htimed
      split at htimed
      · cases htimed
      · exact ⟨_, ‹_›⟩
    refine unseen_bind (unseen_manages.of (emit_quiet _ _ _)) fun _ h₁ hv₁ => ?_
    refine unseen_bind (unseen_manages.wifi _ fun _ => rfl) fun _ h₂ hv₂ => ?_
    have hv : h₂.view = h.view := hv₂.trans hv₁
    have hs₂ : h₂.view.slot = some p := hv ▸ hs
    refine (failScan_view hs₂ _).mono (fun _ h₃ hv₃ => ?_) fun _ _ _ => trivial
    rw [hv₃, hv, view_some hs]
    exact .timedOut
  · exact idle_ends (emit_quiet _ _ _) _ h

theorem forgetWifi_step (id : InstanceId) (h : Hub A R) :
    Ends (forgetWifi id) h (fun _ h' => h.view.Step (.unloaded id) h'.view) (fun _ _ => True) := by
  unfold forgetWifi
  have hranging (h₁ : Hub A R) : Ends (forgetRanging id) h₁ (fun _ h' => h'.view = h₁.view)
      (fun _ _ => True) :=
    unseen_manages.tends.forgetRanging_obeys
      (unseen_manages.of quiet_watches.reconcileMonitor_obeys) id h₁
  refine unseen_bind (unseen_manages.wifi _ fun _ => rfl) fun _ h₁ hv₁ => ?_
  rw [ends_bind, ends_get, ends_ite]
  split
  · rename_i howned
    obtain ⟨p, hs⟩ : ∃ p, h₁.wifi.scanSlot = some p := by
      unfold Slot.isOwnedBy at howned
      split at howned
      · cases howned
      · exact ⟨_, ‹_›⟩
    refine ends_bind.2 ((vacateScan_view h₁).mono ?_ fun _ _ _ => trivial)
    rintro o h₂ ⟨-, hv₂⟩
    refine unseen_bind (unseen_manages.of (emit_quiet _ _ _)) fun _ h₃ hv₃ => ?_
    refine (hranging h₃).mono (fun _ h₄ hv₄ => ?_) fun _ _ _ => trivial
    rw [hv₄, hv₃, hv₂, ← hv₁, view_some hs]
    exact .forgotten
  · refine (hranging h₁).mono (fun _ h₂ hv₂ => ?_) fun _ _ _ => trivial
    rw [hv₂, hv₁]
    exact .idle _ _

end

end Hub

end ContextHub
