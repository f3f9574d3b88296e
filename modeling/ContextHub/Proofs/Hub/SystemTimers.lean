import ContextHub.Proofs.Hub.Expiries
import ContextHub.Proofs.Hub.Hosting
import ContextHub.Proofs.Hub.SettlingRequests
import ContextHub.Simulation.World
/-!
# Timers of the system

As long as handles are left, a hub is settled between any two tasks, whatever its host, its nanoapps
and its radios do. So at most six timers of the system are set at any time, and where the system may
have as many, a manager never fails to set one.
-/

namespace ContextHub.Hub

open TimerPool ContextHub.Hub.Core

variable {A R : Type}

/-! ## Tidy hubs -/

/-- What holds between two tasks. -/
structure Core.Tidy (c : Core) : Prop where
  coherent : c.timers.Coherent
  foreign : .system ∉ c.ids
  numbered : c.nextId ≠ 0
  settled : c.timers.HandlesLeft → c.Settled

namespace Core

variable {c c' : Core} {q : TimerPool}

theorem Tidy.good (h : c.Tidy) (hl : c.timers.HandlesLeft) : c.Good c.timers.limits.system :=
  ⟨h.coherent, hl, rfl, h.settled hl⟩

theorem Tidy.same (h : c.Tidy) (htimers : c'.timers = c.timers) (hids : ∀ i ∈ c'.ids, i ∈ c.ids)
    (hnext : c'.nextId = c.nextId) (hqueued : c'.queued = c.queued) (hscan : c'.scan = c.scan)
    (hawaited : ∀ u, c'.awaited u = c.awaited u) : c'.Tidy where
  coherent := htimers ▸ h.coherent
  foreign hs := h.foreign (hids _ hs)
  numbered := hnext ▸ h.numbered
  settled hl := ((h.good (htimers ▸ hl)).same htimers hqueued hscan hawaited).settled

/-- Timers of nanoapps come and go. -/
theorem Tidy.others (h : c.Tidy) (hq : q.Coherent)
    (hsystem : ∀ r, r.purpose.isSome = true → (r ∈ q.requests ↔ r ∈ c.timers.requests))
    (hleft : q.HandlesLeft → c.timers.HandlesLeft ∧ c.timers.issued ≤ q.issued ∧
      ∀ r ∈ q.requests, r ∈ c.timers.requests ∨ r.handle.val = c.timers.issued) :
    Tidy { c with timers := q } where
  coherent := hq
  foreign := h.foreign
  numbered := h.numbered
  settled hl := by
    obtain ⟨hl, hissued, hnew⟩ := hleft hl
    exact ⟨(h.settled hl).toTracked.others hsystem hnew hissued, (h.settled hl).idle⟩

theorem Tidy.shed (h : c.Tidy) {out : TimerRequest → Bool} (hs : Sheds c.timers out q)
    (hout : ∀ r, out r = true → r.owner.isSystem = false) : Tidy { c with timers := q } := by
  refine h.others hs.coherent (fun r hr => ?_) fun hl => ⟨hs.kept.handlesLeft.1 hl, ?_, ?_⟩
  · rw [hs.mem]
    refine and_iff_left_of_imp fun hm => ?_
    by_contra ho
    have := hout r (by simpa using ho)
    rw [h.coherent.owned r hm, hr] at this
    cases this
  · exact Nat.le_of_eq hs.kept.issued.symm
  · exact fun r hr => .inl (hs.mem.1 hr).1

end Core

theorem blank_tidy (config : Config) (now : Nat) (radios : R) (metrics : Option Metrics) :
    Tidy (core (blank config now radios metrics : Hub A R)) where
  coherent := coherent_empty config.timers
  foreign := List.not_mem_nil
  numbered := Nat.one_ne_zero
  settled _ := by
    have hnone (u : TimerPurpose) :
        (core (blank config now radios metrics : Hub A R)).awaited u = none := by cases u <;> rfl
    refine ⟨⟨?_, ?_, ?_, List.nodup_nil, ?_, ?_⟩, ?_⟩
    · exact fun r hr => absurd hr List.not_mem_nil
    · rintro x u ⟨r, hr, -⟩
      exact absurd hr List.not_mem_nil
    · intro x u hx
      rw [hnone] at hx
      cases hx
    · exact fun e he => absurd he List.not_mem_nil
    · exact fun x hx => absurd hx List.not_mem_nil
    · exact fun p hs => by cases hs

/-! ## The law -/

/-- A tidy hub stays tidy, and where the system may have six timers, no manager fails to set one. -/
def settling [Radio R] : Law A R where
  rel h h' := h.core.Tidy → h'.core.Tidy ∧ h'.timers.limits = h.timers.limits ∧
    (h'.timers.HandlesLeft → h.timers.HandlesLeft)
  halts h e h' := h.core.Tidy → h'.timers.HandlesLeft → 6 ≤ h.timers.limits.system → Mild R e
  refl _ ht := ⟨ht, rfl, id⟩
  trans h h' ht :=
    have ⟨ht', hn, hl⟩ := h ht
    have ⟨ht'', hn', hl'⟩ := h' ht'
    ⟨ht'', hn'.trans hn, hl ∘ hl'⟩
  halts_of_rel h h' ht hl hn :=
    have ⟨ht', hn', _⟩ := h ht
    h' ht' hl (hn' ▸ hn)

theorem settling_of_timers [Radio R] {h h' : Hub A R} (htimers : h'.timers = h.timers)
    (ht : h.core.Tidy → h'.core.Tidy) : settling.rel h h' :=
  fun h => ⟨ht h, by rw [htimers], by rw [htimers]; exact id⟩

theorem Task.eq_of_expired? {t : Task} {x : TimerHandle} {u : TimerPurpose}
    (h : t.expired? = some (x, u)) : t = .deferred (.timerExpired x u) := by
  unfold Task.expired? at h
  split at h
  · cases h
    rfl
  · cases h

theorem queued_others (p : Event → Bool) (ts : List Task) :
    (Queue.others p ts).filterMap Task.expired? = ts.filterMap Task.expired? := by
  induction ts with
  | nil => rfl
  | cons t ts ih =>
    unfold Queue.others at *
    cases t with
    | event e =>
      cases hp : p e with
      | true => rw [List.filter_cons_of_neg (by simp [hp]), ih, List.filterMap_cons_none rfl]
      | false =>
        rw [List.filter_cons_of_pos (by simp [hp]), List.filterMap_cons_none rfl, ih,
          List.filterMap_cons_none rfl]
    | deferred c => rw [List.filter_cons_of_pos rfl, List.filterMap_cons, List.filterMap_cons, ih]

variable [Radio R] {α : Type}

/-- A step that leaves nanoapps alone and settles, from a hub like a tidy one. -/
theorem settling_ends {m : HubM A R α} {h h₁ : Hub A R} (htimers : h₁.timers = h.timers)
    (hids : h₁.core.ids = h.core.ids) (hnext : h₁.core.nextId = h.core.nextId) (ha : Obeys aside m)
    (hs : h.core.Tidy → h.timers.HandlesLeft → Ends m h₁ (fun _ h' => h'.core.Settled)
      (fun e _ => 6 ≤ h.timers.limits.system → Mild R e)) :
    Ends m h₁ (fun _ => settling.rel h) (settling.halts h) := by
  have hside {h' : Hub A R} (hr : h₁.timers.Coherent → h₁.core.Aside h'.core) (ht : h.core.Tidy)
      (hsettled : h'.timers.HandlesLeft → h'.core.Settled) :
      h'.core.Tidy ∧ h'.timers.limits = h.timers.limits ∧
        (h'.timers.HandlesLeft → h.timers.HandlesLeft) := by
    have hr := hr (htimers ▸ ht.coherent)
    refine ⟨⟨hr.coherent, ?_, ?_, hsettled⟩, htimers ▸ hr.limits,
      fun hl => htimers ▸ (hr.handles hl).1⟩
    · rw [hr.ids, hids]
      exact ht.foreign
    · rw [hr.nextId, hnext]
      exact ht.numbered
  have hleft {h' : Hub A R} (hr : h₁.timers.Coherent → h₁.core.Aside h'.core) (ht : h.core.Tidy)
      (hl : h'.timers.HandlesLeft) : h.timers.HandlesLeft :=
    htimers ▸ ((hr (htimers ▸ ht.coherent)).handles hl).1
  by_cases hg : h.core.Tidy ∧ h.timers.HandlesLeft
  · refine ((ha h₁).and (hs hg.1 hg.2)).mono (fun _ h' hr ht => ?_) fun e h' he _ _ => he.2
    exact hside hr.1 ht fun _ => hr.2
  · refine (ha h₁).mono (fun _ h' hr ht => ?_) fun e h' he ht hl _ => ?_
    · exact hside hr ht fun hl => absurd ⟨ht, hleft hr ht hl⟩ hg
    · exact absurd ⟨ht, hleft he ht hl⟩ hg

theorem settling_of {m : HubM A R α} (ha : Obeys aside m) (hs : Settles m) : Obeys settling m :=
  fun h => settling_ends rfl rfl rfl ha fun ht hl => hs _ h (ht.good hl)

theorem settling_quiet : (quiet : Law A R).Within settling where
  rel hc := settling_of_timers (congrArg Core.timers hc) fun ht => hc ▸ ht
  halts hc _ _ _ := hc.2

/-! ## Calls of nanoapps -/

theorem setNanoappTimer_settling (owner : InstanceId) (duration : Nat) (cookie : Cookie)
    (oneShot : Bool) :
    Obeys settling (setNanoappTimer owner duration cookie oneShot : HubM A R TimerHandle) := by
  intro h
  refine (setNanoappTimer_ends owner duration cookie oneShot h).mono (fun x h' hx => ?_)
    fun _ _ => False.elim
  rcases hx with ⟨-, hc⟩ | ⟨q, hq, hc⟩
  · exact settling_quiet.rel hc
  · intro ht
    have hp : h.timers.Coherent := ht.coherent
    have ha := set_eq_ok hp hq
    have hq' : h'.timers = q := congrArg Core.timers hc
    rw [hq', hc]
    refine ⟨ht.others ha.coherent (fun r hr => ?_) fun hl => ?_, ha.limits, fun hl => ?_⟩
    · rw [ha.mem]
      refine or_iff_right fun e => ?_
      rw [e] at hr
      cases hr
    · obtain ⟨hl, hv, hi⟩ := ha.unwrapped hl.1
      refine ⟨hl, by rw [hi]; exact Nat.le_succ _, fun r hr => ?_⟩
      rcases ha.mem.1 hr with rfl | hr
      · exact .inr hv
      · exact .inl hr
    · exact (ha.unwrapped hl.1).1

theorem discard_settling (p : Event → Bool) :
    Obeys settling (discard p : HubM A R (List Event)) := by
  intro h
  refine (discard_ends p h).mono (fun out h' hr => ?_) fun _ _ => False.elim
  refine settling_of_timers (congrArg Core.timers hr.2.2) fun ht => ?_
  rw [hr.2.2]
  exact ht.same rfl (fun _ => id) rfl (queued_others _ _) rfl fun u => by cases u <;> rfl

/-- A nanoapp, which is not the system, cancels no timer of the system. -/
theorem cancelWithExpiries_settling {id : InstanceId} (hid : id ≠ .system) (x : TimerHandle) :
    Obeys settling (cancelWithExpiries id x : HubM A R Bool) := by
  have hcancel : Obeys settling (cancelTimer id x : HubM A R Bool) := by
    intro h
    by_cases hp : h.timers.Coherent
    · refine (cancelTimer_ends id x h hp).mono (fun b h' hb ht => ?_) fun _ _ => False.elim
      obtain ⟨-, q, hs, rfl⟩ := hb
      refine ⟨ht.shed hs fun r hr => ?_, hs.kept.limits, hs.kept.handlesLeft.1⟩
      rw [Bool.and_eq_true] at hr
      rw [eq_of_beq hr.2]
      exact beq_eq_false_iff_ne.2 hid
    · unfold Ends
      split <;> exact fun ht => absurd ht.coherent hp
  exact .bind hcancel fun _ => .bind (discard_settling _) fun _ => .pure _

theorem settling_requests : (settling : Law A R).Requests where
  quietly := settling_quiet
  scan _ _ _ :=
    settling_of (aside_scans.serves.requestScan_obeys trivial _ _) (requestScan_settles _ _ _)
  ranging _ _ _ :=
    settling_of (aside_scans.serves.requestRanging_obeys trivial _ _) (requestRanging_settles _ _ _)
  cellInfo _ _ :=
    settling_of (aside_scans.serves.requestCellInfo_obeys trivial _) (requestCellInfo_settles _ _)
  session _ _ _ _ :=
    settling_of (aside_scans.serves.controlSession_obeys _ trivial _)
      (controlSession_settles _ _ _ _)

theorem settling_runs : (settling : Law A R).Runs where
  quietly := settling_quiet
  perform id c hid := by
    by_cases hc : c.isTimerCall = true
    · cases c with
      | setTimer => exact setNanoappTimer_settling _ _ _ _
      | cancelTimer => exact cancelWithExpiries_settling hid _
      | _ => cases hc
    · exact settling_requests.perform_obeys id c (Bool.eq_false_iff.2 hc)
  nobody hs := ⟨fun _ ht => absurd hs ht.foreign, fun _ _ ht => absurd hs ht.foreign⟩

/-! ## Reports and expiries -/

theorem handleReport_settles (r : Report) : Settles (handleReport r : HubM A R Unit) := by
  cases r with
  | wifi r =>
    cases r with
    | monitorStatus => exact .of_quiet (quiet_watches.handleMonitorStatus_obeys _ _)
    | scanResponse => exact handleScanResponse_settles _ _
    | scan => exact handleScan_settles _
    | ranging => exact handleRanging_settles _ _
  | wwan r => exact handleCellReport_settles r
  | gnss r => exact handleGnssReport_settles r

theorem handleSystemTimer_settles {n : Nat} {h : Hub A R} {x : TimerHandle} {u : TimerPurpose}
    (hg : h.core.Serving n (x, u)) :
    Ends (handleSystemTimer x u) h (fun _ h' => h'.core.Settled) (fun e _ => 6 ≤ n → Mild R e) := by
  cases u with
  | wifiScanRetry => exact handleScanRetry_settles hg
  | wifiScanTimeout => exact handleScanTimeout_settles hg
  | wifiRangingTimeout => exact handleRangingTimeout_settles hg
  | wwanCellInfoTimeout => exact handleCellTimeout_settles hg
  | gnssLocationTimeout => exact handleSessionTimeout_settles (k := .location) hg
  | gnssMeasurementTimeout => exact handleSessionTimeout_settles (k := .measurement) hg

/-! ## Hosts -/

theorem releaseResources_settling {id : InstanceId} (hid : id ≠ .system) :
    Obeys settling (releaseResources id : HubM A R Unit) := by
  have hquiet {α : Type} {m : HubM A R α} (hm : Obeys quiet m) : Obeys settling m :=
    hm.within settling_quiet
  have hcancel : Obeys settling (cancelTimersOf id : HubM A R Nat) := by
    intro h
    by_cases hp : h.timers.Coherent
    · refine (cancelTimersOf_ends id h hp).mono (fun b h' hb ht => ?_) fun _ _ => False.elim
      obtain ⟨q, hs, hc⟩ := hb
      have hq : h'.timers = q := congrArg Core.timers hc
      rw [hq, hc]
      refine ⟨ht.shed hs fun r hr => ?_, hs.kept.limits, hs.kept.handlesLeft.1⟩
      rw [eq_of_beq hr]
      exact beq_eq_false_iff_ne.2 hid
    · unfold Ends
      split <;> exact fun ht => absurd ht.coherent hp
  refine releaseResources_obeys settling_quiet hcancel ?_ ?_ ?_ (discard_settling _) fun h => ?_
  · exact settling_of (aside_scans.serves.forgetWifi_obeys id) (forgetWifi_settles id)
  · exact settling_of (aside_scans.serves.forgetWwan_obeys id) (forgetWwan_keeps id).settles
  · have hforget (k : SessionKind) : Obeys settling (forgetSession k id : HubM A R Unit) :=
      settling_of (aside_scans.serves.forgetSession_obeys k id) (forgetSession_settles k id)
    exact .bind (hforget _) fun _ => hforget _
  · refine settling_of_timers rfl fun ht => ?_
    refine ht.same rfl (fun i hi => ?_) rfl rfl rfl fun u => by cases u <;> rfl
    exact ((List.filter_sublist).map _).subset hi

theorem queued_notices (l : List TimerRequest) :
    (l.map (·.notice)).filterMap Task.expired? = l.filterMap told? := by
  rw [List.filterMap_map]
  refine List.filterMap_congr fun r _ => ?_
  simp only [Function.comp_apply, TimerRequest.notice, told?]
  cases r.purpose <;> rfl

theorem filterMap_told (l : List TimerRequest) :
    l.filterMap told? = (l.filter (·.purpose.isSome)).filterMap told? := by
  rw [List.filterMap_filter]
  refine List.filterMap_congr fun r _ => ?_
  cases hu : r.purpose <;> simp [told?, hu]

theorem tick_settling : Obeys settling (tick : HubM A R Nat) := by
  intro h
  by_cases hp : h.timers.Coherent
  · refine (tick_ends h hp).mono (fun _ h' hr ht => ?_) fun e h' he _ _ _ => he.1
    obtain ⟨kept, q, lost, hs, -, hsome, hc⟩ := hr
    have hpool : h'.timers = { q.rearm h.now with lost } := congrArg Core.timers hc
    obtain ⟨hlimits, hlast, hwrapped⟩ := hs.kept
    have hleft : h'.timers.HandlesLeft → h.timers.HandlesLeft := by
      rw [hpool, HandlesLeft, HandlesLeft, ← hlast, ← hwrapped]
      exact id
    have hqueued : h'.core.queued = h.core.queued ++ h.dueNow.filterMap told? := by
      rw [hc, filterMap_told, ← hsome, ← filterMap_told, ← queued_notices]
      exact List.filterMap_append
    refine ⟨⟨?_, ?_, ?_, fun hl => ?_⟩, ?_, hleft⟩
    · show h'.timers.Coherent
      rw [hpool]
      exact (hs.coherent.rearm h.now).hush (q.rearm h.now).hardware lost
    · rw [hc]
      exact ht.foreign
    · rw [hc]
      exact ht.numbered
    · have hl := hleft hl
      refine ⟨(ht.settled hl).toTracked.tick hp hs (by rw [hc]; rfl) (by rw [hc]; rfl) hqueued
        (fun u => ?_) hl.1, ?_⟩
      · rw [hc]
        cases u <;> rfl
      · rw [hc]
        exact (ht.settled hl).idle
    · rw [hpool]
      exact hlimits
  · unfold Ends
    split <;> exact fun ht => absurd ht.coherent hp

theorem settling_take {h : Hub A R} {e : Event} {q : Queue}
    (hq : h.queue.next? = some (.event e, q)) : settling.rel h { h with queue := q } := by
  refine settling_of_timers rfl fun ht => ?_
  refine ht.same rfl (fun _ => id) rfl ?_ rfl fun u => by cases u <;> rfl
  simp only [queued, core, next?_tasks hq, List.filter_cons]
  split <;> rfl

theorem settling_note (h : Hub A R) (e : Entry) :
    settling.rel h { h with journal := e :: h.journal } :=
  settling_of_timers rfl fun ht => ht.same rfl (fun _ => id) rfl rfl rfl fun u => by cases u <;> rfl

theorem settling_hosts [Behaviour A] : (settling : Law A R).Hosts where
  toRuns := settling_runs
  clock h t := settling_of_timers rfl fun ht =>
    ht.same rfl (fun _ => id) rfl rfl rfl fun u => by cases u <;> rfl
  alarm h := fun ht => by
    refine ⟨ht.others (ht.coherent.hush .off _) (fun _ _ => .rfl) fun hl => ?_, rfl, id⟩
    exact ⟨hl, Nat.le_refl _, fun _ => .inl⟩
  register := by
    intro h app permissions behaviour id registry hr
    obtain ⟨hids, hnext⟩ := register_eq_ok hr
    refine settling_of_timers rfl fun ht => ⟨ht.coherent, fun hs => ?_, (hnext ht.numbered).2, ?_⟩
    · rcases (hids _).1 hs with hs | hs
      · exact (hnext ht.numbered).1 hs.symm
      · exact ht.foreign hs
    · intro hl
      have hg : Good _ (core { h with registry }) := (ht.good hl).same rfl rfl rfl
        fun u => by cases u <;> rfl
      exact hg.settled
  release _ := releaseResources_settling
  tick := tick_settling
  report r := settling_of (aside_scans.serves.handleReport_obeys r) (handleReport_settles r)
  expiry := by
    intro h h₁ x u q hq hc
    have ht : h₁.timers = h.timers := (congrArg Core.timers hc :)
    refine settling_ends ht (by rw [hc]; rfl) (by rw [hc]; rfl)
      (aside_scans.serves.handleSystemTimer_obeys x u) fun hg hl => ?_
    have hset := hg.settled hl
    rw [← ht] at hl
    refine handleSystemTimer_settles ⟨?_, hl, congrArg (·.limits.system) ht, ?_, ?_⟩
    · rw [hc]
      exact hg.coherent
    · refine hset.take (by rw [hc]; rfl) ?_ fun u => ?_
      · rw [hc]
        simp only [queued, core, next?_tasks hq, List.filter_cons, Task.isExpiry, ↓reduceIte,
          List.filterMap_cons, Task.expired?]
      · rw [hc]
        cases u <;> rfl
    · rw [hc]
      exact hset.idle
  notice := by
    intro h e q he hq
    refine (deliver_obeys settling_runs fun watched d time hd => ?_).after (settling_take hq)
    exact .modify fun h => settling_note h _

/-! ## Faults -/

/-- What is said when a timer of the system cannot be set. -/
def timerFault (purpose : TimerPurpose) (err : TimerError) : String :=
  s!"Failed to set system timer for {purpose.name}: {err.message}"

theorem timerFault_eq (purpose : TimerPurpose) (err : TimerError) : timerFault purpose err =
    "Failed to set system timer for " ++ (purpose.name ++ ": " ++ err.message) := by
  unfold timerFault
  rw [String.append_assoc, String.append_assoc, String.append_assoc]
  rfl

/-- Texts that differ before they go on differ. -/
theorem append_ne {a c : String} (i : Nat) (ha : i < a.toList.length) (hc : i < c.toList.length)
    (hne : a.toList[i] ≠ c.toList[i]) (b d : String) : a ++ b ≠ c ++ d := by
  intro h
  have hi := congrArg (·[i]?) (congrArg String.toList h)
  simp only [String.toList_append, List.getElem?_append_left ha, List.getElem?_append_left hc,
    List.getElem?_eq_getElem ha, List.getElem?_eq_getElem hc, Option.some.injEq] at hi
  exact hne hi

/-- Only a radio can halt a hub in the words of a timer that could not be set. -/
theorem Mild.radio_of_timerFault {purpose : TimerPurpose} {err : TimerError} {e : Halt}
    (h : Mild R e) (he : e = .fatal (timerFault purpose err)) :
    ∃ (now : Nat) (q : RadioRequest) (r : R),
      Radio.request now q r = .error (timerFault purpose err) := by
  rw [timerFault_eq] at he
  cases h with
  | endless => cases he
  | post fault =>
    have hne (x : String) : s!"Failed to post critical event: {fault.message}" ≠
        "Failed to set system timer for " ++ x := by
      simp only [toString]
      exact append_ne 10 (by decide) (by decide) (by decide) _ _
    exact absurd (Halt.fatal.inj he) (hne _)
  | defer c =>
    have hne (x : String) : s!"Failed to defer {c.kind} callback" ≠
        "Failed to set system timer for " ++ x := by
      simp only [toString, String.append_assoc]
      exact append_ne 10 (by decide) (by decide) (by decide) _ _
    exact absurd (Halt.fatal.inj he) (hne _)
  | occupied =>
    have hne (x : String) : Slot.occupiedFault ≠ "Failed to set system timer for " ++ x := by
      rw [← String.append_empty (s := Slot.occupiedFault)]
      exact append_ne 0 (by decide) (by decide) (by decide) _ _
    exact absurd (Halt.fatal.inj he) (hne _)
  | @radio now q r message h =>
    exact ⟨now, q, r, by rw [timerFault_eq, ← Halt.fatal.inj he]; exact h⟩

/-! ## What is reached -/

/-- Timers of the system and requests in flight correspond in whatever is reached, so there are at
most six, and where there may be six no turn halts because one more could not be set. -/
theorem system_timers_accounted [Behaviour A] {config : Config} {h : Hub A R}
    (hr : Reached config h) :
    (h.timers.HandlesLeft →
      (∀ r ∈ h.timers.requests, r.owner.isSystem = true → ∃! u, h.core.awaited u = some r.handle) ∧
      (∀ u x, h.core.awaited u = some x →
        (∃ r ∈ h.timers.requests, r.handle = x ∧ r.owner.isSystem = true ∧ r.purpose = some u) ∨
          .deferred (.timerExpired x u) ∈ h.queue.tasks) ∧
      (∀ p, h.wifi.scanSlot = some p → p.kind.phase ≠ .retryScheduled →
        p.kind.retryTimer = .invalid) ∧
      h.timers.systemCount ≤ 6) ∧
    ∀ (t : Turn A R) e h', t.run h = .error e h' → h'.timers.HandlesLeft →
      6 ≤ config.timers.system → ∀ purpose err, e = .fatal (timerFault purpose err) →
        ∃ (now : Nat) (q : RadioRequest) (r : R),
          Radio.request now q r = .error (timerFault purpose err) := by
  obtain ⟨now, radios, metrics, hrel⟩ := hr.within settling_hosts
  obtain ⟨ht, hlimits, -⟩ := hrel (blank_tidy config now radios metrics)
  have hp := ht.coherent
  constructor
  · intro hl
    have hs := ht.settled hl
    refine ⟨?_, ?_, hs.idle, hs.systemCount_le hp⟩
    · intro r hm ho
      obtain ⟨u, hu⟩ := Option.isSome_iff_exists.1 ((hp.owned r hm).symm.trans ho)
      have hx := (hs.sound r.handle u ⟨r, hm, rfl, hu⟩).resolve_right List.not_mem_nil
      exact ⟨u, hx, fun u' hx' => hs.awaited_inj hp hx' hx⟩
    · intro u x hx
      refine (hs.complete x u hx).imp ?_ fun hm => ?_
      · rintro ⟨r, hm, hh, hu⟩
        exact ⟨r, hm, hh, (hp.owned r hm).trans (by rw [hu]; rfl), hu⟩
      · obtain ⟨t, hm, he⟩ := List.mem_filterMap.1 hm
        rw [← Task.eq_of_expired? he]
        exact (List.mem_filter.1 hm).1
  · intro t e h' he hl hn purpose err hfault
    have hlimits : h.timers.limits = config.timers := hlimits
    have hmild := (t.obeys settling_hosts h).error he ht hl (hlimits ▸ hn)
    exact hmild.radio_of_timerFault hfault

/-- A scan that is in flight has one timer of the system. -/
theorem scan_has_one_timer : ∃ h : Hub Script Stations, Reached {} h ∧ h.timers.HandlesLeft ∧
    h.timers.systemCount = 1 ∧ h.wifi.scanSlot.isSome = true ∧ h.timers.systemCount ≤ 6 := by
  obtain ⟨h, hr, hl, hone, hscan⟩ := reached_of_ends (A := Script) {} 0 Stations.scripted none
    [.load ⟨1⟩ { wifi := true } { start := [.scan {} ⟨7⟩] }]
    (P := fun h => h.timers.HandlesLeft ∧ h.timers.systemCount = 1 ∧ h.wifi.scanSlot.isSome = true)
    (by decide +kernel)
  exact ⟨h, hr, hl, hone, hscan, ((system_timers_accounted hr).1 hl).2.2.2⟩

end ContextHub.Hub
