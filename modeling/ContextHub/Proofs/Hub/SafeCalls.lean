import ContextHub.Config.Validate
import ContextHub.Proofs.Hub.Course
import ContextHub.Proofs.Hub.Deliveries
import ContextHub.Proofs.Hub.SystemTimers
/-!
# Calls that are safe

With radios that answer and no more, a hub survives whatever nanoapps call, except for one thing: a
request for what a radio already does is answered at once, and the answer may find no room in the
queue (`AtOnce`). Any other call that needs what is used up (`Exhausted`) is refused. `perform_safe`
says so of one call, and a program proceeds from call to call (`Proceeds`).
-/

namespace ContextHub

/-! ## Radios that report nothing by themselves -/

/-- From states in `S` on, radios accept or refuse every request, and report nothing with it. -/
def Radio.Scripted {R : Type} [Radio R] (S : R → Prop) : Prop :=
  ∀ (now : Nat) (q : RadioRequest) (r : R), S r →
    ∃ reaction, Radio.request now q r = .ok reaction ∧ reaction.reports = [] ∧ S reaction.next

/-- Whether a station reports only what it is told to. -/
def Station.isScripted : Station → Bool
  | simulated s => s.chaos.isNone
  | _ => true

namespace Stations

def isScripted (s : Stations) : Bool :=
  s.wifi.isScripted && s.wwan.isScripted && s.gnss.isScripted

theorem isScripted_get {s : Stations} (hs : s.isScripted = true) (d : Device) :
    (s.get d).isScripted = true := by
  simp only [isScripted, Bool.and_eq_true] at hs
  cases d
  · exact hs.1.1
  · exact hs.1.2
  · exact hs.2

theorem isScripted_set {s : Stations} (hs : s.isScripted = true) (d : Device) {station : Station}
    (h : station.isScripted = true) : (s.set d station).isScripted = true := by
  simp only [isScripted, Bool.and_eq_true] at hs
  cases d <;> simp [isScripted, set, hs, h]

end Stations

theorem Station.request_scripted (now : Nat) (q : RadioRequest) {s : Station}
    (hs : s.isScripted = true) : ∃ reaction, s.request now q = .ok reaction ∧
      reaction.reports = [] ∧ reaction.next.isScripted = true := by
  cases s with
  | absent => exact ⟨_, rfl, rfl, rfl⟩
  | recording => exact ⟨_, rfl, rfl, rfl⟩
  | simulated s =>
    have hnone : s.chaos = none := Option.isNone_iff_eq_none.1 hs
    by_cases hrefusing : s.refusing = true
    · refine ⟨{ accepted := false, next := .simulated s }, ?_, rfl, hs⟩
      simp only [request, Simulated.request, hrefusing, ↓reduceIte]
      rfl
    · refine ⟨{ accepted := true, next := .simulated { s with history := q :: s.history } }, ?_,
        rfl, hs⟩
      simp only [request, Simulated.request, hrefusing, hnone, Bool.false_eq_true, ↓reduceIte]
      rfl

theorem Stations.scripted_request : Radio.Scripted fun s : Stations => s.isScripted = true := by
  intro now q s hs
  obtain ⟨reaction, hr, hreports, hnext⟩ :=
    Station.request_scripted now q (isScripted_get hs q.device)
  refine ⟨_, congrArg (Except.map _) hr, hreports, isScripted_set hs _ hnext⟩

/-! ## Room in the queue -/

namespace Queue

/-- Whether one more task would be accepted. -/
def hasRoom (q : Queue) : Bool :=
  decide (q.reserved < q.capacity) && !q.closed && decide (q.inbox.length < q.capacity)

theorem hasRoom_of_ok {q q' : Queue} {t : Task} (h : q.offer t = .ok q') : q.hasRoom = true := by
  unfold offer at h
  split at h
  · split at h
    · cases h
    · split at h
      · simp_all [hasRoom]
      · cases h
  · cases h

theorem hasRoom_of_error {q : Queue} {t : Task} {e : QueueError} (h : q.offer t = .error e) :
    q.hasRoom = false := by
  unfold offer at h
  split at h
  · split at h
    · simp_all [hasRoom]
    · split at h
      · cases h
      · simp_all [hasRoom]
  · rename_i hfull
    simp [hasRoom, hfull]

end Queue

/-- What is said when a result finds no room. -/
def queueFault (err : QueueError) : String := s!"Failed to post critical event: {err.message}"

/-- The reply by which a call is refused. -/
def Call.Refused : (c : Call) → c.Reply → Prop
  | .setTimer _ _ _, x => x = TimerHandle.invalid
  | .alloc _, ptr => ptr = none
  | .send _, b => b = false
  | .requestUnload, b => b = false
  | c, reply => c.admitted? reply = some false

namespace Hub

variable {A R α β : Type}

/-- Whether a nanoapp under the id has the permission. -/
def Permits (h : Hub A R) (id : InstanceId) (p : Permission) : Prop :=
  ∃ n, h.registry.find? id = some n ∧ n.permissions.allows p = true

/-- Something that the call needs is used up. -/
inductive Exhausted (h : Hub A R) (id : InstanceId) : Call → Prop
  | timers {duration : Nat} {cookie : Cookie} {oneShot : Bool} {e : TimerError}
      (he : h.timers.set h.now { owner := id, duration, cookie, oneShot } = .error e) :
      Exhausted h id (.setTimer duration cookie oneShot)
  | heap {bytes : Nat} {e : AllocError} (he : h.heap.alloc id bytes = .error e) :
      Exhausted h id (.alloc bytes)
  | event {e : Event} (hfull : h.queue.hasRoom = false) : Exhausted h id (.send e)
  | unload (hfull : h.queue.hasRoom = false) : Exhausted h id .requestUnload
  | monitor {enable : Bool} {cookie : Cookie} (hs : h.wifi.monitorSlot.isSome = true) :
      Exhausted h id (.scanMonitor enable cookie)
  | scan {params : ScanParams} {cookie : Cookie} (hs : h.wifi.scanSlot.isSome = true) :
      Exhausted h id (.scan params cookie)
  | ranging {targets : List Bssid} {cookie : Cookie} (hs : h.wifi.rangingSlot.isSome = true) :
      Exhausted h id (.ranging targets cookie)
  | cell {cookie : Cookie} (hs : h.wwan.cellSlot.isSome = true) : Exhausted h id (.cellInfo cookie)
  | session {c : Call} {k : SessionKind} {request : Option SessionRequest} {cookie : Cookie}
      (hc : c.session? id = some (k, request, cookie))
      (hs : (h.gnss.session k).slot.isSome = true) : Exhausted h id c

variable [Radio R]

def capabilityBits (h : Hub A R) : Device → Nat
  | .wifi => if h.wifi.available then Radio.capabilities .wifi h.radios else 0
  | .wwan => if h.wwan.available then Radio.capabilities .wwan h.radios else 0
  | .gnss => if h.gnss.available then Radio.capabilities .gnss h.radios else 0

/-- Scan monitoring is as it would be with the nanoapp's wish. -/
structure Monitors (h : Hub A R) (id : InstanceId) (enable : Bool) : Prop where
  supported : h.capabilityBits .wifi &&& WifiCapabilities.scanMonitoring ≠ 0
  free : h.wifi.monitorSlot = none
  same : (enable || h.wifi.monitors.any (· != id)) = h.wifi.monitorEnabled

/-- A session is as it would be with the nanoapp's part in it. -/
structure Serves (h : Hub A R) (k : SessionKind) (id : InstanceId)
    (request : Option SessionRequest) : Prop where
  supported : h.capabilityBits .gnss &&& k.capability ≠ 0
  free : (h.gnss.session k).slot = none
  same : SessionSetting.aggregate ((h.gnss.session k).others id ++ request.toList) =
    (h.gnss.session k).confirmed

/-- The call asks for what a radio does already, so it is answered at once. -/
inductive AtOnce (h : Hub A R) (id : InstanceId) : Call → Prop
  | monitor {enable : Bool} {cookie : Cookie} (hp : h.Permits id .wifi)
      (hm : h.Monitors id enable) : AtOnce h id (.scanMonitor enable cookie)
  | session {c : Call} {k : SessionKind} {request : Option SessionRequest} {cookie : Cookie}
      (hc : c.session? id = some (k, request, cookie)) (hp : h.Permits id .gnss)
      (hs : h.Serves k id request) : AtOnce h id c

/-! ## Calls that touch neither radios nor slots -/

/-- The queue and the radios stay as they are, and nothing halts. -/
def calm : Law A R where
  rel h h' := h'.queue = h.queue ∧ h'.radios = h.radios
  halts _ _ _ := False
  refl _ := ⟨rfl, rfl⟩
  trans h h' := ⟨h'.1.trans h.1, h'.2.trans h.2⟩
  halts_of_rel _ he := he

/-- The radios stay as they are, and nothing halts. -/
def tame : Law A R where
  rel h h' := h'.radios = h.radios
  halts _ _ _ := False
  refl _ := rfl
  trans h h' := h'.trans h
  halts_of_rel _ he := he

section

omit [Radio R]

theorem calm_tame : (calm : Law A R).Within tame where
  rel h := h.2
  halts he := he

theorem emit_calm (level : Level) (message : String) (fields : List (String × String)) :
    Obeys calm (emit level message fields : HubM A R Unit) :=
  .modify fun _ => ⟨rfl, rfl⟩

theorem note_calm (e : Entry) : Obeys calm (note e : HubM A R Unit) := .modify fun _ => ⟨rfl, rfl⟩

theorem countDropped_calm : Obeys calm (countDropped : HubM A R Unit) :=
  .modify fun _ => ⟨rfl, rfl⟩

theorem modifyWifi_calm (f : WifiState → WifiState) : Obeys calm (modifyWifi f : HubM A R Unit) :=
  .modify fun _ => ⟨rfl, rfl⟩

theorem modifySession_calm (k : SessionKind) (f : Session → Session) :
    Obeys calm (modifySession k f : HubM A R Unit) :=
  .modify fun _ => ⟨rfl, rfl⟩

theorem updateHeapGauge_calm : Obeys calm (updateHeapGauge : HubM A R Unit) :=
  .get_bind fun _ => .modify fun _ => ⟨rfl, rfl⟩

theorem subscribe_calm (id : InstanceId) (type : EventType) :
    Obeys calm (subscribe id type : HubM A R Bool) := by
  intro h
  unfold subscribe
  rw [ends_bind, ends_get, ends_ite]
  split
  · exact ⟨rfl, rfl⟩
  · exact calm.refl h

theorem unsubscribe_calm (id : InstanceId) (type : EventType) :
    Obeys calm (unsubscribe id type : HubM A R Bool) := by
  intro h
  unfold unsubscribe
  rw [ends_bind, ends_get, ends_ite]
  split
  · exact ⟨rfl, rfl⟩
  · exact calm.refl h

theorem applyMonitor_calm (id : InstanceId) (enable : Bool) :
    Obeys calm (applyMonitor id enable : HubM A R Unit) := by
  unfold applyMonitor
  refine .ite (fun _ => ?_) fun _ => ?_
  · exact .bind (modifyWifi_calm _) fun _ => .bind (subscribe_calm _ _) fun _ => .pure _
  · exact .bind (modifyWifi_calm _) fun _ => .bind (unsubscribe_calm _ _) fun _ => .pure _

theorem applySession_calm (k : SessionKind) (id : InstanceId) (request : Option SessionRequest) :
    Obeys calm (applySession k id request : HubM A R Unit) := by
  unfold applySession
  refine .bind (modifySession_calm k _) fun _ => .ite (fun _ => ?_) fun _ => ?_
  · exact .bind (subscribe_calm _ _) fun _ => .pure _
  · exact .bind (unsubscribe_calm _ _) fun _ => .pure _

/-! ### The queue -/

theorem tryPost_safe (e : Event) (h : Hub A R) :
    Ends (tryPost e) h (fun r h' => h'.radios = h.radios ∧ r.toBool = h.queue.hasRoom)
      (fun _ _ => False) := by
  unfold tryPost
  rw [ends_bind, ends_get]
  split
  · rename_i q hq
    exact ⟨rfl, (Queue.hasRoom_of_ok hq).symm⟩
  · rename_i err hq
    exact ⟨rfl, (Queue.hasRoom_of_error hq).symm⟩

theorem post_safe (e : Event) (h : Hub A R) :
    Ends (post e) h (fun b h' => h'.radios = h.radios ∧ b = h.queue.hasRoom)
      (fun _ _ => False) := by
  refine ends_bind.2 ((tryPost_safe e h).mono (fun r h' hr => ?_) fun _ _ => id)
  obtain ⟨hradios, hr⟩ := hr
  cases r with
  | ok => exact ⟨hradios, hr⟩
  | error => exact ⟨hradios, hr⟩

/-- A result that finds no room halts the hub. -/
theorem postOrDie_safe (e : Event) (h : Hub A R) :
    Ends (postOrDie e) h (fun _ h' => h'.radios = h.radios ∧ h.queue.hasRoom = true)
      (fun er _ => h.queue.hasRoom = false ∧ ∃ err, er = .fatal (queueFault err)) := by
  refine ends_bind.2 ((tryPost_safe e h).mono (fun r h' hr => ?_) fun _ _ => False.elim)
  obtain ⟨hradios, hr⟩ := hr
  cases r with
  | ok => exact ⟨hradios, hr.symm⟩
  | error err => exact ⟨hr.symm, err, rfl⟩

theorem defer_safe (c : Callback) (h : Hub A R) :
    Ends (defer c) h (fun b h' => h'.radios = h.radios ∧ b = h.queue.hasRoom)
      (fun _ _ => False) := by
  unfold defer
  rw [ends_bind, ends_get]
  split
  · rename_i q hq
    exact ⟨rfl, (Queue.hasRoom_of_ok hq).symm⟩
  · rename_i err hq
    exact ⟨rfl, (Queue.hasRoom_of_error hq).symm⟩

theorem discard_tame (p : Event → Bool) : Obeys tame (discard p : HubM A R (List Event)) := by
  intro h
  unfold discard
  rw [ends_bind, ends_get]
  refine ends_bind.2 (ends_set.2 ?_)
  have hout (out : List Event) : Obeys tame (do
      out.forM fun e => do
        countDropped
        release e
      return out : HubM A R (List Event)) :=
    Obeys.within (.bind (.forM fun e _ => .bind countDropped_calm fun _ => note_calm _)
      fun _ => .pure _) calm_tame
  exact hout _ _

/-- A reserved type cannot be sent, and nothing is sent without room. -/
theorem send_safe (id : InstanceId) (e : Event) (h : Hub A R) :
    Ends (send id e) h (fun b h' => h'.radios = h.radios ∧ (h.queue.hasRoom = false → b = false))
      (fun _ _ => False) := by
  unfold send
  rw [ends_ite]
  split
  · exact ⟨rfl, fun _ => rfl⟩
  · exact (post_safe _ h).mono (fun b h' hb => ⟨hb.1, fun hfull => hb.2.trans hfull⟩)
      fun _ _ => False.elim

/-! ### Timers and the heap -/

theorem setNanoappTimer_safe (owner : InstanceId) (duration : Nat) (cookie : Cookie)
    (oneShot : Bool) (h : Hub A R) :
    Ends (setNanoappTimer owner duration cookie oneShot) h (fun x h' => h'.radios = h.radios ∧
      ∀ e, h.timers.set h.now { owner, duration, cookie, oneShot } = .error e → x = .invalid)
      (fun _ _ => False) := by
  unfold setNanoappTimer trySetTimer
  rw [ends_bind, ends_bind, ends_get]
  split
  · exact ⟨rfl, fun _ _ => rfl⟩
  · rename_i x q hs
    refine ⟨rfl, fun e he => ?_⟩
    rw [hs] at he
    cases he

theorem cancelTimer_tame (owner : InstanceId) (x : TimerHandle) :
    Obeys tame (cancelTimer owner x : HubM A R Bool) := by
  intro h
  unfold cancelTimer
  rw [ends_bind, ends_get]
  split
  · exact tame.refl h
  · exact rfl

theorem heapAlloc_safe (owner : InstanceId) (bytes : Nat) (h : Hub A R) :
    Ends (heapAlloc owner bytes) h (fun ptr h' => h'.radios = h.radios ∧
      ∀ e, h.heap.alloc owner bytes = .error e → ptr = none) (fun _ _ => False) := by
  unfold heapAlloc
  rw [ends_bind, ends_get]
  split
  · rename_i ptr heap hs
    refine ⟨rfl, fun e he => ?_⟩
    rw [hs] at he
    cases he
  · exact ⟨rfl, fun _ _ => rfl⟩

/-- What calls do with the heap, the queue and the log halts nothing and leaves radios alone. -/
theorem tame_grants : (tame : Law A R).Grants .all where
  emit_obeys level message fields := (emit_calm level message fields).within calm_tame
  user_obeys _ h := (post_safe _ h).mono (fun _ _ hp => hp.1) fun _ _ he => he
  heap _ := rfl
  updateHeapGauge_obeys := updateHeapGauge_calm.within calm_tame
  refuse _ _ _ := rfl
  requestUnload_obeys id h := (defer_safe (.unload id) h).mono (fun _ _ hp => hp.1) fun _ _ he => he
  stopLoop_obeys := .modify fun _ => rfl
  trace _ _ := rfl

end

/-! ## Requests -/

/-- A scripted radio accepts or refuses what is asked, and nothing else happens. -/
theorem requestRadio_bind {S : R → Prop} (hS : Radio.Scripted S) {h : Hub A R} (hr : S h.radios)
    (q : RadioRequest) {f : Bool → HubM A R β} {Q : β → Hub A R → Prop}
    {E : Halt → Hub A R → Prop}
    (hf : ∀ b r j, S r → Ends (f b) { h with radios := r, journal := j } Q E) :
    Ends (requestRadio q >>= f) h Q E := by
  obtain ⟨reaction, hreq, hreports, hnext⟩ := hS h.now q h.radios hr
  unfold requestRadio
  rw [ends_bind, ends_bind, ends_get, hreq]
  dsimp only
  rw [hreports]
  exact hf _ _ _ hnext

omit [Radio R] in
/-- Where the system may have six timers, a manager can set the one for its slot. -/
theorem setSystemTimer_bind {h : Hub A R} {n : Nat} (hg : h.core.Good n) (hn : 6 ≤ n)
    {purpose : TimerPurpose} (hnone : h.core.awaited purpose = none) (duration : Nat)
    {f : TimerHandle → HubM A R β} {Q : β → Hub A R → Prop} {E : Halt → Hub A R → Prop}
    (hf : ∀ x h', h'.radios = h.radios → h'.wifi = h.wifi → h'.wwan = h.wwan → h'.gnss = h.gnss →
      Ends (f x) h' Q E) : Ends (setSystemTimer duration purpose >>= f) h Q E := by
  have hset : Ends (setSystemTimer duration purpose) h (fun _ h' => h'.radios = h.radios ∧
      h'.wifi = h.wifi ∧ h'.wwan = h.wwan ∧ h'.gnss = h.gnss) (fun _ _ => False) := by
    unfold setSystemTimer trySetTimer
    rw [ends_bind, ends_bind, ends_get]
    split
    · rename_i e he
      -- six purposes, and nothing is awaited for this one
      have hlt := hg.settled.systemCount_lt hg.coherent hnone
      rcases TimerPool.set_system_eq_error he with hfull | hl
      · rw [show h.timers.limits.system = n from hg.system] at hfull
        exact absurd (Nat.lt_of_le_of_lt (Nat.le_trans hn hfull) hlt) (Nat.lt_irrefl 6)
      · exact absurd hg.handlesLeft hl
    · exact ⟨rfl, rfl, rfl, rfl⟩
  refine ends_bind.2 (hset.mono (fun x h' hx => ?_) fun _ _ => False.elim)
  exact hf x h' hx.1 hx.2.1 hx.2.2.1 hx.2.2.2

section

variable {h : Hub A R} {Q : Nat → Hub A R → Prop} {E : Halt → Hub A R → Prop}

theorem wifiCapabilities_ends : Ends wifiCapabilities h Q E ↔ Q (h.capabilityBits .wifi) h :=
  Iff.rfl

theorem wwanCapabilities_ends : Ends wwanCapabilities h Q E ↔ Q (h.capabilityBits .wwan) h :=
  Iff.rfl

theorem gnssCapabilities_ends : Ends gnssCapabilities h Q E ↔ Q (h.capabilityBits .gnss) h :=
  Iff.rfl

end

/-- The request is admitted or refused, and refused if the slot is `busy`. What is answered
`atOnce` halts the hub if there is no room for the answer, and nothing else does. -/
def Considers (S : R → Prop) (h : Hub A R) (atOnce busy : Prop)
    (m : HubM A R (Except RequestError Unit)) : Prop :=
  Ends m h
    (fun r h' => S h'.radios ∧ (atOnce → h.queue.hasRoom = true) ∧ (busy → r.toBool = false))
    (fun e _ => atOnce ∧ h.queue.hasRoom = false ∧ ∃ err, e = .fatal (queueFault err))

theorem configureMonitor_safe {S : R → Prop} (hS : Radio.Scripted S) {h : Hub A R}
    (hr : S h.radios) (id : InstanceId) (enable : Bool) (cookie : Cookie) :
    Considers S h (h.Monitors id enable) (h.wifi.monitorSlot.isSome = true)
      (configureMonitor id enable cookie) := by
  unfold Considers configureMonitor
  rw [ends_bind, wifiCapabilities_ends, ends_ite]
  split
  · rename_i hno
    exact ⟨hr, fun hm => absurd hno hm.supported, fun _ => rfl⟩
  rename_i hsupported
  rw [ends_bind, ends_get, ends_ite]
  split
  · rename_i hbusy
    refine ⟨hr, fun hm => ?_, fun _ => rfl⟩
    rw [hm.free] at hbusy
    cases hbusy
  rename_i hfree
  have hfree : h.wifi.monitorSlot = none := Option.not_isSome_iff_eq_none.1 hfree
  rw [hfree, ends_ite]
  split
  · -- the radio need not be asked, and the answer has to find room now
    rename_i hsame
    have hm : h.Monitors id enable := ⟨hsupported, hfree, hsame⟩
    refine ends_bind.2 ((applyMonitor_calm id enable h).mono (fun _ h₁ hc => ?_)
      fun _ _ => False.elim)
    refine ends_bind.2 ((postOrDie_safe _ h₁).mono (fun _ h₂ hp => ?_) fun e h₂ he => ?_)
    · refine ends_pure.2 ⟨?_, fun _ => hc.1 ▸ hp.2, nofun⟩
      rw [hp.1, hc.2]
      exact hr
    · exact ⟨hm, hc.1 ▸ he.1, he.2⟩
  · rename_i hne
    refine requestRadio_bind hS hr _ fun b r j hr₁ => ?_
    have hno (hm : h.Monitors id enable) : h.queue.hasRoom = true := absurd hm.same hne
    rw [ends_ite]
    split
    · exact ⟨hr₁, hno, nofun⟩
    · unfold awaitMonitor
      simp only [ends_bind, ends_get, hfree, occupied_none]
      exact ⟨hr₁, hno, nofun⟩

section

variable {S : R → Prop} (hS : Radio.Scripted S) {h : Hub A R} (hr : S h.radios) {n : Nat}
  (hg : h.core.Good n) (hn : 6 ≤ n)

include hS hr hg hn

omit [Radio R] hS hr hn in
theorem good_asked (r : R) (j : List Entry) : (core { h with radios := r, journal := j }).Good n :=
  hg.same rfl rfl rfl fun u => by cases u <;> rfl

theorem requestScan_safe (id : InstanceId) (params : ScanParams) (cookie : Cookie) :
    Considers S h False (h.wifi.scanSlot.isSome = true) (requestScan id params cookie) := by
  unfold Considers requestScan
  rw [ends_bind, wifiCapabilities_ends, ends_ite]
  split
  · exact ⟨hr, False.elim, fun _ => rfl⟩
  rw [ends_bind, ends_get, ends_ite]
  split
  · exact ⟨hr, False.elim, fun _ => rfl⟩
  rename_i hfree
  have hfree : h.wifi.scanSlot = none := Option.not_isSome_iff_eq_none.1 hfree
  rw [hfree, ends_ite]
  split
  · exact ⟨hr, False.elim, fun _ => rfl⟩
  refine requestRadio_bind hS hr _ fun b r j hr₁ => ?_
  rw [ends_ite]
  split
  · exact ⟨hr₁, False.elim, nofun⟩
  have hnone : h.core.awaited .wifiScanTimeout = none := by
    rw [Core.awaited, core, hfree, Option.map_none]
  rw [ends_bind, ends_get]
  refine setSystemTimer_bind (good_asked hg r j) hn ?_ _ fun x h₂ hradios hwifi _ _ => ?_
  · exact hnone
  · rw [ends_bind, ends_get, hwifi, hfree, ends_bind, occupied_none]
    exact ends_bind.2 (ends_modify.2 ⟨hradios ▸ hr₁, False.elim, nofun⟩)

theorem requestRanging_safe (id : InstanceId) (targets : List Bssid) (cookie : Cookie) :
    Considers S h False (h.wifi.rangingSlot.isSome = true) (requestRanging id targets cookie) := by
  unfold Considers requestRanging
  rw [ends_bind, wifiCapabilities_ends, ends_ite]
  split
  · exact ⟨hr, False.elim, fun _ => rfl⟩
  rw [ends_bind, ends_get, ends_ite]
  split
  · exact ⟨hr, False.elim, fun _ => rfl⟩
  rename_i hfree
  have hfree : h.wifi.rangingSlot = none := Option.not_isSome_iff_eq_none.1 hfree
  rw [hfree, ends_ite]
  split
  · exact ⟨hr, False.elim, fun _ => rfl⟩
  refine requestRadio_bind hS hr _ fun b r j hr₁ => ?_
  rw [ends_ite]
  split
  · exact ⟨hr₁, False.elim, nofun⟩
  have hnone : h.core.awaited .wifiRangingTimeout = none := by
    rw [Core.awaited, core, hfree, Option.map_none]
  rw [ends_bind, ends_get]
  refine setSystemTimer_bind (good_asked hg r j) hn ?_ _ fun x h₂ hradios hwifi _ _ => ?_
  · exact hnone
  · rw [ends_bind, ends_get, hwifi, hfree, ends_bind, occupied_none]
    exact ends_bind.2 (ends_modify.2 ⟨hradios ▸ hr₁, False.elim, nofun⟩)

theorem requestCellInfo_safe (id : InstanceId) (cookie : Cookie) :
    Considers S h False (h.wwan.cellSlot.isSome = true) (requestCellInfo id cookie) := by
  unfold Considers requestCellInfo
  rw [ends_bind, wwanCapabilities_ends, ends_ite]
  split
  · exact ⟨hr, False.elim, fun _ => rfl⟩
  rw [ends_bind, ends_get, ends_ite]
  split
  · exact ⟨hr, False.elim, fun _ => rfl⟩
  rename_i hfree
  have hfree : h.wwan.cellSlot = none := Option.not_isSome_iff_eq_none.1 hfree
  refine requestRadio_bind hS hr _ fun b r j hr₁ => ?_
  rw [hfree, ends_ite]
  split
  · exact ⟨hr₁, False.elim, nofun⟩
  have hnone : h.core.awaited .wwanCellInfoTimeout = none := by
    rw [Core.awaited, core, hfree, Option.map_none]
  rw [ends_bind, ends_get]
  refine setSystemTimer_bind (good_asked hg r j) hn ?_ _ fun x h₂ hradios _ hwwan _ => ?_
  · exact hnone
  · rw [ends_bind, ends_get, hwwan, hfree, ends_bind, occupied_none]
    exact ends_bind.2 (ends_modify.2 ⟨hradios ▸ hr₁, False.elim, nofun⟩)

theorem controlSession_safe (k : SessionKind) (id : InstanceId) (request : Option SessionRequest)
    (cookie : Cookie) :
    Considers S h (h.Serves k id request) ((h.gnss.session k).slot.isSome = true)
      (controlSession k id request cookie) := by
  unfold Considers controlSession
  rw [ends_bind, gnssCapabilities_ends, ends_ite]
  split
  · rename_i hno
    exact ⟨hr, fun hs => absurd hno hs.supported, fun _ => rfl⟩
  rename_i hsupported
  rw [ends_bind, getSession_ends, ends_ite]
  split
  · rename_i hbusy
    refine ⟨hr, fun hs => ?_, fun _ => rfl⟩
    rw [hs.free] at hbusy
    cases hbusy
  rename_i hfree
  have hfree : (h.gnss.session k).slot = none := Option.not_isSome_iff_eq_none.1 hfree
  rw [hfree, ends_ite]
  split
  · rename_i hsame
    have hs : h.Serves k id request := ⟨hsupported, hfree, hsame⟩
    refine ends_bind.2 ((applySession_calm k id request h).mono (fun _ h₁ hc => ?_)
      fun _ _ => False.elim)
    refine ends_bind.2 ((postOrDie_safe _ h₁).mono (fun _ h₂ hp => ?_) fun e h₂ he => ?_)
    · refine ends_pure.2 ⟨?_, fun _ => hc.1 ▸ hp.2, nofun⟩
      rw [hp.1, hc.2]
      exact hr
    · exact ⟨hs, hc.1 ▸ he.1, he.2⟩
  · rename_i hne
    refine requestRadio_bind hS hr _ fun b r j hr₁ => ?_
    have hno (hs : h.Serves k id request) : h.queue.hasRoom = true := absurd hs.same hne
    rw [ends_ite]
    split
    · exact ⟨hr₁, hno, nofun⟩
    have hnone : h.core.awaited k.purpose = none := by
      rw [Core.awaited_session, core_session, hfree, Option.map_none]
    unfold awaitSession
    rw [ends_bind, ends_bind, ends_get]
    refine setSystemTimer_bind (good_asked hg r j) hn ?_ _ fun x h₂ hradios _ _ hgnss => ?_
    · cases k <;> exact hnone
    · rw [ends_bind, ends_get, hgnss, hfree, ends_bind, occupied_none]
      exact ends_modify.2 ⟨hradios ▸ hr₁, hno, nofun⟩

end

/-! ## Calls -/

omit [Radio R] in
/-- A call of a nanoapp without the permission is refused without being looked at. -/
theorem askFor_safe {S : R → Prop} {h : Hub A R} (hr : S h.radios) {atOnce busy : Prop}
    {ask : HubM A R (Except RequestError Unit)} (hask : Considers S h atOnce busy ask)
    (id : InstanceId) (p : Permission) (request : String) :
    Ends (askFor id p request ask) h
      (fun b h' => S h'.radios ∧ (h.Permits id p → atOnce → h.queue.hasRoom = true) ∧
        (busy → b = false))
      (fun e _ => (h.Permits id p ∧ atOnce) ∧ h.queue.hasRoom = false ∧
        ∃ err, e = .fatal (queueFault err)) := by
  have hrefuse {h' : Hub A R} (hr' : S h'.radios) (hno : ¬ h.Permits id p) :
      S h'.radios ∧ (h.Permits id p → atOnce → h.queue.hasRoom = true) ∧ (busy → false = false) :=
    ⟨hr', fun hp => absurd hp hno, fun _ => rfl⟩
  unfold askFor permitted
  rw [ends_bind, ends_bind, ends_get]
  split
  · rename_i hnone
    refine hrefuse hr ?_
    rintro ⟨n, hn, -⟩
    cases hnone.symm.trans hn
  · rename_i n hn
    rw [ends_ite]
    split
    · rename_i hp
      have hp : h.Permits id p := ⟨n, hn, hp⟩
      refine ends_bind.2 (Ends.mono hask (fun r h₁ hP => ?_) fun e h₁ he => ?_)
      · obtain ⟨hr₁, hroom, hbusy⟩ := hP
        cases r with
        | ok => exact ⟨hr₁, fun _ => hroom, fun hb => hbusy hb⟩
        | error => exact ⟨hr₁, fun _ => hroom, fun _ => rfl⟩
      · exact ⟨⟨hp, he.1⟩, he.2⟩
    · rename_i hp
      refine hrefuse hr ?_
      rintro ⟨n', hn', hp'⟩
      cases hn.symm.trans hn'
      exact hp hp'

/-- The call ends unless it is answered at once without room, which halts the hub. It is refused if
what it needs is used up. -/
def Survives (S : R → Prop) (h : Hub A R) (id : InstanceId) (c : Call) : Prop :=
  Ends (perform id c) h
    (fun reply h' => S h'.radios ∧ (AtOnce h id c → h.queue.hasRoom = true) ∧
      (Exhausted h id c → c.Refused reply))
    (fun e _ => AtOnce h id c ∧ h.queue.hasRoom = false ∧ ∃ err, e = .fatal (queueFault err))

section

variable {S : R → Prop} {h : Hub A R} (hr : S h.radios) {id : InstanceId} {c : Call}

include hr

theorem survives_of_ends (hno : ¬ AtOnce h id c)
    (hm : Ends (perform id c) h (fun reply h' => h'.radios = h.radios ∧
      (Exhausted h id c → c.Refused reply)) (fun _ _ => False)) : Survives S h id c := by
  refine hm.mono (fun reply h' hP => ?_) fun _ _ => False.elim
  exact ⟨hP.1 ▸ hr, fun ha => absurd ha hno, hP.2⟩

theorem survives_of_tame (hm : Obeys tame (perform id c : HubM A R c.Reply))
    (hno : ¬ AtOnce h id c) (hne : ¬ Exhausted h id c) : Survives S h id c :=
  survives_of_ends hr hno ((hm h).mono (fun _ _ hradios => ⟨hradios, fun he => absurd he hne⟩)
    fun _ _ => False.elim)

end

section

variable {h : Hub A R} {id : InstanceId} {c : Call} {k : SessionKind}
  {request : Option SessionRequest} {cookie : Cookie}
  (hc : c.session? id = some (k, request, cookie))

include hc

theorem atOnce_session : AtOnce h id c ↔ h.Permits id .gnss ∧ h.Serves k id request := by
  constructor
  · intro ha
    cases ha with
    | monitor => cases hc
    | session hc' hp hs =>
      rw [hc] at hc'
      cases hc'
      exact ⟨hp, hs⟩
  · exact fun ha => .session hc ha.1 ha.2

omit [Radio R] in
theorem Exhausted.busy (he : Exhausted h id c) : (h.gnss.session k).slot.isSome = true := by
  cases he with
  | session hc' hs =>
    rw [hc] at hc'
    cases hc'
    exact hs
  | _ => cases hc

end

theorem atOnce_monitor {h : Hub A R} {id : InstanceId} {enable : Bool} {cookie : Cookie} :
    AtOnce h id (.scanMonitor enable cookie) ↔ h.Permits id .wifi ∧ h.Monitors id enable := by
  constructor
  · rintro (⟨hp, hm⟩ | ⟨⟨⟩, -, -⟩)
    exact ⟨hp, hm⟩
  · exact fun ha => .monitor ha.1 ha.2

/-- Of the calls that ask a radio for something, `granted` reads the reply. -/
theorem survives_of_ask {S : R → Prop} {h : Hub A R} {id : InstanceId} {c : Call} {p : Permission}
    {atOnce busy : Prop} (granted : c.Reply → Bool)
    (hask : Ends (perform id c) h
      (fun b h' => S h'.radios ∧ (h.Permits id p → atOnce → h.queue.hasRoom = true) ∧
        (busy → granted b = false))
      (fun e _ => (h.Permits id p ∧ atOnce) ∧ h.queue.hasRoom = false ∧
        ∃ err, e = .fatal (queueFault err)))
    (honce : AtOnce h id c ↔ h.Permits id p ∧ atOnce) (hbusy : Exhausted h id c → busy)
    (hrefused : ∀ b, granted b = false → c.Refused b) : Survives S h id c := by
  unfold Survives
  rw [honce]
  refine hask.mono (fun b h' hP => ?_) fun e h' he => he
  exact ⟨hP.1, fun ha => hP.2.1 ha.1 ha.2, fun he => hrefused b (hP.2.2 (hbusy he))⟩

/-- Calls that ask no radio for anything. -/
theorem plain_safe {S : R → Prop} {h : Hub A R} (hr : S h.radios) (i : InstanceId) {c : Call}
    (hc : c.permission? = none) : Survives S h i c := by
  cases c with
  | now => exact survives_of_tame hr (.get_bind fun _ => .pure _) nofun nofun
  | appId => exact survives_of_tame hr (.get_bind fun _ => .pure _) nofun nofun
  | wasIssued => exact survives_of_tame hr (.get_bind fun _ => .pure _) nofun nofun
  | find => exact survives_of_tame hr (.get_bind fun _ => .pure _) nofun nofun
  | stopLoop => exact survives_of_tame hr tame_grants.stopLoop_obeys nofun nofun
  | trace => exact survives_of_tame hr (.modify fun h => tame_grants.trace h _) nofun nofun
  | log => exact survives_of_tame hr (tame_grants.emit_obeys _ _ _) nofun nofun
  | note => exact survives_of_tame hr ((note_calm _).within calm_tame) nofun nofun
  | subscribe type =>
    exact survives_of_tame hr ((subscribe_calm i type).within calm_tame) nofun nofun
  | unsubscribe type =>
    exact survives_of_tame hr ((unsubscribe_calm i type).within calm_tame) nofun nofun
  | access ptr edit =>
    exact survives_of_tame hr (tame_grants.heapAccess_obeys i ptr edit) nofun nofun
  | free ptr =>
    refine survives_of_tame hr (.bind (tame_grants.heapFree_obeys i ptr) fun _ => ?_) nofun nofun
    exact tame_grants.updateHeapGauge_obeys
  | cancelTimer x =>
    refine survives_of_tame hr (.bind (cancelTimer_tame i x) fun _ => ?_) nofun nofun
    exact .bind (discard_tame _) fun _ => .pure _
  | capabilities p => exact survives_of_tame hr (tame_grants.capabilitiesFor_obeys i p) nofun nofun
  | setTimer duration cookie oneShot =>
    refine survives_of_ends hr nofun ((setNanoappTimer_safe i duration cookie oneShot h).mono
      (fun x h' hx => ⟨hx.1, ?_⟩) fun _ _ => False.elim)
    intro hused
    cases hused with
    | timers he => exact hx.2 _ he
    | session hc => cases hc
  | alloc bytes =>
    refine survives_of_ends hr nofun (ends_bind.2 ((heapAlloc_safe i bytes h).mono
      (fun ptr h₁ hx => ?_) fun _ _ => False.elim))
    refine ends_bind.2 ((updateHeapGauge_calm h₁).mono (fun _ h₂ hc => ?_) fun _ _ => False.elim)
    refine ⟨hc.2.trans hx.1, ?_⟩
    intro hused
    cases hused with
    | heap he => exact hx.2 _ he
    | session hc => cases hc
  | send e =>
    refine survives_of_ends hr nofun ((send_safe i e h).mono (fun b h' hb => ⟨hb.1, ?_⟩)
      fun _ _ => False.elim)
    intro hused
    cases hused with
    | event hfull => exact hb.2 hfull
    | session hc => cases hc
  | requestUnload =>
    refine survives_of_ends hr nofun ((defer_safe (.unload i) h).mono (fun b h' hb => ⟨hb.1, ?_⟩)
      fun _ _ => False.elim)
    intro hused
    cases hused with
    | unload hfull => exact hb.2.trans hfull
    | session hc => cases hc
  | _ => cases hc

/-- Requests to radios. -/
theorem request_safe {S : R → Prop} (hS : Radio.Scripted S) {h : Hub A R} (hr : S h.radios)
    {n : Nat} (hg : h.core.Good n) (hn : 6 ≤ n) (i : InstanceId) {c : Call} {p : Permission}
    (hc : c.permission? = some p) : Survives S h i c := by
  have hsession (k : SessionKind) (request : Option SessionRequest) (cookie : Cookie) :=
    askFor_safe hr (controlSession_safe hS hr hg hn k i request cookie) i .gnss
      (sessionRequestName k)
  cases c with
  | scanMonitor enable cookie =>
    refine survives_of_ask id (askFor_safe hr (configureMonitor_safe hS hr i enable cookie) i .wifi
      _) atOnce_monitor ?_ fun b hb => congrArg some hb
    intro hused
    cases hused with
    | monitor hs => exact hs
    | session hc => cases hc
  | scan params cookie =>
    refine survives_of_ask id (askFor_safe hr (requestScan_safe hS hr hg hn i params cookie) i .wifi
      _) ⟨nofun, fun ha => False.elim ha.2⟩ ?_ fun b hb => congrArg some hb
    intro hused
    cases hused with
    | scan hs => exact hs
    | session hc => cases hc
  | ranging targets cookie =>
    refine survives_of_ask id (askFor_safe hr (requestRanging_safe hS hr hg hn i targets cookie) i
      .wifi _) ⟨nofun, fun ha => False.elim ha.2⟩ ?_ fun b hb => congrArg some hb
    intro hused
    cases hused with
    | ranging hs => exact hs
    | session hc => cases hc
  | cellInfo cookie =>
    refine survives_of_ask id (askFor_safe hr (requestCellInfo_safe hS hr hg hn i cookie) i .wwan
      _) ⟨nofun, fun ha => False.elim ha.2⟩ ?_ fun b hb => congrArg some hb
    intro hused
    cases hused with
    | cell hs => exact hs
    | session hc => cases hc
  | location interval fix cookie =>
    exact survives_of_ask id (hsession .location (some ⟨i, interval, fix⟩) cookie)
      (atOnce_session rfl) (Exhausted.busy rfl) fun b hb => congrArg some hb
  | stopLocation cookie =>
    exact survives_of_ask id (hsession .location none cookie) (atOnce_session rfl)
      (Exhausted.busy rfl) fun b hb => congrArg some hb
  | measurement interval cookie =>
    exact survives_of_ask id (hsession .measurement (some ⟨i, interval, 0⟩) cookie)
      (atOnce_session rfl) (Exhausted.busy rfl) fun b hb => congrArg some hb
  | stopMeasurement cookie =>
    exact survives_of_ask id (hsession .measurement none cookie) (atOnce_session rfl)
      (Exhausted.busy rfl) fun b hb => congrArg some hb
  | _ => cases hc

/-- Whatever is called on a good hub with scripted radios. -/
theorem perform_safe {S : R → Prop} (hS : Radio.Scripted S) {h : Hub A R} (hr : S h.radios)
    {n : Nat} (hg : h.core.Good n) (hn : 6 ≤ n) (id : InstanceId) (c : Call) :
    Survives S h id c := by
  cases hc : c.permission? with
  | none => exact plain_safe hr id hc
  | some p => exact request_safe hS hr hg hn id hc

/-! ## Programs -/

/-- Running the program from `h`, the nanoapp comes to what is left of it at `h'`. -/
inductive Proceeds (id : InstanceId) : Program α → Hub A R → Program α → Hub A R → Prop
  | stay {p : Program α} {h : Hub A R} : Proceeds id p h p h
  | call {c : Call} {reply : c.Reply} {next : c.Reply → Program α} {p' : Program α}
      {h h₁ h' : Hub A R} (hr : perform id c h = .ok reply h₁)
      (hp : Proceeds id (next reply) h₁ p' h') : Proceeds id (.call c next) h p' h'

/-- A program runs to its end unless one of its calls halts the hub. -/
theorem execute_ends (id : InstanceId) (p : Program α) (h : Hub A R) :
    Ends (execute id p) h (fun a h' => Proceeds id p h (.done a) h')
      (fun e h' => ∃ c next h₁, Proceeds id p h (.call c next) h₁ ∧
        perform id c h₁ = .error e h') := by
  induction p generalizing h with
  | done a => exact .stay
  | call c next ih =>
    refine ends_bind.2 ?_
    have hcall : Ends (perform id c) h (fun reply h₁ => perform id c h = .ok reply h₁)
        (fun e h' => perform id c h = .error e h') := by
      unfold Ends
      split <;> assumption
    refine hcall.mono (fun reply h₁ hr => ?_) fun e h' hr => ⟨c, next, h, .stay, hr⟩
    refine (ih reply h₁).mono (fun a h' hp => .call hr hp) fun e h' he => ?_
    obtain ⟨c', next', h₂, hp, hr'⟩ := he
    exact ⟨c', next', h₂, .call hr hp, hr'⟩

variable [Behaviour A]

/-- Every step of a hub settles it. -/
theorem Step.settling {h h' : Hub A R} {e : Option Happening} (hs : Step h e h') :
    settling.rel h h' := by
  have hhosts : (Hub.settling : Law A R).Hosts := settling_hosts
  cases hs with
  | call hid hr => exact (hhosts.perform _ _ hid h).ok hr
  | tick hr => exact (hhosts.tick h).ok hr
  | deliver hq watched time => exact Law.trans _ (settling_take hq) (settling_note _ _)
  | drop _ hq => exact settling_take hq
  | expiry hq hc hr => exact (hhosts.expiry hq hc).ok hr
  | report hr => exact (hhosts.report _ h).ok hr
  | release hid hr => exact (hhosts.release _ hid h).ok hr
  | register hr => exact hhosts.register hr
  | clock t => exact hhosts.clock h t
  | alarm => exact hhosts.alarm h
  | quiet hc => exact hhosts.quietly.rel hc

theorem Lives.settling {h h' : Hub A R} {past : List Happening} (hl : Lives h past h') :
    settling.rel h h' := by
  induction hl with
  | stay => exact Law.refl _ h
  | snoc _ hs ih => exact Law.trans _ ih hs.settling

/-- A hub is good wherever a run leads, as long as handles are left. -/
theorem Lived.good {config : Config} {past : List Happening} {h : Hub A R}
    (hl : Lived config past h) (hleft : h.timers.HandlesLeft) :
    h.core.Good config.timers.system := by
  obtain ⟨now, radios, metrics, hl⟩ := hl
  obtain ⟨ht, hlimits, -⟩ := hl.settling (blank_tidy config now radios metrics)
  have hlimits : h.timers.limits = config.timers := hlimits
  exact hlimits ▸ ht.good hleft

omit [Behaviour A] in
theorem Lived.call {config : Config} {past : List Happening} {h h' : Hub A R}
    (hl : Lived config past h) {id : InstanceId} (hid : id ≠ .system) {c : Call} {reply : c.Reply}
    (hr : perform id c h = .ok reply h') : ∃ past', Lived config past' h' ∧
      (h'.timers.HandlesLeft → h.timers.HandlesLeft) := by
  obtain ⟨now, radios, metrics, hl⟩ := hl
  have hf := hl.fit (blank_fit config now radios metrics)
  have hs : Step h _ h' := .call hid hr
  exact ⟨_, ⟨now, radios, metrics, hl.snoc hs⟩, fun hleft => ((hs.leads hf).handles hleft).1⟩

/-- Wherever a program comes to is on a run, and the radios are as they should be. -/
theorem Proceeds.lived {S : R → Prop} (hS : Radio.Scripted S) {config : Config}
    (hn : 6 ≤ config.timers.system) {id : InstanceId} (hid : id ≠ .system) {p p' : Program α}
    {h h' : Hub A R} (hp : Proceeds id p h p' h') {past : List Happening}
    (hl : Lived config past h) (hr : h.timers.HandlesLeft → S h.radios) :
    ∃ past', Lived config past' h' ∧ (h'.timers.HandlesLeft → S h'.radios) := by
  induction hp generalizing past with
  | stay => exact ⟨past, hl, hr⟩
  | @call c reply next p' h h₁ h' hcall _ ih =>
    -- handles are left before the call if they are left after it
    obtain ⟨past₁, hl₁, hhandles⟩ := hl.call hid hcall
    refine ih hl₁ fun hleft => ?_
    have hleft := hhandles hleft
    exact ((perform_safe hS (hr hleft) (hl.good hleft) hn id c).ok hcall).1

/-- With scripted radios and timers for the system, a hub survives what nanoapps call, whatever has
happened to it before. Only a call that is answered at once can halt it, and only if there is no
room in the queue. Otherwise a call that needs what is used up is refused. -/
theorem calls_are_survived {S : R → Prop} (hS : Radio.Scripted S) {config : Config}
    (hn : 6 ≤ config.timers.system) :
    (∀ h : Hub A R, Reached config h → ∃ past, Lived config past h) ∧
    (∀ past (h : Hub A R), Lived config past h → h.timers.HandlesLeft → S h.radios →
      ∀ id c, Survives S h id c) ∧
    ∀ past (h : Hub A R), Lived config past h → S h.radios →
      ∀ id, id ≠ .system → ∀ p : Program α,
        (∀ p' h', Proceeds id p h p' h' → ∃ past', Lived config past' h' ∧
          (h'.timers.HandlesLeft → S h'.radios)) ∧
        Ends (execute id p) h (fun a h' => Proceeds id p h (.done a) h')
          (fun e h' => ∃ c next h₁, Proceeds id p h (.call c next) h₁ ∧
            perform id c h₁ = .error e h' ∧ (h₁.timers.HandlesLeft →
              AtOnce h₁ id c ∧ h₁.queue.hasRoom = false ∧
                ∃ err, e = .fatal (queueFault err))) := by
  refine ⟨fun h hh => hh.lived, ?_, ?_⟩
  · intro past h hl hleft hr id c
    exact perform_safe hS hr (hl.good hleft) hn id c
  · intro past h hl hr id hid p
    have hcomes (p' : Program α) (h' : Hub A R) (hp : Proceeds id p h p' h') :=
      hp.lived hS hn hid hl fun _ => hr
    refine ⟨hcomes, (execute_ends id p h).mono (fun _ _ hp => hp) ?_⟩
    rintro e h' ⟨c, next, h₁, hp, he⟩
    obtain ⟨past₁, hl₁, hr₁⟩ := hcomes _ h₁ hp
    refine ⟨c, next, h₁, hp, he, fun hleft => ?_⟩
    exact (perform_safe hS (hr₁ hleft) (hl₁.good hleft) hn id c).error he

/-- A nanoapp that sends `n` events when it starts. -/
def eager (n : Nat) : Script :=
  { start := List.replicate n (.send EventType.firstUser (.number 0) .everyone false) }

/-- An event that finds no room in the queue is refused. -/
theorem event_without_room_is_refused : ∃ h h' : Hub Script Stations,
    Reached { queueCapacity := 8 } h ∧ h.radios.isScripted = true ∧ h.timers.HandlesLeft ∧
      h.queue.hasRoom = false ∧
        perform ⟨1⟩ (.send (.toAll EventType.firstUser (.number 0))) h = .ok false h' := by
  obtain ⟨h, hh, hr, hleft, hfull⟩ := reached_of_ends (A := Script) { queueCapacity := 8 } 0
    Stations.scripted none
    [.load ⟨1⟩ {} (eager 8)]
    (P := fun h => h.radios.isScripted = true ∧ h.timers.HandlesLeft ∧ h.queue.hasRoom = false)
    (by decide +kernel)
  obtain ⟨hlived, hcalls, -⟩ := @calls_are_survived Script Stations Unit _ _ _
    Stations.scripted_request { queueCapacity := 8 } (by decide)
  obtain ⟨past, hl⟩ := hlived h hh
  have hlater : ¬ AtOnce h ⟨1⟩ (.send (.toAll EventType.firstUser (.number 0))) := nofun
  have hsend : Ends (perform ⟨1⟩ (.send (.toAll EventType.firstUser (.number 0)))) h
      (fun b _ => b = false) (fun _ _ => False) :=
    (hcalls past h hl hleft hr ⟨1⟩ _).mono (fun _ _ hb => hb.2.2 (.event hfull))
      fun _ _ he => hlater he.1
  obtain ⟨b, h', hr', rfl⟩ := hsend.exists_ok
  exact ⟨h, h', hh, hr, hleft, hfull, hr'⟩

/-- A nanoapp that is without monitoring and asks to be without it needs room for the answer. -/
theorem answer_without_room_halts : ¬ ∀ (config : Config) (h : Hub Script Stations),
    config.isValid = true → 6 ≤ config.timers.system → Hosted config h →
      h.radios.isScripted = true → ∀ id ∈ h.registry.ids, ∀ p : Program Unit,
        ∃ h', execute id p h = .ok () h' := by
  intro hclaim
  obtain ⟨h, hh, hr, hid, hrun⟩ := hosted_of_ends (A := Script) { queueCapacity := 8 } 0
    Stations.scripted none
    [.load ⟨1⟩ { wifi := true } (eager 8)]
    (by simp [Turn.Honest])
    (P := fun h => h.radios.isScripted = true ∧ (⟨1⟩ : InstanceId) ∈ h.registry.ids ∧
      Ends (execute ⟨1⟩ (.call (.scanMonitor false ⟨7⟩) fun _ => .done ())) h
        (fun _ _ => False) fun _ _ => True) (by decide +kernel)
  obtain ⟨h', he⟩ := hclaim { queueCapacity := 8 } h (by decide +kernel) (by decide) hh hr ⟨1⟩ hid _
  exact hrun.ok he

end Hub

end ContextHub
