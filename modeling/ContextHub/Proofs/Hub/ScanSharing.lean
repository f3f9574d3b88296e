import ContextHub.Proofs.Hub.BoundedQueue
import ContextHub.Proofs.Hub.Itinerary
import ContextHub.Proofs.Hub.Sharers
import ContextHub.Nanoapp.Script
import ContextHub.Radio.Station
/-!
# Who gets the results of a scan

Results go to those who share scan monitoring in one broadcast, and to the nanoapp that asked for
the scan in a copy of its own unless it is one of them. Whether it is one of them is looked up
twice: when the results come in, and by its subscription when the broadcast is dispatched. The
answers agree and it gets the results once, or it has changed sides in between and gets them twice
or not at all (`scan_results_reach_whom_they_are_for`). Everyone else gets them as the second look
says.
-/

namespace ContextHub

/-! ## Tasks that are queued one after the other -/

namespace Queue

/-- Whether the tasks are accepted one after the other. -/
def admits (q : Queue) : List Task → Bool
  | [] => true
  | t :: ts =>
    match q.offer t with
    | .ok q' => q'.admits ts
    | .error _ => false

/-- A live queue admits as many tasks as it has free slots. -/
theorem Live.admits_iff {q : Queue} (hq : q.Live) (ts : List Task) :
    q.admits ts = true ↔ q.tasks.length + ts.length ≤ q.capacity := by
  induction ts generalizing q with
  | nil => exact iff_of_true rfl hq.bounded
  | cons t ts ih =>
    unfold admits
    split
    · rename_i q' ho
      obtain ⟨hl, hc, ht, -⟩ := hq.of_offer ho
      rw [ih hl, hc, ht, List.length_append, List.length_cons, List.length_cons, List.length_nil]
      omega
    · rename_i ho
      rw [hq.offer] at ho
      split at ho
      · cases ho
      · rw [List.length_cons]
        exact iff_of_false Bool.false_ne_true (by omega)

theorem admits_cons {q : Queue} {t : Task} {ts : List Task} (ha : q.admits (t :: ts) = true) :
    ∃ q', q.offer t = .ok q' ∧ q'.admits ts = true := by
  unfold admits at ha
  split at ha
  · exact ⟨_, ‹_›, ha⟩
  · cases ha

end Queue

/-- Who got results that were queued one after the other behind `ahead`. -/
def receipts (ahead : List Event) (ms : List Move) : List Event → List InstanceId
  | [] => []
  | e :: es => (Stage.after e ahead ms).told ++ receipts (ahead ++ [e]) ms es

/-- Whether none of these results is queued any more. -/
def served (ahead : List Event) (ms : List Move) : List Event → Bool
  | [] => true
  | e :: es => !(Stage.after e ahead ms).isQueued && served (ahead ++ [e]) ms es

theorem receipts_append (ahead : List Event) (ms : List Move) (es es' : List Event) :
    receipts ahead ms (es ++ es') = receipts ahead ms es ++ receipts (ahead ++ es) ms es' := by
  induction es generalizing ahead with
  | nil => simp [receipts]
  | cons e es ih => simp [receipts, ih]

theorem served_append (ahead : List Event) (ms : List Move) (es es' : List Event) :
    served ahead ms (es ++ es') = (served ahead ms es && served (ahead ++ es) ms es') := by
  induction es generalizing ahead with
  | nil => simp [served]
  | cons e es ih => simp [served, ih, Bool.and_assoc]

/-! ## Moves past the desks -/

/-- Whether a nanoapp itself changes its subscription to scans. -/
def Move.bypasses : Move → Bool
  | called _ (.subscribe type) => type == EventType.wifiScanResult
  | called _ (.unsubscribe type) => type == EventType.wifiScanResult
  | _ => false

theorem Move.bypasses_eq (m : Move) : m.bypasses = m.registers EventType.wifiScanResult := by
  cases m with
  | called id c => cases c <;> rfl
  | _ => rfl

/-! ## What is posted -/

def scanCopy (scan : Scan) (id : InstanceId) : Event :=
  .toOne EventType.wifiScanResult (.scan scan) id

def scanBroadcast (scan : Scan) : Event := .toAll EventType.wifiScanResult (.scan scan)

/-- The copy for a requester that does not share scan monitoring. -/
def scanCopies (scan : Scan) (requester : Option InstanceId) (monitors : List InstanceId) :
    List Event :=
  (requester.filter fun id => !monitors.contains id).toList.map (scanCopy scan)

/-- The broadcast for those who share scan monitoring. -/
def scanBroadcasts (scan : Scan) (monitors : List InstanceId) : List Event :=
  if monitors.isEmpty then [] else [scanBroadcast scan]

namespace Hub

variable {A R : Type} {h h' : Hub A R} {scan : Scan}

/-- Who asked for results that come in now. -/
def scanRequester (h : Hub A R) : Option InstanceId :=
  if awaitsResults h.wifi.scanSlot then h.wifi.scanSlot.bind (·.requester) else none

def scanPosts (h : Hub A R) (scan : Scan) : List Event :=
  scanCopies scan h.scanRequester h.wifi.monitors ++ scanBroadcasts scan h.wifi.monitors

/-- What waits when the broadcast is posted. -/
def aheadOfBroadcast (h : Hub A R) (scan : Scan) : List Event :=
  h.front.queued ++ scanCopies scan h.scanRequester h.wifi.monitors

/-- One post, and then the others. -/
theorem postScan_then {e : Event} {es : List Event} {f : Unit → HubM A R Unit}
    (ha : h.queue.admits ((e :: es).map .event) = true)
    (hf : ∀ h₁, h₁.wifi = h.wifi → h₁.queue.admits (es.map .event) = true →
      Ends (f ()) h₁ (fun _ h' => h'.queue.tasks = h₁.queue.tasks ++ es.map .event)
        fun _ _ => False) :
    Ends (postScan e >>= f) h
      (fun _ h' => h'.queue.tasks = h.queue.tasks ++ (e :: es).map .event) fun _ _ => False := by
  obtain ⟨q, ho, ha⟩ := Queue.admits_cons ha
  have hpost : Ends (postScan e) h (fun _ h₁ => h₁.queue = q ∧ h₁.wifi = h.wifi)
      fun _ _ => False := by
    unfold postScan post tryPost
    simp only [ends_bind, ends_get, ho]
    exact ⟨rfl, rfl⟩
  refine hpost.bind fun _ h₁ ⟨hq, hw⟩ => ?_
  refine (hf h₁ hw (hq ▸ ha)).mono (fun _ h' ht => ?_) fun _ _ he => he
  rw [ht, hq, offer_tasks ho, List.append_assoc]
  rfl

theorem shareScan_tasks {requester : Option InstanceId}
    (ha : h.queue.admits ((scanCopies scan requester h.wifi.monitors ++
      scanBroadcasts scan h.wifi.monitors).map .event) = true) :
    Ends (shareScan scan requester) h
      (fun _ h' => h'.queue.tasks = h.queue.tasks ++
        (scanCopies scan requester h.wifi.monitors ++
          scanBroadcasts scan h.wifi.monitors).map .event) fun _ _ => False := by
  have hall {h₁ : Hub A R} {lone : Bool}
      (ha : h₁.queue.admits ((scanBroadcasts scan h.wifi.monitors).map .event) = true) : Ends (do
      if !h.wifi.monitors.isEmpty then postScan (.toAll EventType.wifiScanResult (.scan scan))
      else if lone then emit .debug "Scan event has no recipients") h₁
        (fun _ h' => h'.queue.tasks = h₁.queue.tasks ++
          (scanBroadcasts scan h.wifi.monitors).map .event) fun _ _ => False := by
    unfold scanBroadcasts at ha ⊢
    cases hm : h.wifi.monitors.isEmpty with
    | true => cases lone <;> exact (List.append_nil _).symm
    | false =>
      rw [hm] at ha
      have hpost := postScan_then (f := fun _ => pure ()) ha fun _ _ _ => (List.append_nil _).symm
      rwa [bind_pure] at hpost
  unfold shareScan
  rw [ends_bind, ends_get]
  dsimp only
  unfold scanCopies at ha ⊢
  cases hr : requester.filter fun id => !h.wifi.monitors.contains id with
  | none =>
    rw [hr] at ha
    exact hall ha
  | some id =>
    rw [hr] at ha
    exact postScan_then ha fun h₁ _ ha => hall ha

theorem cancelTimer_aside (owner : InstanceId) (x : TimerHandle) (h : Hub A R) :
    Ends (cancelTimer owner x) h (fun _ h' => h'.queue = h.queue ∧ h'.wifi = h.wifi)
      fun _ _ => False := by
  unfold cancelTimer
  rw [ends_bind, ends_get]
  split <;> exact ⟨rfl, rfl⟩

theorem vacateScan_aside (h : Hub A R) :
    Ends vacateScan h (fun o h' => o = h.wifi.scanSlot ∧ h'.queue = h.queue ∧
      h'.wifi.monitors = h.wifi.monitors) fun _ _ => False := by
  unfold vacateScan
  rw [ends_bind, ends_get]
  split
  · rename_i hs
    exact ⟨hs.symm, rfl, rfl⟩
  · rename_i p hs
    refine ends_bind.2 (ends_modify.2 ((cancelTimer_aside _ _ _).bind fun _ h₁ ⟨hq₁, hw₁⟩ => ?_))
    have hm₁ : h₁.wifi.monitors = h.wifi.monitors := by rw [hw₁]
    rw [ends_ite]
    split
    · refine (cancelTimer_aside _ _ _).bind fun _ h₂ ⟨hq₂, hw₂⟩ => ?_
      exact ⟨hs.symm, hq₂.trans hq₁, hw₂ ▸ hm₁⟩
    · exact ⟨hs.symm, hq₁, hm₁⟩

/-- Results that come in are posted behind all that is queued. -/
theorem handleScan_tasks
    (hheeded : awaitsResults h.wifi.scanSlot = true ∨ h.wifi.monitorEnabled = true)
    (ha : h.queue.admits ((h.scanPosts scan).map .event) = true) :
    Ends (handleScan scan) h
      (fun _ h' => h'.queue.tasks = h.queue.tasks ++ (h.scanPosts scan).map .event)
      fun _ _ => False := by
  unfold scanPosts scanRequester at ha ⊢
  unfold handleScan
  rw [ends_bind, ends_get]
  dsimp only
  cases hs : awaitsResults h.wifi.scanSlot with
  | true =>
    rw [hs] at ha
    refine (vacateScan_aside h).bind ?_
    rintro _ h₁ ⟨rfl, hq, hm⟩
    rw [← hq, ← hm] at ha ⊢
    exact shareScan_tasks ha
  | false =>
    rw [hs] at ha hheeded
    rw [if_pos (hheeded.resolve_left Bool.false_ne_true)]
    exact shareScan_tasks ha

theorem isResult_of_mem_scanPosts {e : Event} (he : e ∈ h.scanPosts scan) :
    e.type.isResult = true := by
  rcases List.mem_append.1 he with he | he
  · obtain ⟨id, -, rfl⟩ := List.mem_map.1 he
    rfl
  · unfold scanBroadcasts at he
    split at he
    · cases he
    · rw [List.mem_singleton.1 he]
      rfl

/-! ## Runs -/

variable [Radio R]

/-- On a run of a hub results of a scan come in, and are passed on. -/
structure ScanRun (ms₁ : List Move) (h₁ : Hub A R) (scan : Scan) (h₂ : Hub A R) (ms : List Move)
    (h₃ : Hub A R) : Prop where
  before : ∃ config now radios metrics,
    Procession (blank config now radios metrics) none ms₁ h₁ none
  heeded : awaitsResults h₁.wifi.scanSlot = true ∨ h₁.wifi.monitorEnabled = true
  handled : handleReport (.wifi (.scan scan)) h₁ = .ok () h₂
  after : Procession h₂ none ms h₃ none
  /-- Nanoapps do not change their subscriptions to scans themselves. -/
  listed : ∀ m ∈ ms₁ ++ ms, m.bypasses = false
  room : h₁.queue.admits ((h₁.scanPosts scan).map .event) = true
  /-- What was posted is not queued any more. -/
  served : served h₁.front.queued ms (h₁.scanPosts scan) = true

namespace ScanRun

variable {ms₁ ms : List Move} {h₁ h₂ h₃ t : Hub A R} {a b : InstanceId}

theorem queued (hs : ScanRun ms₁ h₁ scan h₂ ms h₃) :
    h₂.front.queued = h₁.front.queued ++ h₁.scanPosts scan := by
  have ht : h₂.queue.tasks = h₁.queue.tasks ++ (h₁.scanPosts scan).map .event :=
    (handleScan_tasks hs.heeded hs.room).ok hs.handled
  have hposts : ((h₁.scanPosts scan).map Task.event).filterMap Task.result? =
      h₁.scanPosts scan := by
    rw [List.filterMap_map]
    refine Eq.trans (List.filterMap_congr (g := some) fun e he => ?_) List.filterMap_some
    exact if_pos (isResult_of_mem_scanPosts he)
  rw [front, ht, List.filterMap_append, hposts, front]

/-- On the way after the results came in, those who share scan monitoring are those who are
subscribed. -/
theorem sees (hs : ScanRun ms₁ h₁ scan h₂ ms h₃) {before : List Move}
    (hp : Procession h₂ none before t none) (hb : ∀ m ∈ before, m ∈ ms) :
    t.front.Agrees .scans ∧ t.registry.ids.Nodup := by
  obtain ⟨config, now, radios, metrics, hbefore⟩ := hs.before
  have hreported : Procession h₁ none [.reported (.wifi (.scan scan))] h₂ none :=
    .between .start (.report hs.handled)
  obtain ⟨u, hc, -⟩ := ((hbefore.append hreported).append hp).course
  refine ⟨hc.agrees (blank_vouches _ _ _ _) (blank_agrees _ _ _ _ _) fun m hm => ?_,
    hc.nodup List.nodup_nil⟩
  refine m.bypasses_eq ▸ ?_
  rcases List.mem_append.1 hm with hm | hm
  · rcases List.mem_append.1 hm with hm | hm
    · exact hs.listed m (List.mem_append_left _ hm)
    · rw [List.mem_singleton.1 hm]
      rfl
  · exact hs.listed m (List.mem_append_right _ (hb m hm))

/-- Who asked for the results is still loaded. -/
theorem requester_loaded (hs : ScanRun ms₁ h₁ scan h₂ ms h₃) (ha : h₁.scanRequester = some a) :
    a ∈ h₂.registry.ids := by
  obtain ⟨config, now, radios, metrics, hbefore⟩ := hs.before
  obtain ⟨u, hc, -⟩ := hbefore.course
  have hg := hc.guards (blank_guards config now radios metrics)
  obtain ⟨p, hp, hpa⟩ : ∃ p, h₁.wifi.scanSlot = some p ∧ p.requester = some a := by
    unfold scanRequester at ha
    split at ha
    · exact Option.bind_eq_some_iff.1 ha
    · cases ha
  have hloaded : a ∈ h₁.registry.ids := front_ids h₁ ▸ Front.mem_ids_of_holds
    (hg.desks.scan p hp a hpa)
  have hmove : Moves h₁ none (.reported (.wifi (.scan scan))) h₂ none := .report hs.handled
  exact (Course.of_move hmove).stays hloaded (by simp)

/-! ### The copy -/

/-- A requester that stays gets its copy, and nobody else does. -/
theorem copy_told (hs : ScanRun ms₁ h₁ scan h₂ ms h₃) (ha : h₁.scanRequester = some a)
    {rest : List Event} (hq : h₂.front.queued = h₁.front.queued ++ scanCopy scan a :: rest)
    (hserved : (Stage.after (scanCopy scan a) h₁.front.queued ms).isQueued = false) :
    (Stage.after (scanCopy scan a) h₁.front.queued ms).told = [a] ∨
      (Stage.after (scanCopy scan a) h₁.front.queued ms).told = [] ∧ .left a ∈ ms := by
  rcases hs.after.settled hq hserved with ⟨t, ht⟩ | ⟨htold, id, hid, hl⟩
  · obtain ⟨current, hstage⟩ := ht.stage rfl
    rw [hstage, Stage.told]
    obtain ⟨before, after, q, rfl, hbefore, -⟩ := ht
    cases hin : t.registry.contains a with
    | true => exact .inl (if_pos hin)
    | false =>
      refine .inr ⟨if_neg (Bool.not_eq_true _ ▸ hin), List.mem_append_left _ ?_⟩
      by_contra hl
      obtain ⟨u, hc, -⟩ := hbefore.course
      obtain ⟨n, hn, hid⟩ := List.mem_map.1 (hc.stays (hs.requester_loaded ha) hl)
      have hloaded : t.registry.contains a = true :=
        List.find?_isSome.2 ⟨n, hn, beq_iff_eq.2 hid⟩
      cases hin.symm.trans hloaded
  · cases hid
    exact .inr ⟨htold, hl⟩

/-- How often the copy reaches somebody. -/
theorem copies_count (hs : ScanRun ms₁ h₁ scan h₂ ms h₃)
    (hb : h₁.scanRequester = some b → b ∉ h₁.wifi.monitors → .left b ∉ ms) :
    (receipts h₁.front.queued ms (scanCopies scan h₁.scanRequester h₁.wifi.monitors)).count b =
      if h₁.scanRequester = some b ∧ b ∉ h₁.wifi.monitors then 1 else 0 := by
  have hserved := hs.served
  have hq := hs.queued
  unfold scanPosts at hserved hq
  rw [served_append, Bool.and_eq_true] at hserved
  have hserved := hserved.1
  cases hr : h₁.scanRequester.filter fun id => !h₁.wifi.monitors.contains id with
  | none =>
    have hno : ¬ (h₁.scanRequester = some b ∧ b ∉ h₁.wifi.monitors) := fun ⟨ha, hm⟩ => by
      rw [ha, Option.filter_some_pos (by simpa using hm)] at hr
      cases hr
    unfold scanCopies
    rw [hr, if_neg hno]
    rfl
  | some a =>
    obtain ⟨ha, hm⟩ := Option.filter_eq_some_iff.1 hr
    have hcopies : scanCopies scan h₁.scanRequester h₁.wifi.monitors = [scanCopy scan a] := by
      unfold scanCopies
      rw [hr]
      rfl
    rw [hcopies] at hserved hq ⊢
    have htold := hs.copy_told ha hq (by simpa [ContextHub.served] using hserved)
    simp only [receipts, List.append_nil]
    by_cases hab : a = b
    · subst hab
      have hm : a ∉ h₁.wifi.monitors := by simpa using hm
      rw [htold.resolve_right fun hl => hb ha hm hl.2, if_pos ⟨ha, hm⟩]
      exact List.count_singleton_self
    · rw [if_neg fun h => hab (Option.some.inj (ha.symm.trans h.1))]
      rcases htold with htold | ⟨htold, -⟩ <;> rw [htold]
      · exact List.count_eq_zero.2 (by simpa using Ne.symm hab)
      · rfl

/-! ### The broadcast -/

omit [Radio R] in
/-- A broadcast of results that is dispatched now is for those who share scan monitoring. -/
theorem count_recipients {h : Hub A R} (ha : h.front.Agrees .scans) (hn : h.registry.ids.Nodup)
    (scan : Scan) (b : InstanceId) :
    (h.registry.recipients (scanBroadcast scan)).count b =
      if b ∈ h.wifi.monitors then 1 else 0 := by
  have hsub : (h.registry.recipients (scanBroadcast scan)).Sublist h.registry.ids :=
    (List.filter_sublist (l := h.registry.apps)).map _
  have hmem : b ∈ h.registry.recipients (scanBroadcast scan) ↔ b ∈ h.wifi.monitors := by
    rw [recipients_eq]
    constructor
    · intro hb
      obtain ⟨x, hx, rfl⟩ := List.mem_map.1 hb
      obtain ⟨hx, hsubscribed⟩ := List.mem_filter.1 hx
      exact (ha.subscribed x hx).1 (List.contains_iff_mem.1 hsubscribed)
    · intro hb
      obtain ⟨x, hx, rfl⟩ := Front.mem_ids.1 (ha.loaded b hb)
      have hsubscribed := (ha.subscribed x hx).2 hb
      exact List.mem_map_of_mem (List.mem_filter.2 ⟨hx, List.contains_iff_mem.2 hsubscribed⟩)
  rw [(hn.sublist hsub).count]
  exact if_congr hmem rfl rfl

theorem broadcast_taken (hs : ScanRun ms₁ h₁ scan h₂ ms h₃) (hm : h₁.wifi.monitors ≠ []) :
    ∃ t, h₂.Takes (scanBroadcast scan) (h₁.aheadOfBroadcast scan) ms t h₃ none := by
  have hserved := hs.served
  have hq := hs.queued
  unfold scanPosts scanBroadcasts at hserved hq
  rw [if_neg (by simpa using hm)] at hserved hq
  rw [served_append, Bool.and_eq_true] at hserved
  rw [← List.append_assoc] at hq
  rcases hs.after.settled hq (by simpa [ContextHub.served] using hserved.2) with ht | ⟨-, _, hid, -⟩
  · exact ht
  · cases hid

theorem receipts_count (hs : ScanRun ms₁ h₁ scan h₂ ms h₃) (hm : h₁.wifi.monitors ≠ [])
    (ht : h₂.Takes (scanBroadcast scan) (h₁.aheadOfBroadcast scan) ms t h₃ none)
    (hb : h₁.scanRequester = some b → b ∉ h₁.wifi.monitors → .left b ∉ ms) :
    (receipts h₁.front.queued ms (h₁.scanPosts scan)).count b =
      (if h₁.scanRequester = some b ∧ b ∉ h₁.wifi.monitors then 1 else 0) +
        if b ∈ t.wifi.monitors then 1 else 0 := by
  obtain ⟨hagrees, hn⟩ : t.front.Agrees .scans ∧ t.registry.ids.Nodup := by
    obtain ⟨before, after, q, rfl, hbefore, -⟩ := ht
    exact hs.sees hbefore fun m hin => List.mem_append_left _ hin
  have hbroadcast : receipts (h₁.aheadOfBroadcast scan) ms
      (scanBroadcasts scan h₁.wifi.monitors) = t.registry.recipients (scanBroadcast scan) := by
    unfold scanBroadcasts
    rw [if_neg (by simpa using hm)]
    obtain ⟨current, hstage⟩ := ht.stage rfl
    rw [receipts, hstage]
    exact List.append_nil _
  unfold scanPosts
  rw [receipts_append, List.count_append, hs.copies_count hb,
    ← count_recipients hagrees hn scan b, ← hbroadcast]
  rfl

end ScanRun

/-- Results of a scan reach the nanoapp that asked for them exactly once, unless it is unloaded, if
nobody shares scan monitoring, or if it does so when the results come in if and only if it does so
when the broadcast is dispatched; otherwise they reach it twice or not at all. Everyone else gets
them once if they share scan monitoring when the broadcast is dispatched, and else not at all.
Whatever hosts do to a hub is a procession, and reports are served between dispatches. -/
theorem scan_results_reach_whom_they_are_for [Behaviour A] :
    (∀ config (h : Hub A R), Hosted config h → ∃ now radios metrics ms,
      Procession (blank config now radios metrics) none ms h none) ∧
    (∀ (h₀ h : Hub A R) ms before after scan, Procession h₀ none ms h none →
      ms = before ++ .reported (.wifi (.scan scan)) :: after → ∃ h₁ h₂,
        Procession h₀ none before h₁ none ∧ handleReport (.wifi (.scan scan)) h₁ = .ok () h₂ ∧
          Procession h₂ none after h none) ∧
    ∀ ms₁ (h₁ : Hub A R) scan h₂ ms h₃, ScanRun ms₁ h₁ scan h₂ ms h₃ →
      (h₁.wifi.monitors = [] → ∀ b, (h₁.scanRequester = some b → .left b ∉ ms) →
        (receipts h₁.front.queued ms (h₁.scanPosts scan)).count b =
          if h₁.scanRequester = some b then 1 else 0) ∧
      (h₁.wifi.monitors ≠ [] →
        (∃ t, h₂.Takes (scanBroadcast scan) (h₁.aheadOfBroadcast scan) ms t h₃ none) ∧
        ∀ t, h₂.Takes (scanBroadcast scan) (h₁.aheadOfBroadcast scan) ms t h₃ none →
          (∀ a, h₁.scanRequester = some a → .left a ∉ ms →
            (receipts h₁.front.queued ms (h₁.scanPosts scan)).count a =
              (if a ∈ h₁.wifi.monitors then 0 else 1) + if a ∈ t.wifi.monitors then 1 else 0) ∧
          (∀ b ∈ h₁.wifi.monitors, b ∈ t.wifi.monitors →
            (receipts h₁.front.queued ms (h₁.scanPosts scan)).count b = 1) ∧
          ∀ b, h₁.scanRequester ≠ some b →
            (receipts h₁.front.queued ms (h₁.scanPosts scan)).count b =
              if b ∈ t.wifi.monitors then 1 else 0) := by
  refine ⟨fun config h hh => hh.procession, fun h₀ h ms before after scan hp hs => ?_, ?_⟩
  · exact hp.split_reported hs
  · intro ms₁ h₁ scan h₂ ms h₃ hs
    refine ⟨fun hm b hb => ?_, fun hm => ⟨hs.broadcast_taken hm, fun t ht => ⟨?_, ?_, ?_⟩⟩⟩
    · have hcopies := hs.copies_count fun ha _ => hb ha
      have hposts : h₁.scanPosts scan = scanCopies scan h₁.scanRequester h₁.wifi.monitors := by
        unfold scanPosts scanBroadcasts
        rw [hm]
        exact List.append_nil _
      rw [hposts, hcopies, hm]
      simp
    · intro a ha hl
      rw [hs.receipts_count hm ht fun _ _ => hl]
      simp only [ha, true_and, ite_not]
    · intro b hb hbt
      rw [hs.receipts_count hm ht fun _ hno => absurd hb hno, if_neg fun h => h.2 hb, if_pos hbt]
    · intro b hb
      rw [hs.receipts_count hm ht fun ha => absurd ha hb, if_neg fun h => hb h.1, Nat.zero_add]

/-! ## A monitor that wavers -/

/-- A monitor asked for a scan and then to be a monitor no more. When the results come in `answers`
are queued, and the radio has not confirmed that the monitor is one no more. -/
structure Wavers (ms₁ : List Move) (h₁ h₂ : Hub Script Stations) (answers : List Event) : Prop where
  before : Procession (blank {} 0 Stations.scripted none) none ms₁ h₁ none
  listed : ∀ m ∈ ms₁, m.bypasses = false
  handled : handleReport (.wifi (.scan {})) h₁ = .ok () h₂
  requester : h₁.scanRequester = some ⟨1⟩
  monitors : h₁.wifi.monitors = [⟨1⟩]
  awaits : awaitsResults h₁.wifi.scanSlot = true
  room : h₁.queue.admits [.event (scanBroadcast {})] = true
  results : ∀ x ∈ answers, x.type.isResult = true
  queued : h₁.queue.tasks = answers.map .event

/-- The answers and the broadcast can be dispatched, with or without the radio's report. -/
theorem Wavers.runs {ms₁ ms₀ : List Move} {h₁ h₂ h : Hub Script Stations} {answers : List Event}
    {ts : List Task} (hw : Wavers ms₁ h₁ h₂ answers) (hp : Procession h₂ none ms₀ h none)
    (hms₀ : ∀ m ∈ ms₀, m = .reported (.wifi (.monitorStatus false 0)))
    (hs : Stage.after (scanBroadcast {}) answers ms₀ = .queued answers)
    (hq : h.queue.tasks = answers.map .event ++ .event (scanBroadcast {}) :: ts) :
    ∃ ms t h₃, ScanRun ms₁ h₁ {} h₂ ms h₃ ∧
      h₂.Takes (scanBroadcast {}) (h₁.aheadOfBroadcast {}) ms t h₃ none ∧ .left ⟨1⟩ ∉ ms ∧
      t.wifi = h.wifi := by
  have hqueued : h₁.front.queued = answers := by
    rw [front, hw.queued, List.filterMap_map]
    refine Eq.trans (List.filterMap_congr (g := some) fun x hx => ?_) List.filterMap_some
    exact if_pos (hw.results x hx)
  have hcopies : scanCopies {} h₁.scanRequester h₁.wifi.monitors = [] := by
    rw [hw.requester, hw.monitors]
    rfl
  have hposts : h₁.scanPosts {} = [scanBroadcast {}] := by
    rw [scanPosts, hcopies, hw.monitors]
    rfl
  have hahead : h₁.aheadOfBroadcast {} = answers := by
    rw [aheadOfBroadcast, hcopies, hqueued, List.append_nil]
  obtain ⟨ms, t, h₃, ht, hwifi, hms⟩ := hp.takes hs hw.results hq
  have hall (m : Move) (hm : m ∈ ms₀ ++ ms) : m.bypasses = false ∧ m ≠ .left ⟨1⟩ := by
    rcases List.mem_append.1 hm with hm | hm
    · rw [hms₀ m hm]
      exact ⟨rfl, by simp⟩
    · rcases hms m hm with ⟨x, rfl⟩ | ⟨d, rfl⟩
      · exact ⟨rfl, by simp⟩
      · exact ⟨rfl, by simp⟩
  refine ⟨ms₀ ++ ms, t, h₃, ?_, hahead ▸ ht, fun hl => (hall _ hl).2 rfl, hwifi⟩
  refine ⟨⟨{}, 0, _, none, hw.before⟩, .inl hw.awaits, hw.handled, ht.procession, ?_, ?_, ?_⟩
  · exact List.forall_mem_append.2 ⟨hw.listed, fun m hm => (hall m hm).1⟩
  · rw [hposts]
    exact hw.room
  · obtain ⟨current, hstage⟩ := ht.stage rfl
    rw [hqueued, hposts, served, hstage]
    rfl

/-- The radio may confirm before or after the broadcast is dispatched. -/
theorem exists_wavering_monitor : ∃ (ms₁ : List Move) (h₁ h₂ h₃ : Hub Script Stations)
    (answers : List Event) (ts : List Task), Wavers ms₁ h₁ h₂ answers ∧
      (h₂.queue.tasks = answers.map .event ++ [.event (scanBroadcast {})] ∧
        h₂.wifi.monitors = [⟨1⟩]) ∧
      handleReport (.wifi (.monitorStatus false 0)) h₂ = .ok () h₃ ∧
      h₃.queue.tasks = answers.map .event ++ .event (scanBroadcast {}) :: ts ∧
      h₃.wifi.monitors = [] := by
  let answers : List Event :=
    [wifiAnswer ⟨1⟩ WifiKind.scanMonitor .none ⟨7⟩, wifiAnswer ⟨1⟩ WifiKind.scan .none ⟨8⟩]
  let last : Event := wifiAnswer ⟨1⟩ WifiKind.scanMonitor .none ⟨9⟩
  obtain ⟨h₀, hblank, hrun⟩ : ∃ h₀, h₀ = (blank {} 0 Stations.scripted none : Hub Script Stations) ∧
      Ends (do
        initialise
        let h ← get
        match h.registry.register ⟨1⟩ { wifi := true } {} with
        | .error _ => throw .endless
        | .ok (_, registry) =>
          set { h with registry }
          let _ ← perform ⟨1⟩ (.scanMonitor true ⟨7⟩)
          handleReport (.wifi (.monitorStatus true 0))
          let _ ← perform ⟨1⟩ (.scan {} ⟨8⟩)
          handleReport (.wifi (.scanResponse true 0))
          let _ ← perform ⟨1⟩ (.scanMonitor false ⟨9⟩)
          let h₁ ← get
          handleReport (.wifi (.scan {}))
          let h₂ ← get
          handleReport (.wifi (.monitorStatus false 0))
          return (h₁, h₂)) h₀ (fun (h₁, h₂) h₃ =>
            (h₁.scanRequester = some ⟨1⟩ ∧ h₁.wifi.monitors = [⟨1⟩] ∧
              awaitsResults h₁.wifi.scanSlot = true ∧
              h₁.queue.admits [.event (scanBroadcast {})] = true ∧
              h₁.queue.tasks = answers.map .event) ∧
            (h₂.queue.tasks = answers.map .event ++ [.event (scanBroadcast {})] ∧
              h₂.wifi.monitors = [⟨1⟩]) ∧
            h₃.queue.tasks = answers.map .event ++ .event (scanBroadcast {}) :: [.event last] ∧
            h₃.wifi.monitors = [])
        fun _ _ => False := ⟨_, rfl, by decide +kernel⟩
  simp only [ends_bind, ends_get] at hrun
  obtain ⟨_, g₁, hr₁, hrun⟩ := hrun.exists_ok
  split at hrun
  · cases hrun
  rename_i id registry hjoin
  simp only [ends_bind, ends_get, ends_set, ends_pure] at hrun
  obtain ⟨_, g₂, hr₂, hrun⟩ := hrun.exists_ok
  obtain ⟨_, g₃, hr₃, hrun⟩ := hrun.exists_ok
  obtain ⟨_, g₄, hr₄, hrun⟩ := hrun.exists_ok
  obtain ⟨_, g₅, hr₅, hrun⟩ := hrun.exists_ok
  obtain ⟨_, h₁, hr₆, hrun⟩ := hrun.exists_ok
  obtain ⟨_, h₂, hr₇, hrun⟩ := hrun.exists_ok
  obtain ⟨_, h₃, hr₈, ⟨hrequester, hm₁, hawaits, hroom, hq₁⟩, hq₂, hq₃⟩ := hrun.exists_ok
  subst hblank
  have hinit := (still_powers.initialise_obeys _).ok hr₁
  have hbefore := ((((((Procession.start.between (.other hinit)).between (.join hjoin)).between
    (.call hr₂)).between (.report hr₃)).between (.call hr₄)).between (.report hr₅)).between
    (.call hr₆)
  refine ⟨_, h₁, h₂, h₃, answers, [.event last], ⟨hbefore, ?_, hr₇, hrequester, hm₁, hawaits, hroom,
    by decide, hq₁⟩, hq₂, hr₈, hq₃⟩
  simp [Move.bypasses]

/-- A monitor gets the results of its scan once if it still is one when they are dispatched. -/
theorem lasting_monitor_is_told_once :
    ∃ (ms₁ ms : List Move) (h₁ h₂ h₃ : Hub Script Stations), ScanRun ms₁ h₁ {} h₂ ms h₃ ∧
      h₁.scanRequester = some ⟨1⟩ ∧ h₁.wifi.monitors = [⟨1⟩] ∧ .left ⟨1⟩ ∉ ms ∧
      (receipts h₁.front.queued ms (h₁.scanPosts {})).count ⟨1⟩ = 1 := by
  obtain ⟨ms₁, h₁, h₂, -, answers, -, hw, ⟨hq, hm⟩, -⟩ := exists_wavering_monitor
  obtain ⟨ms, t, h₃, hs, ht, hl, hwifi⟩ := hw.runs .start (by simp) rfl hq
  obtain ⟨-, -, hall⟩ := @scan_results_reach_whom_they_are_for Script Stations _ _
  obtain ⟨-, hsplit⟩ := hall ms₁ h₁ {} h₂ ms h₃ hs
  have honce := ((hsplit (by simp [hw.monitors])).2 t ht).1 ⟨1⟩ hw.requester hl
  rw [hw.monitors, hwifi, hm] at honce
  exact ⟨ms₁, ms, h₁, h₂, h₃, hs, hw.requester, hw.monitors, hl, honce⟩

/-- A monitor that is one no more when the results of its scan are dispatched gets none. -/
theorem wavering_monitor_is_not_told : ¬ ∀ (ms₁ ms : List Move) (h₁ h₂ h₃ : Hub Script Stations)
    (scan : Scan), ScanRun ms₁ h₁ scan h₂ ms h₃ → ∀ a, h₁.scanRequester = some a →
      .left a ∉ ms → (receipts h₁.front.queued ms (h₁.scanPosts scan)).count a = 1 := by
  intro hclaim
  obtain ⟨ms₁, h₁, h₂, h₃, answers, ts, hw, -, hr, hq, hm⟩ := exists_wavering_monitor
  obtain ⟨ms, t, h₄, hs, ht, hl, hwifi⟩ := hw.runs (.between .start (.report hr)) (by simp) rfl hq
  have honce := hclaim ms₁ ms h₁ h₂ h₄ {} hs ⟨1⟩ hw.requester hl
  rw [hs.receipts_count (by simp [hw.monitors]) ht fun _ _ => hl, hw.monitors, hwifi, hm] at honce
  simp at honce

end Hub

end ContextHub
