import ContextHub.Proofs.Demo.Requests
import ContextHub.Proofs.Simulation.Punctual
/-!
# The demo's tasks

What a task does to a hub that is ready: an event runs the handler of one of the three nanoapps, a
callback is for the request in flight or for the pool. `Poised total h` is how the hub stands
between two tasks. Whatever the next one is, its processing is paid from what it cost and leaves
something over (`process_hosts`).
-/

namespace ContextHub

namespace Demo

open Hub TimerPool

variable {registry : Registry DemoApp} {total left : Nat} {h : DemoHub}

/-! ## The nanoapps -/

/-- The nanoapps in the order in which they were loaded. -/
def crew (ticker scanner poller : DemoApp) : List (Nanoapp DemoApp) :=
  [{ id := ⟨1⟩, app := DemoApp.tickerId, permissions := {}, behaviour := some ticker },
   { id := ⟨2⟩, app := DemoApp.scannerId, permissions := { wifi := true }
     behaviour := some scanner },
   { id := ⟨3⟩, app := DemoApp.cellPollerId, permissions := { wwan := true }
     behaviour := some poller }]

/-- All three are loaded, and none is running. -/
def AtHand (r : Registry DemoApp) : Prop :=
  ∃ period timer ticks interval cookie pause, r.apps =
    crew (.ticker period timer ticks) (.scanner interval cookie) (.cellPoller pause)

/-- What is recorded goes into the trace, and the nanoapp goes on. -/
theorem record_ready {α : Type} {id : InstanceId} {f : Unit → Program α}
    {Q : α → DemoHub → Prop} (hr : Ready registry total left (gist h)) (tag : EventType)
    (detail : List UInt8)
    (hf : ∀ h' : DemoHub, Ready registry total left (gist h') →
      Ends (execute id (f ())) h' Q fun _ _ => False) :
    Ends (execute id (DemoApp.record tag detail >>= f)) h Q fun _ _ => False := by
  unfold DemoApp.record
  refine ends_execute_bind.2 (ends_execute_bind.2 (ends_bind.2 (ends_modify.2 ?_)))
  exact hf _ hr

theorem permitted_ends {id : InstanceId} {n : Nanoapp DemoApp}
    (hn : h.registry.find? id = some n) {permission : Permission}
    (hp : n.permissions.allows permission = true) :
    Ends (permitted id permission) h (fun b h' => b = true ∧ h' = h) (fun _ _ => False) := by
  unfold permitted
  rw [ends_bind, ends_get, hn]
  dsimp only
  rw [if_pos hp]
  exact ⟨rfl, rfl⟩

/-- A nanoapp gets what it asks for with a permission that it has. -/
theorem askFor_ready {id : InstanceId} {n : Nanoapp DemoApp} (hn : h.registry.find? id = some n)
    {permission : Permission} (hp : n.permissions.allows permission = true) (request : String)
    {ask : DemoM (Except RequestError Unit)}
    (ha : Ends ask h (fun _ h' => Ready registry total left (gist h')) (fun _ _ => False)) :
    Ends (askFor id permission request ask) h (fun _ h' => Ready registry total left (gist h'))
      (fun _ _ => False) := by
  refine (permitted_ends hn hp).bind ?_
  rintro _ _ ⟨rfl, rfl⟩
  refine ha.bind ?_
  intro r h' hr
  cases r with
  | ok => exact hr
  | error => exact hr

/-- The ticker only looks on, and costs no more than the event itself. -/
theorem ticker_ready {e : Event} (hr : Ready registry total (cost (.event e)) (gist h))
    (d : Delivery) (period : Nat) (timer : TimerHandle) (ticks : Nat) :
    Ends (execute ⟨1⟩ (DemoApp.handle d (.ticker period timer ticks))) h
      (fun a h' => (∃ n, a = .ticker period timer n) ∧ Ready registry total 1 (gist h'))
      (fun _ _ => False) := by
  have hr₁ : Ready registry total 1 (gist h) := hr.spend (cost_pos _)
  unfold DemoApp.handle
  dsimp only
  split
  · split
    · refine record_ready hr₁ _ _ fun h' hr' => ?_
      refine ends_execute_bind.2 (ends_bind.2 (ends_modify.2 ?_))
      exact ⟨⟨_, rfl⟩, hr'⟩
    · exact ⟨⟨_, rfl⟩, hr₁⟩
  · exact ⟨⟨_, rfl⟩, hr₁⟩

theorem scanner_ready {e : Event} (he : e.target = .nanoapp ⟨2⟩)
    (hr : Ready registry total (cost (.event e)) (gist h)) {n : Nanoapp DemoApp}
    (hn : registry.find? ⟨2⟩ = some n) (hp : n.permissions.allows .wifi = true) {d : Delivery}
    (hd : d.type = e.type) (interval cookie : Nat) :
    Ends (execute ⟨2⟩ (DemoApp.handle d (.scanner interval cookie))) h
      (fun a h' => (∃ n, a = .scanner interval n) ∧ Ready registry total 1 (gist h'))
      (fun _ _ => False) := by
  have hr₁ : Ready registry total 1 (gist h) := hr.spend (cost_pos _)
  unfold DemoApp.handle
  dsimp only
  rw [hd]
  by_cases htype : e.type = EventType.timer
  · rw [cost, if_pos ⟨htype, he⟩] at hr
    have hn : (gist h).registry.find? ⟨2⟩ = some n := hr.registry ▸ hn
    rw [if_pos htype]
    refine Ends.bind (askFor_ready hn hp _ (requestScan_ready hr ⟨cookie⟩)) ?_
    intro accepted h' hr'
    cases accepted with
    | true => exact ⟨⟨_, rfl⟩, hr'⟩
    | false => exact ⟨⟨_, rfl⟩, hr'⟩
  rw [if_neg htype]
  split
  · split
    · exact record_ready hr₁ _ _ fun h' hr' => ⟨⟨_, rfl⟩, hr'⟩
    · exact ⟨⟨_, rfl⟩, hr₁⟩
  · split
    · exact record_ready hr₁ _ _ fun h' hr' => ⟨⟨_, rfl⟩, hr'⟩
    · exact ⟨⟨_, rfl⟩, hr₁⟩
  · exact ⟨⟨_, rfl⟩, hr₁⟩

theorem poller_ready {e : Event} (he : e.target = .nanoapp ⟨3⟩)
    (hr : Ready registry total (cost (.event e)) (gist h)) {n : Nanoapp DemoApp}
    (hn : registry.find? ⟨3⟩ = some n) (hp : n.permissions.allows .wwan = true) {d : Delivery}
    (hd : d.type = e.type) (pause : Nat) :
    Ends (execute ⟨3⟩ (DemoApp.handle d (.cellPoller pause))) h
      (fun a h' => a = .cellPoller pause ∧ Ready registry total 1 (gist h'))
      (fun _ _ => False) := by
  have hr₁ : Ready registry total 1 (gist h) := hr.spend (cost_pos _)
  unfold DemoApp.handle
  dsimp only
  rw [hd]
  by_cases htype : e.type = EventType.timer
  · have hcost : cost (.event e) = 3 := by simp [cost, htype, he]
    rw [hcost] at hr
    have hn : (gist h).registry.find? ⟨3⟩ = some n := hr.registry ▸ hn
    rw [if_pos htype]
    refine ends_bind.2 (ends_bind.2 (ends_get.2 ?_))
    refine ends_pure.2 (Ends.bind (askFor_ready hn hp _ (requestCellInfo_ready hr _)) ?_)
    intro _ h' hr'
    exact ⟨rfl, hr'⟩
  rw [if_neg htype]
  split
  · split
    · exact record_ready hr₁ _ _ fun h' hr' => ⟨rfl, hr'⟩
    · exact ⟨rfl, hr₁⟩
  · exact ⟨rfl, hr₁⟩

/-! ## Events -/

/-- Between two tasks, with something left to spend. -/
def Hosts (total left : Nat) (h : DemoHub) : Prop :=
  AtHand h.registry ∧ Ready h.registry total left (gist h)

theorem Ready.hosts (hr : Ready registry total left (gist h)) (ha : AtHand registry) :
    Hosts total left h := by
  have hsame : h.registry = registry := hr.registry
  subst hsame
  exact ⟨ha, hr⟩

/-- A nanoapp is taken out or put back. -/
theorem Ready.rehosted {g : Gist} (hr : Ready registry total left g) (r : Registry DemoApp) :
    Ready r total left { g with registry := r } :=
  { hr with registry := rfl }

/-- An event reaches a nanoapp that is not running. -/
theorem deliver_toOne {e : Event} {id : InstanceId} {a : DemoApp} {given : Nat}
    (he : e.target = .nanoapp id) (ha : h.registry.behaviour? id = some a)
    (hr : Ready h.registry total given (gist h))
    (hrun : ∀ h₁ : DemoHub, Ready (h.registry.takeOut id) total given (gist h₁) →
      Ends (execute id (DemoApp.handle ⟨id, e.sender, e.type, e.payload⟩ a)) h₁
        (fun a' h' => AtHand ((h.registry.takeOut id).putBack id a') ∧
          Ready (h.registry.takeOut id) total left (gist h')) (fun _ _ => False)) :
    Ends (deliver e) h (fun _ => Hosts total left) (fun _ _ => False) := by
  have hrecipients : h.registry.recipients e = [id] := by
    rw [Registry.recipients, he]
    apply if_pos
    rw [Registry.contains]
    cases hf : h.registry.find? id with
    | none => simp [Registry.behaviour?, hf] at ha
    | some => rfl
  unfold deliver
  rw [ends_bind, ends_get, hrecipients]
  refine ends_bind.2 (ends_bind.2 ?_)
  unfold deliverTo withBehaviour
  rw [ends_bind, ends_get, ha]
  refine ends_bind.2 (ends_modify.2 (ends_bind.2 (ends_bind.2 (ends_get.2 ?_))))
  dsimp only
  rw [ha]
  refine ends_bind.2 (ends_set.2 (ends_bind.2 (ends_execute_bind.2 ?_)))
  refine Ends.mono (hrun _ (hr.rehosted _)) ?_ fun _ _ he => he
  rintro a' h' ⟨hhand, hr'⟩
  have hregistry : h'.registry = h.registry.takeOut id := hr'.registry
  refine ⟨?_, hr'.rehosted _⟩
  show AtHand (h'.registry.putBack id a')
  rw [hregistry]
  exact hhand

theorem deliver_ready {e : Event} (ha : AtHand h.registry)
    (hr : Ready h.registry total (cost (.event e)) (gist h)) (he : Foreseen (.event e)) :
    Ends (deliver e) h (fun _ => Hosts total 1) (fun _ _ => False) := by
  obtain ⟨period, timer, ticks, interval, cookie, pause, happs⟩ := ha
  rcases he with he | he | he | he
  · have hnobody : h.registry.recipients e = [] := by
      rw [Registry.recipients, he]
      simp [happs, crew, Nanoapp.isSubscribed]
    unfold deliver
    rw [ends_bind, ends_get, hnobody]
    unfold dropUndelivered
    rw [he]
    exact ⟨⟨period, timer, ticks, interval, cookie, pause, happs⟩, hr.spend (cost_pos _)⟩
  · refine deliver_toOne (a := .ticker period timer ticks) he ?_ hr fun h₁ hr₁ => ?_
    · simp [Registry.behaviour?, Registry.find?, happs, crew]
    · refine (ticker_ready hr₁ _ period timer ticks).mono ?_ fun _ _ he => he
      rintro _ h' ⟨⟨n, rfl⟩, hr'⟩
      refine ⟨⟨period, timer, n, interval, cookie, pause, ?_⟩, hr'⟩
      simp [Registry.takeOut, Registry.putBack, Registry.update, happs, crew]
  · refine deliver_toOne (a := .scanner interval cookie) he ?_ hr fun h₁ hr₁ => ?_
    · simp [Registry.behaviour?, Registry.find?, happs, crew]
    · have hn : (h.registry.takeOut ⟨2⟩).find? ⟨2⟩ = some
          { id := ⟨2⟩, app := DemoApp.scannerId, permissions := { wifi := true }
            behaviour := none } := by
        simp [Registry.takeOut, Registry.update, Registry.find?, happs, crew]
      refine Ends.mono (scanner_ready he hr₁ hn rfl rfl interval cookie) ?_ fun _ _ he => he
      rintro _ h' ⟨⟨n, rfl⟩, hr'⟩
      refine ⟨⟨period, timer, ticks, interval, n, pause, ?_⟩, hr'⟩
      simp [Registry.takeOut, Registry.putBack, Registry.update, happs, crew]
  · refine deliver_toOne (a := .cellPoller pause) he ?_ hr fun h₁ hr₁ => ?_
    · simp [Registry.behaviour?, Registry.find?, happs, crew]
    · have hn : (h.registry.takeOut ⟨3⟩).find? ⟨3⟩ = some
          { id := ⟨3⟩, app := DemoApp.cellPollerId, permissions := { wwan := true }
            behaviour := none } := by
        simp [Registry.takeOut, Registry.update, Registry.find?, happs, crew]
      refine Ends.mono (poller_ready he hr₁ hn rfl rfl pause) ?_ fun _ _ he => he
      rintro _ h' ⟨rfl, hr'⟩
      refine ⟨⟨period, timer, ticks, interval, cookie, pause, ?_⟩, hr'⟩
      simp [Registry.takeOut, Registry.putBack, Registry.update, happs, crew]

/-! ## Callbacks -/

/-- A callback other than the tick of the pool is for the request in flight, if there is one. -/
theorem runCallback_ready {c : Callback} (hne : c ≠ .timerTick) (hc : Foreseen (.deferred c))
    (hr : Ready registry total (cost (.deferred c)) (gist h))
    (hl : Linked (awaited h.wifi.scanSlot h.wwan.cellSlot) h.timers.requests
      (.deferred c :: h.queue.tasks)) (hs : Sorted (.deferred c :: h.queue.tasks)) :
    Ends (runCallback c) h (fun _ h' => Ready registry total 1 (gist h')) (fun _ _ => False) := by
  cases c with
  | timerTick => exact absurd rfl hne
  | timerExpired x u =>
    obtain ⟨hno, hnone⟩ := hl.expired
    rcases List.mem_cons.1 hc with rfl | hc
    · exact handleScanRetry_ready hr hnone x
    rcases List.mem_cons.1 hc with rfl | hc
    · exact handleScanTimeout_ready hr hno x
    · obtain rfl := List.mem_singleton.1 hc
      exact handleCellTimeout_ready hr hnone hno x
  | report r =>
    have hno : told h.queue.tasks = [] := told_of_report hs rfl
    cases r with
    | wifi r =>
      cases r with
      | scanResponse pending raw => exact handleScanResponse_ready hr hno pending raw
      | scan scan => exact handleScan_ready hr hno scan
      | monitorStatus => exact hc.elim
      | ranging => exact hc.elim
    | wwan r => exact handleCellReport_ready hr hno r
    | gnss => exact hc.elim
  | unload => exact hc.elim

/-! ## The tick of the pool -/

theorem foreseen_notice {r : TimerRequest} (hr : roleOf r.toTimerSpec ∈ roles) :
    Foreseen r.notice := by
  unfold TimerRequest.notice
  unfold roleOf at hr
  cases hu : r.purpose with
  | some u =>
    have hm : u ∈ purposes := by simpa [hu, roles] using hr
    exact hm
  | none =>
    have howner : r.owner = ⟨1⟩ ∨ r.owner = ⟨2⟩ ∨ r.owner = ⟨3⟩ := by simpa [hu, roles] using hr
    rcases howner with h | h | h <;> simp [Foreseen, Event.toOne, h]

theorem postExpiry_affords {r : TimerRequest} (hq : Affords total (left + cost r.notice) h.queue)
    (hno : ∀ t ∈ h.queue.tasks, isReport t = false) (hr : Foreseen r.notice) :
    Ends (postExpiry r) h (fun _ h' => ∃ q s j, h' = { h with
        queue := q, stats := s, journal := j } ∧ s.dropped = h.stats.dropped ∧
        Affords total left q ∧ q.tasks = h.queue.tasks ++ [r.notice]) (fun _ _ => False) := by
  unfold TimerRequest.notice at hq hr
  unfold postExpiry TimerRequest.notice
  cases hu : r.purpose with
  | some u =>
    rw [hu] at hq hr
    refine (deferOrDie_affords _ hq hr ?_).mono ?_ fun _ _ he => he
    · intro t ht hreport
      exact absurd (hreport.symm.trans (hno t ht)) Bool.noConfusion
    · rintro _ _ ⟨q, rfl, hafford, htasks⟩
      exact ⟨q, _, _, rfl, rfl, hafford, htasks⟩
  | none =>
    rw [hu] at hq hr
    refine (post_affords _ hq hr).bind ?_
    rintro _ _ ⟨rfl, hposted⟩
    exact hposted

/-- What fell due is queued at once. -/
theorem postExpiries_affords {fired : List TimerRequest}
    (hq : Affords total (left + totalCost (fired.map (·.notice))) h.queue)
    (hno : ∀ t ∈ h.queue.tasks, isReport t = false) (hf : ∀ r ∈ fired, Foreseen r.notice) :
    Ends (fired.forM postExpiry) h (fun _ h' => ∃ q s j, h' = { h with
        queue := q, stats := s, journal := j } ∧ s.dropped = h.stats.dropped ∧
        Affords total left q ∧ q.tasks = h.queue.tasks ++ fired.map (·.notice))
      (fun _ _ => False) := by
  induction fired generalizing h with
  | nil => exact ⟨h.queue, h.stats, h.journal, rfl, rfl, hq, (List.append_nil _).symm⟩
  | cons r fired ih =>
    obtain ⟨hfirst, hrest⟩ := List.forall_mem_cons.1 hf
    have hpaid : Affords total (left + totalCost (fired.map (·.notice)) + cost r.notice) h.queue :=
      hq.spend (by simp only [List.map_cons, totalCost_cons]; omega)
    refine Ends.bind (postExpiry_affords hpaid hno hfirst) ?_
    rintro _ _ ⟨q, s, j, rfl, hdropped, hafford, htasks⟩
    refine Ends.mono (ih hafford ?_ hrest) ?_ fun _ _ he => he
    · intro t ht
      rw [htasks] at ht
      rcases List.mem_append.1 ht with ht | ht
      · exact hno t ht
      · rw [List.mem_singleton.1 ht, TimerRequest.notice]
        cases r.purpose <;> rfl
    · rintro _ _ ⟨q', s', j', rfl, hdropped', hafford', htasks'⟩
      refine ⟨q', s', j', rfl, hdropped'.trans hdropped, hafford', ?_⟩
      rw [htasks', htasks, List.append_assoc]
      rfl

/-- What a tick leaves in the pool, beside what it queued. -/
theorem Linked.ticked {awaits : TimerPurpose → Option TimerHandle} {now : Nat} {p q : TimerPool}
    {fired : List TimerRequest} (hl : Linked awaits p.requests []) (hp : Census p)
    (hup : ∀ r ∈ p.requests, now ≤ r.expiration) (hnow : now < Nanos.last)
    (hs : Serves now p fired q) : Linked awaits q.requests (fired.map (·.notice)) := by
  have hfired : fired.Subperm p.requests := hs.fired_subperm hnow hup
  have hold {r : TimerRequest} {u : TimerPurpose} (hr : r ∈ q.requests) (hu : r.purpose = some u) :
      r ∈ p.requests := by
    apply hs.mem_oneShot hr
    apply (hp.serve hs).oneShot r hr
    rw [hu]
    rfl
  refine ⟨fun r hr u hu => hl.awaited r (hold hr hu) u hu, hp.told_fired_nodup hfired, ?_⟩
  intro u hu
  obtain ⟨f, hf, hfu⟩ := mem_told_notices hu
  have hfp := hfired.subset hf
  refine ⟨fun r hr hru => ?_, .inr ?_⟩
  · -- the one that fired is not ahead
    obtain rfl := hp.eq_of_purpose (hold hr hru) hfp hru hfu
    have hdue := hs.on_time hup r hf
    have hahead := hs.remaining r hr
    omega
  · rw [hl.awaited f hfp u hfu]
    rfl

/-- The tick of the pool pays for whatever falls due. -/
theorem tick_ready (hq : h.queue.tasks = []) (hst : Steady registry total allowance (gist h))
    (hup : ∀ r ∈ h.timers.requests, h.now ≤ r.expiration)
    (hl : Linked (awaited h.wifi.scanSlot h.wwan.cellSlot) h.timers.requests []) :
    Ends tick h (fun _ h' => Ready registry total 1 (gist h')) (fun _ _ => False) := by
  have hp : Census h.timers := hst.census
  have hnow : h.now < Nanos.last := hst.early
  obtain ⟨fired, pool, ht, -⟩ := tick?_firesExactly hp.coherent hnow
  obtain ⟨p, hs, rfl⟩ := tick?_eq_some hp.coherent ht
  have hfired : fired.Subperm h.timers.requests := hs.fired_subperm hnow hup
  have hcost := hp.totalCost_fired hfired
  have hpaid : Affords total (1 + totalCost (fired.map (·.notice))) h.queue :=
    Affords.spend hst.queue (by omega)
  unfold tick
  rw [ends_bind, ends_get, ht]
  refine ends_bind.2 (ends_modify.2 ?_)
  refine Ends.bind (postExpiries_affords (h := { h with timers := p.rearm h.now }) hpaid ?_ ?_) ?_
  · simp [hq]
  · exact fun r hr => foreseen_notice (hp.known r (hfired.subset hr))
  rintro _ _ ⟨q, s, j, rfl, hdropped, hafford, htasks⟩
  have hlinked := hl.ticked hp hup hnow hs
  have hnotices : q.tasks = fired.map (·.notice) := by
    rw [htasks, hq]
    rfl
  refine ⟨{ hst with queue := hafford, dropped := ?_, census := ?_ }, ?_, ?_⟩
  · exact hdropped.trans hst.dropped
  · exact (hp.serve hs).hush _
  · exact hs.remaining
  · show Linked _ _ q.tasks
    rw [hnotices]
    exact hlinked

/-! ## Between two tasks -/

/-- How the hub stands between two tasks. -/
structure Poised (total : Nat) (h : DemoHub) : Prop where
  atHand : AtHand h.registry
  steady : Steady h.registry total 0 (gist h)
  linked : Linked (awaited h.wifi.scanSlot h.wwan.cellSlot) h.timers.requests h.queue.tasks
  prompt : h.Prompt
  ahead : .deferred .timerTick ∈ h.queue.tasks ∨ ∀ r ∈ h.timers.requests, h.now < r.expiration

/-- What is left is saved. -/
theorem Hosts.poised (hh : Hosts (total + left) left h) (hp : h.Prompt) : Poised total h := by
  obtain ⟨ha, hr⟩ := hh
  exact ⟨ha, { hr.toSteady with queue := hr.queue.save }, hr.linked, hp, .inr hr.ahead⟩

theorem processTick_hosts {q : Queue} (hp : Poised total h)
    (hn : h.queue.next? = some (.deferred .timerTick, q)) :
    Ends (process (.deferred .timerTick)) { h with queue := q } (fun _ => Hosts total 1)
      (fun _ _ => False) := by
  have hqueue : Affords total 0 h.queue := hp.steady.queue
  obtain ⟨hq, htasks⟩ := hqueue.take hn
  have hl := hp.linked
  have halone := hqueue.tick_alone (htasks ▸ List.mem_cons_self)
  have hempty : q.tasks = [] := (List.cons.inj (htasks.symm.trans halone)).2
  rw [halone] at hl
  have hst : Steady h.registry total allowance { gist h with queue := q } :=
    { hp.steady with queue := hq }
  unfold process runCallback
  simp only [ends_bind, ends_get, modifyStats, countMetric, emit, ends_modify]
  refine Ends.mono (Q := fun _ h' => Ready h.registry total 1 (gist h')) ?_ ?_ fun _ _ he => he
  · exact tick_ready hempty hst hp.prompt.upcoming hl.take
  · intro n h' hr
    exact hr.hosts hp.atHand

/-- A task is taken and processed, and has cost something. -/
theorem process_hosts {t : Task} {q : Queue} (hp : Poised total h)
    (hn : h.queue.next? = some (t, q)) :
    Ends (process t) { h with queue := q } (fun _ => Hosts total 1) (fun _ _ => False) := by
  by_cases htick : t = .deferred .timerTick
  · subst htick
    exact processTick_hosts hp hn
  have hqueue : Affords total 0 h.queue := hp.steady.queue
  obtain ⟨hq, htasks⟩ := hqueue.take hn
  have ht : Foreseen t := hqueue.foreseen t (htasks ▸ List.mem_cons_self)
  have hl := hp.linked
  have hsorted := hqueue.sorted
  rw [htasks] at hl hsorted
  -- a tick would be the first, since it is alone
  have hahead : ∀ r ∈ h.timers.requests, h.now < r.expiration := by
    refine hp.ahead.resolve_left fun hm => htick ?_
    exact (List.cons.inj (htasks.symm.trans (hqueue.tick_alone hm))).1
  have hr : Ready h.registry total (cost t) { gist h with queue := q } :=
    { hp.steady with queue := hq, ahead := hahead, linked := hl.take }
  unfold process
  rw [ends_bind, ends_get]
  cases t with
  | event e =>
    refine Ends.bind (P := fun _ => Hosts total 1) ?_ ?_
    · exact deliver_ready hp.atHand hr ht
    · intro _ h' hh
      exact hh
  | deferred c =>
    refine ends_bind.2 (ends_modify.2 (ends_bind.2 (ends_modify.2 (ends_bind.2 ?_))))
    refine ends_modify.2 ?_
    refine Ends.bind (P := fun _ h' => Ready h.registry total 1 (gist h')) ?_ ?_
    · exact runCallback_ready (fun hc => htick (congrArg _ hc)) ht hr hl hsorted
    · intro _ h' hr'
      exact hr'.hosts hp.atHand

end Demo

end ContextHub
