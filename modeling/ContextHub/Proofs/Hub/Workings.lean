import ContextHub.Proofs.Hub.Hosting
/-!
# What the steps of a hub are made of

The clock, the timers, the queue, and what the journal tells of the fates of events: a hub changes
these by posting, deferring and discarding, by setting and cancelling timers, and by ticks. Scan
monitoring is changed by three operations of its own. All else that a hub does leaves everything of
this alone (`Apart`). A law that these operations obey (`Law.Operates`) is obeyed by every call of a
nanoapp, every report and timeout; if it lets nanoapps come and go (`Law.Works`), by every
load and unload; if it says nothing about the later fates of events either (`Law.Dispatches`), by
the processing of every task too. Ticks are looked at by themselves, since some laws except them.
Most laws say nothing about radios, and then the three operations need no look of their own
(`Law.Spares`, `Law.Overlooks`). Hosts may do all of this as well (`Usage`).
-/

namespace ContextHub

theorem Event.toOne_ne_timer {type : EventType} (ht : type ≠ EventType.timer) (payload : Payload)
    (id : InstanceId) : (Event.toOne type payload id).type ≠ EventType.timer := ht

theorem Event.toAll_ne_timer {type : EventType} (ht : type ≠ EventType.timer) (payload : Payload) :
    (Event.toAll type payload).type ≠ EventType.timer := ht

/-- Whether an entry tells of an event handed in, delivered or done with. -/
def Entry.isFate : Entry → Bool
  | .handed _ _ => true
  | .released _ => true
  | .delivered _ _ _ => true
  | _ => false

/-- What the radio was asked of scan monitoring, and whether it accepted. -/
def Entry.monitorAsk? : Entry → Option (Bool × Bool)
  | .requested (.scanMonitor target) accepted => some (target, accepted)
  | _ => none

theorem RadioRequest.monitorAsk?_eq_none {request : RadioRequest}
    (hr : ∀ target, request ≠ .scanMonitor target) (accepted : Bool) :
    (Entry.requested request accepted).monitorAsk? = none := by
  cases request with
  | scanMonitor target => exact absurd rfl (hr target)
  | _ => rfl

/-- Who is loaded, and whether the behaviour is at hand or taken out. -/
def Registry.staff {A : Type} (r : Registry A) : List (InstanceId × Bool) :=
  r.apps.map fun n => (n.id, n.behaviour.isSome)

theorem Registry.staff_update {A : Type} (r : Registry A) (id : InstanceId)
    {f : Nanoapp A → Nanoapp A} (hid : ∀ n, (f n).id = n.id)
    (hf : ∀ n, (f n).behaviour.isSome = n.behaviour.isSome) : (r.update id f).staff = r.staff := by
  rw [staff, update, List.map_map]
  refine List.map_congr_left fun n _ => ?_
  rw [Function.comp_apply]
  split
  · rw [hid, hf]
  · rfl

/-- Who is loaded as which app, and where the counter of instance ids stands. -/
def Registry.roll {A : Type} (r : Registry A) : List (InstanceId × AppId) × Nat :=
  (r.apps.map fun n => (n.id, n.app), r.nextId)

theorem Registry.roll_update {A : Type} (r : Registry A) (id : InstanceId)
    {f : Nanoapp A → Nanoapp A} (hf : ∀ n, ((f n).id, (f n).app) = (n.id, n.app)) :
    (r.update id f).roll = r.roll := by
  rw [roll, update, List.map_map]
  refine congrArg (·, r.nextId) (List.map_congr_left fun n _ => ?_)
  rw [Function.comp_apply]
  split
  · exact hf n
  · rfl

/-- What loading, unloading and running an entry point do to the registry. -/
inductive Registry.Revised {A : Type} (r : Registry A) : Registry A → Prop
  | takeOut (id : InstanceId) : Revised r (r.takeOut id)
  | putBack (id : InstanceId) (a : A) : Revised r (r.putBack id a)
  | register {app : AppId} {permissions : Permissions} {behaviour : A} {id : InstanceId}
      {r' : Registry A} (h : r.register app permissions behaviour = .ok (id, r')) : Revised r r'
  | remove (id : InstanceId) : Revised r (r.remove id)

/-- Who monitors scans, what change is in flight, and what the radio confirmed last. -/
def WifiState.monitoring (w : WifiState) : List InstanceId × Slot MonitorChange × Bool :=
  (w.monitors, w.monitorSlot, w.monitorEnabled)

theorem WifiState.ScanEdit.monitoring {W : Admission} {f : WifiState → WifiState}
    (hf : ScanEdit W f) (w : WifiState) : (f w).monitoring = w.monitoring := by cases hf <;> rfl

theorem WifiState.RangingEdit.monitoring {W : Admission} {f : WifiState → WifiState}
    (hf : RangingEdit W f) (w : WifiState) : (f w).monitoring = w.monitoring := by cases hf <;> rfl

namespace Hub

variable {A R α : Type}

/-- What the journal tells of events, latest first. -/
def fates (h : Hub A R) : List Entry := h.journal.filter Entry.isFate

/-- The changes of scan monitoring that the radio was asked for, latest first. -/
def monitorAsks (h : Hub A R) : List (Bool × Bool) := h.journal.filterMap Entry.monitorAsk?

/-- The clock, the timers, the queue and the fates of events stay as they are. -/
structure Beside (h h' : Hub A R) : Prop where
  now : h'.now = h.now
  timers : h'.timers = h.timers
  queue : h'.queue = h.queue
  fates : h'.fates = h.fates

/-- So do they, and so do scan monitoring, the staff and the roll. -/
structure Apart (h h' : Hub A R) : Prop extends h.Beside h' where
  monitoring : h'.wifi.monitoring = h.wifi.monitoring
  monitorAsks : h'.monitorAsks = h.monitorAsks
  staff : h'.registry.staff = h.registry.staff
  roll : h'.registry.roll = h.registry.roll

/-- A law for posting and deferring, and for all that is apart from it. Only ticks post expiries of
timers. -/
structure Law.Posts (L : Law A R) : Prop where
  apart : ∀ {h h' : Hub A R}, h.Apart h' → L.rel h h'
  halt : ∀ (h : Hub A R) e, L.halts h e h
  tryPost_obeys : ∀ e, e.type ≠ EventType.timer → Obeys L (tryPost e)
  defer_obeys : ∀ c, Obeys L (defer c)

/-- A law for events and timers, but for ticks. -/
structure Law.Times (L : Law A R) : Prop extends L.Posts where
  /-- An event of a reserved type is handed in, and done with at once. -/
  refuse : ∀ (e : Event) (h : Hub A R), e.type < EventType.firstUser →
    L.rel h { h with journal := .released e :: .handed e false :: h.journal }
  discard_obeys : ∀ p, Obeys L (discard p)
  trySetTimer_obeys : ∀ s, Obeys L (trySetTimer s)
  cancelTimer_obeys : ∀ owner x, Obeys L (cancelTimer owner x)
  cancelTimersOf_obeys : ∀ owner, Obeys L (cancelTimersOf owner)
  fireIfDue_obeys : Obeys L fireIfDue

/-- A law for what calls, reports and timeouts are made of. -/
structure Law.Operates [Radio R] (L : Law A R) : Prop extends L.Times where
  configureMonitor_obeys : ∀ id enable cookie, Obeys L (configureMonitor id enable cookie)
  handleMonitorStatus_obeys : ∀ enabled raw, Obeys L (handleMonitorStatus enabled raw)
  forgetWifi_obeys : ∀ id, Obeys L (forgetWifi id)

/-- A law for what the steps of a hub are made of: nanoapps may come, run and go. -/
structure Law.Works [Radio R] (L : Law A R) : Prop extends L.Operates where
  enlist : ∀ {h : Hub A R} {registry}, h.registry.Revised registry → L.rel h { h with registry }

variable {L : Law A R}

/-- What holds of a law holds of one that allows more. -/
theorem Law.Times.within {L' : Law A R} (hL : L.Times) (hw : L.Within L') : L'.Times where
  apart ha := hw.rel (hL.apart ha)
  halt h e := hw.halts (hL.halt h e)
  tryPost_obeys e he := (hL.tryPost_obeys e he).within hw
  defer_obeys c := (hL.defer_obeys c).within hw
  refuse e h he := hw.rel (hL.refuse e h he)
  discard_obeys p := (hL.discard_obeys p).within hw
  trySetTimer_obeys s := (hL.trySetTimer_obeys s).within hw
  cancelTimer_obeys owner x := (hL.cancelTimer_obeys owner x).within hw
  cancelTimersOf_obeys owner := (hL.cancelTimersOf_obeys owner).within hw
  fireIfDue_obeys := hL.fireIfDue_obeys.within hw

/-! ## Logging, counting and posting -/

section

variable (hL : L.Posts)

include hL

theorem Law.Posts.aside_obeys {f : Hub A R → Hub A R} (hf : ∀ h : Hub A R, h.Apart (f h)) :
    Obeys L (modify f) :=
  .modify fun h => hL.apart (hf h)

theorem Law.Posts.emit_obeys (level : Level) (message : String) (fields : List (String × String)) :
    Obeys L (emit level message fields) :=
  hL.aside_obeys fun _ => ⟨⟨rfl, rfl, rfl, rfl⟩, rfl, rfl, rfl, rfl⟩

theorem Law.Posts.note_obeys {e : Entry} (he : e.isFate = false) (hm : e.monitorAsk? = none) :
    Obeys L (note e) :=
  hL.aside_obeys fun _ =>
    ⟨⟨rfl, rfl, rfl, List.filter_cons_of_neg (by rw [he]; exact Bool.false_ne_true)⟩, rfl,
      List.filterMap_cons_none hm, rfl, rfl⟩

theorem Law.Posts.countMetric_obeys (f : Metrics → Metrics) : Obeys L (countMetric f) :=
  hL.aside_obeys fun _ => ⟨⟨rfl, rfl, rfl, rfl⟩, rfl, rfl, rfl, rfl⟩

theorem Law.Posts.modifyStats_obeys (f : LoopStats → LoopStats) : Obeys L (modifyStats f) :=
  hL.aside_obeys fun _ => ⟨⟨rfl, rfl, rfl, rfl⟩, rfl, rfl, rfl, rfl⟩

theorem Law.Posts.countRadioError_obeys (d : Device) : Obeys L (countRadioError d) :=
  hL.countMetric_obeys _

theorem Law.Posts.checkCode_obeys (raw : Nat) : Obeys L (checkCode raw) :=
  .ite (fun _ => hL.emit_obeys _ _ _) fun _ => .pure _

theorem Law.Posts.fatal_obeys (message : String) : Obeys L (fatal message : HubM A R α) :=
  .bind (hL.emit_obeys _ _ _) fun _ => .throw fun h => hL.halt h _

omit hL in
theorem Obeys.post {e : Event} (he : Obeys L (tryPost e)) : Obeys L (post e) := by
  refine .bind he fun r => ?_
  split <;> exact .pure _

theorem Law.Posts.post_obeys {e : Event} (he : e.type ≠ EventType.timer) : Obeys L (post e) :=
  .post (hL.tryPost_obeys e he)

theorem Law.Posts.postOrDie_of_tryPost {e : Event} (he : Obeys L (tryPost e)) :
    Obeys L (postOrDie e) := by
  refine .bind he fun r => ?_
  split
  · exact .pure _
  · exact hL.fatal_obeys _

theorem Law.Posts.postOrDie_obeys {e : Event} (he : e.type ≠ EventType.timer) :
    Obeys L (postOrDie e) :=
  hL.postOrDie_of_tryPost (hL.tryPost_obeys e he)

theorem Law.Posts.deferOrDie_obeys (c : Callback) : Obeys L (deferOrDie c) :=
  .bind (hL.defer_obeys c) fun _ => .ite (fun _ => .pure _) fun _ => hL.fatal_obeys _

/-- A law that says nothing about timers is obeyed by ticks. -/
theorem Law.Posts.tick_obeys (ht : ∀ (h : Hub A R) pool, L.rel h { h with timers := pool })
    (hpost : ∀ e, Obeys L (tryPost e)) : Obeys L tick := by
  have hexpiry (r : TimerRequest) : Obeys L (postExpiry r) := by
    unfold postExpiry
    split
    · exact hL.deferOrDie_obeys _
    · refine .bind (.post (hpost _)) fun _ => .ite (fun _ => .pure _) fun _ => ?_
      exact .bind (.modify fun h => ht h _) fun _ => hL.emit_obeys _ _ _
  unfold tick
  refine .get_bind fun h => ?_
  split
  · exact .throw fun h => hL.halt h _
  · rename_i fired pool _
    have hset : Obeys L (setTimers pool) := .modify fun h => ht h pool
    exact .bind hset fun _ => .bind (.forM fun r _ => hexpiry r) fun _ => .pure _

/-- A law that allows to take events out of the queue and to be done with them. -/
theorem Law.Posts.discard_obeys
    (hqueue : ∀ (h : Hub A R) p, L.rel h { h with queue := (h.queue.discard p).2 })
    (hrelease : ∀ (h : Hub A R) e, L.rel h { h with journal := .released e :: h.journal })
    (p : Event → Bool) : Obeys L (discard p) := by
  intro h
  unfold discard
  rw [ends_bind, ends_get]
  refine ends_bind.2 (ends_set.2 (Obeys.after ?_ (hqueue h p)))
  refine .bind (.forM fun e _ => ?_) fun _ => .pure _
  exact .bind (hL.modifyStats_obeys _) fun _ => .modify fun h => hrelease h e

/-- A law that allows what is done to timers between ticks. -/
theorem Law.Posts.times_of_adjusts
    (ht : ∀ (h : Hub A R) {pool}, h.timers.Adjusts h.now pool → L.rel h { h with timers := pool })
    (hrefuse : ∀ (e : Event) (h : Hub A R), e.type < EventType.firstUser →
      L.rel h { h with journal := .released e :: .handed e false :: h.journal })
    (hdiscard : ∀ p, Obeys L (discard p)) : L.Times where
  toPosts := hL
  refuse := hrefuse
  discard_obeys := hdiscard
  trySetTimer_obeys s := by
    intro h
    unfold trySetTimer
    rw [ends_bind, ends_get]
    split
    · exact L.refl h
    · rename_i x pool hs
      refine ends_bind.2 (ends_modify.2 (Obeys.after ?_ (ht h (.set hs))))
      exact .bind (hL.emit_obeys _ _ _) fun _ => .pure _
  cancelTimer_obeys owner x := by
    intro h
    unfold cancelTimer
    rw [ends_bind, ends_get]
    split
    · exact L.refl h
    · rename_i pool hc
      exact ht h (.cancel hc)
  cancelTimersOf_obeys owner h := ht h (.cancelAll owner)
  fireIfDue_obeys := by
    intro h
    unfold fireIfDue
    rw [ends_bind, ends_get]
    split
    · exact L.refl h
    · rename_i pool hd
      refine ends_bind.2 (ends_modify.2 (Obeys.after ?_ (ht h (.alarm hd))))
      exact .bind (hL.deferOrDie_obeys _) fun _ => .pure _

/-- A law that says nothing about timers needs to look at events only. -/
theorem Law.Posts.times (ht : ∀ (h : Hub A R) pool, L.rel h { h with timers := pool })
    (hrefuse : ∀ (e : Event) (h : Hub A R), e.type < EventType.firstUser →
      L.rel h { h with journal := .released e :: .handed e false :: h.journal })
    (hdiscard : ∀ p, Obeys L (discard p)) : L.Times :=
  hL.times_of_adjusts (fun h pool _ => ht h pool) hrefuse hdiscard

end

/-! ## Timers, subscriptions and answers -/

section

variable (hL : L.Times)

include hL

theorem Law.Times.setNanoappTimer_obeys (owner : InstanceId) (duration : Nat) (cookie : Cookie)
    (oneShot : Bool) : Obeys L (setNanoappTimer owner duration cookie oneShot) := by
  refine .bind (hL.trySetTimer_obeys _) fun r => ?_
  split
  · exact .pure _
  · exact .bind (hL.emit_obeys _ _ _) fun _ => .pure _

theorem Law.Times.setSystemTimer_obeys (duration : Nat) (purpose : TimerPurpose) :
    Obeys L (setSystemTimer duration purpose) := by
  refine .bind (hL.trySetTimer_obeys _) fun r => ?_
  split
  · exact .pure _
  · exact hL.fatal_obeys _

theorem Law.Times.cancelSystemTimer_obeys (x : TimerHandle) : Obeys L (cancelSystemTimer x) :=
  hL.cancelTimer_obeys _ _

theorem Law.Times.cancelWithExpiries_obeys (id : InstanceId) (x : TimerHandle) :
    Obeys L (cancelWithExpiries id x) :=
  .bind (hL.cancelTimer_obeys _ _) fun _ => .bind (hL.discard_obeys _) fun _ => .pure _

theorem Law.Times.subscribe_obeys (id : InstanceId) (type : EventType) :
    Obeys L (subscribe id type) := by
  intro h
  unfold subscribe
  rw [ends_bind, ends_get, ends_ite]
  split
  · have hstaff := h.registry.staff_update id (f := (·.subscribe type)) (fun _ => rfl) fun _ => rfl
    have hroll := h.registry.roll_update id (f := (·.subscribe type)) fun _ => rfl
    exact hL.apart ⟨⟨rfl, rfl, rfl, rfl⟩, rfl, rfl, hstaff, hroll⟩
  · exact L.refl h

theorem Law.Times.unsubscribe_obeys (id : InstanceId) (type : EventType) :
    Obeys L (unsubscribe id type) := by
  intro h
  unfold unsubscribe
  rw [ends_bind, ends_get, ends_ite]
  split
  · have hstaff :=
      h.registry.staff_update id (f := (·.unsubscribe type)) (fun _ => rfl) fun _ => rfl
    have hroll := h.registry.roll_update id (f := (·.unsubscribe type)) fun _ => rfl
    exact hL.apart ⟨⟨rfl, rfl, rfl, rfl⟩, rfl, rfl, hstaff, hroll⟩
  · exact L.refl h

theorem Law.Times.modifyWifi_obeys {f : WifiState → WifiState}
    (hf : ∀ w, (f w).monitoring = w.monitoring) : Obeys L (modifyWifi f) :=
  hL.aside_obeys fun _ => ⟨⟨rfl, rfl, rfl, rfl⟩, hf _, rfl, rfl, rfl⟩

theorem Law.Times.modifyWwan_obeys (f : WwanState → WwanState) : Obeys L (modifyWwan f) :=
  hL.aside_obeys fun _ => ⟨⟨rfl, rfl, rfl, rfl⟩, rfl, rfl, rfl, rfl⟩

theorem Law.Times.modifySession_obeys (k : SessionKind) (f : Session → Session) :
    Obeys L (modifySession k f) :=
  hL.aside_obeys fun _ => ⟨⟨rfl, rfl, rfl, rfl⟩, rfl, rfl, rfl, rfl⟩

theorem Law.Times.tells : L.Tells .all where
  reading hf := .get_bind fun h => hf h h.admits_all
  halts_occupied h := hL.halt h _
  emit_obeys := hL.emit_obeys
  countRadioError_obeys := hL.countRadioError_obeys
  countCells_obeys _ := hL.modifyWwan_obeys _
  post_obeys he := hL.post_obeys he.type
  postOrDie_obeys he := hL.postOrDie_obeys he.type
  subscribe_obeys := hL.subscribe_obeys
  unsubscribe_obeys := hL.unsubscribe_obeys
  join_obeys k _ _ _ := hL.modifySession_obeys k _

theorem Law.Times.updateHeapGauge_obeys : Obeys L updateHeapGauge :=
  .get_bind fun _ => hL.countMetric_obeys _

theorem Law.Times.grants : L.Grants .all where
  emit_obeys := hL.emit_obeys
  user_obeys he := hL.post_obeys (Event.plain_of_user he).type
  heap _ := hL.apart ⟨⟨rfl, rfl, rfl, rfl⟩, rfl, rfl, rfl, rfl⟩
  updateHeapGauge_obeys := hL.updateHeapGauge_obeys
  refuse := hL.refuse
  requestUnload_obeys _ := hL.defer_obeys _
  stopLoop_obeys := hL.aside_obeys fun _ => ⟨⟨rfl, rfl, rfl, rfl⟩, rfl, rfl, rfl, rfl⟩
  trace _ _ := hL.apart ⟨⟨rfl, rfl, rfl, rfl⟩, rfl, rfl, rfl, rfl⟩

/-! ## Radios -/

variable [Radio R]

/-- The reports that come with a radio's answer are queued. -/
theorem Law.Times.asked_obeys {request : RadioRequest}
    (hasked : ∀ (h : Hub A R) radios accepted,
      L.rel h { h with radios, journal := .requested request accepted :: h.journal }) :
    Obeys L (requestRadio request) := by
  intro h
  unfold requestRadio
  rw [ends_bind, ends_get]
  split
  · exact hL.halt h _
  · refine ends_bind.2 (ends_set.2 (Obeys.after ?_ (hasked h _ _)))
    exact .bind (.forM fun r _ => hL.deferOrDie_obeys _) fun _ => .pure _

theorem Law.Times.requestRadio_obeys {request : RadioRequest}
    (hr : ∀ target, request ≠ .scanMonitor target) : Obeys L (requestRadio request) := by
  refine hL.asked_obeys fun h _ accepted => ?_
  have hasks := List.filterMap_cons_none (l := h.journal) (request.monitorAsk?_eq_none hr accepted)
  exact hL.apart ⟨⟨rfl, rfl, rfl, rfl⟩, rfl, hasks, rfl, rfl⟩

theorem Law.Times.seeks : L.Seeks .all where
  toTells := hL.tells
  setSystemTimer_obeys := hL.setSystemTimer_obeys
  cancelSystemTimer_obeys := hL.cancelSystemTimer_obeys
  requestRadio_obeys := hL.requestRadio_obeys
  ranging_obeys hf := hL.modifyWifi_obeys hf.monitoring
  cell_obeys _ := hL.modifyWwan_obeys _
  session_obeys k _ _ := hL.modifySession_obeys k _
  scan_obeys hf := hL.modifyWifi_obeys hf.monitoring
  answerScan_obeys _ _ _ := hL.postOrDie_obeys (Event.toOne_ne_timer (by decide) _ _)

theorem Law.Times.powerOn_obeys (d : Device) : Obeys L (powerOn d) := by
  intro h
  have hset : L.rel h { h with
      radios := (Radio.powerOn d h.radios).2
      journal := .poweredOn d h.now (Radio.powerOn d h.radios).1 :: h.journal } :=
    hL.apart ⟨⟨rfl, rfl, rfl, rfl⟩, rfl, rfl, rfl, rfl⟩
  refine ends_bind.2 (ends_get.2 (ends_bind.2 (ends_set.2 (Obeys.after ?_ hset))))
  exact .ite (fun _ => .bind (hL.emit_obeys _ _ _) fun _ => .pure _) fun _ => .pure _

theorem Law.Times.powerOff_obeys (d : Device) : Obeys L (powerOff d) :=
  hL.aside_obeys fun _ => ⟨⟨rfl, rfl, rfl, rfl⟩, rfl, rfl, rfl, rfl⟩

theorem Law.Times.powers : L.Powers where
  emit_obeys := hL.emit_obeys
  powerOn_obeys := hL.powerOn_obeys
  powerOff_obeys := hL.powerOff_obeys
  wifi _ := hL.modifyWifi_obeys fun _ => rfl
  wwan _ := hL.modifyWwan_obeys _
  gnss _ := hL.aside_obeys fun _ => ⟨⟨rfl, rfl, rfl, rfl⟩, rfl, rfl, rfl, rfl⟩

end

/-! ## Laws that overlook scan monitoring -/

/-- A law for events and timers that says nothing about WiFi and what radios are asked. -/
structure Law.Spares (L : Law A R) : Prop extends L.Times where
  wifi : ∀ (h : Hub A R) wifi, L.rel h { h with wifi }
  asked : ∀ (h : Hub A R) radios request accepted,
    L.rel h { h with radios, journal := .requested request accepted :: h.journal }

theorem Law.Spares.operates [Radio R] (hL : L.Spares) : L.Operates := by
  have hwatches : L.Watches .all := {
    toTells := hL.tells
    target_obeys := fun _ => hL.asked_obeys fun h _ _ => hL.asked h _ _ _
    monitor_obeys := fun _ => .modify fun h => hL.wifi h _ }
  exact ⟨hL.toTimes, fun _ => hwatches.configureMonitor_obeys trivial,
    hwatches.handleMonitorStatus_obeys, hL.seeks.forgetWifi_obeys hwatches⟩

/-- A law that looks at the registry only does not see posts. -/
theorem tryPost_obeys_of_registry
    (hsame : ∀ {h h' : Hub A R}, h'.registry = h.registry → L.rel h h') (e : Event) :
    Obeys L (tryPost e) := by
  intro h
  unfold tryPost
  rw [ends_bind, ends_get]
  split <;> exact hsame rfl

/-- It sees what it allows to be apart, if it does not look at halts either. -/
theorem Law.operates_of_registry [Radio R] (hapart : ∀ {h h' : Hub A R}, h.Apart h' → L.rel h h')
    (hsame : ∀ {h h' : Hub A R}, h'.registry = h.registry → L.rel h h')
    (hhalt : ∀ h e h', L.halts h e h') : L.Operates := by
  have hposts : L.Posts := by
    refine ⟨hapart, fun h e => hhalt h e h, fun e _ => tryPost_obeys_of_registry hsame e,
      fun c h => ?_⟩
    unfold defer
    rw [ends_bind, ends_get]
    split <;> exact hsame rfl
  have htimes := hposts.times (fun _ _ => hsame rfl) (fun _ _ _ => hsame rfl)
    (hposts.discard_obeys (fun _ _ => hsame rfl) fun _ _ => hsame rfl)
  exact Law.Spares.operates ⟨htimes, fun _ _ => hsame rfl, fun _ _ _ _ => hsame rfl⟩

/-- A law for events and timers that says nothing about radios. -/
structure Law.Overlooks (L : Law A R) : Prop extends L.Times where
  beside : ∀ {h h' : Hub A R}, h.Beside h' → L.rel h h'

theorem Law.Overlooks.works [Radio R] (hL : L.Overlooks) : L.Works where
  toOperates := Law.Spares.operates ⟨hL.toTimes, fun _ _ => hL.beside ⟨rfl, rfl, rfl, rfl⟩,
    fun _ _ _ _ => hL.beside ⟨rfl, rfl, rfl, rfl⟩⟩
  enlist _ := hL.beside ⟨rfl, rfl, rfl, rfl⟩

section

variable [Radio R] (hL : L.Operates)

include hL

theorem Law.Operates.serves : L.Serves .all where
  toSeeks := hL.seeks
  configureMonitor_obeys _ := hL.configureMonitor_obeys _
  handleMonitorStatus_obeys := hL.handleMonitorStatus_obeys
  forgetWifi_obeys := hL.forgetWifi_obeys

/-! ## Calls -/

theorem Law.Operates.perform_obeys (id : InstanceId) (c : Call) : Obeys L (perform id c) := by
  refine hL.serves.hears.perform_obeys hL.grants trivial c (fun htimer => ?_) ?_
  · cases c with
    | setTimer => exact hL.setNanoappTimer_obeys _ _ _ _
    | cancelTimer => exact hL.cancelWithExpiries_obeys _ _
    | _ => cases htimer
  · rintro act outcome rfl
    exact hL.note_obeys rfl rfl

theorem Law.Operates.execute_obeys (id : InstanceId) (p : Program α) : Obeys L (execute id p) := by
  induction p with
  | done a => exact .pure a
  | call c next ih => exact .bind (hL.perform_obeys id c) fun r => ih r

/-! ## Reclaiming -/

/-- What a nanoapp holds is given up, and then it is off the registry. -/
theorem Law.Operates.releaseResources_ends (id : InstanceId) (h : Hub A R) :
    Ends (releaseResources id) h (fun _ h' => ∃ h₁, L.rel h h₁ ∧
      L.rel { h₁ with registry := h₁.registry.remove id } h') (L.halts h) := by
  let Gone : Unit → Hub A R → Prop := fun _ h' => ∃ h₁, L.rel h h₁ ∧
    L.rel { h₁ with registry := h₁.registry.remove id } h'
  have hE (e : Halt) (h' : Hub A R) (he : L.halts h e h') : L.halts h e h' := he
  have hpurge (timers : Nat) (h₁ : Hub A R) (hrel : L.rel h h₁) :
      Ends (purge id timers) h₁ Gone (L.halts h) := by
    refine (hL.discard_obeys _).andThen hrel hE fun _ h₂ hrel => ?_
    refine (hL.countMetric_obeys _).andThen hrel hE fun _ h₃ hrel => ?_
    exact ⟨h₃, hrel, hL.apart ⟨⟨rfl, rfl, rfl, rfl⟩, rfl, rfl, rfl, rfl⟩⟩
  have hrest (timers : Nat) (h₁ : Hub A R) (hrel : L.rel h h₁) : Ends (do
      updateHeapGauge
      forgetWifi id
      forgetWwan id
      forgetGnss id
      purge id timers) h₁ Gone (L.halts h) := by
    refine hL.updateHeapGauge_obeys.andThen hrel hE fun _ _ hrel => ?_
    refine (hL.forgetWifi_obeys id).andThen hrel hE fun _ _ hrel => ?_
    refine (hL.serves.forgetWwan_obeys id).andThen hrel hE fun _ _ hrel => ?_
    exact (hL.serves.forgetGnss_obeys id).andThen hrel hE fun _ h₂ hrel => hpurge timers h₂ hrel
  refine (hL.cancelTimersOf_obeys id).andThen (L.refl h) hE fun timers h₁ hrel => ?_
  have hheap : L.rel h { h₁ with heap := (h₁.heap.freeAllOwnedBy id).2 } :=
    L.trans hrel (hL.apart ⟨⟨rfl, rfl, rfl, rfl⟩, rfl, rfl, rfl, rfl⟩)
  refine ends_bind.2 (ends_get.2 (ends_bind.2 (ends_set.2 ?_)))
  dsimp only
  rw [ends_ite]
  split
  · exact (hL.emit_obeys _ _ _).andThen hheap hE fun _ _ => hrest timers _
  · exact hrest timers _ hheap

end

section

variable [Radio R] (hL : L.Works)

include hL

theorem Law.Works.withBehaviour_obeys (id : InstanceId) (run : A → Program (α × A)) :
    Obeys L (withBehaviour id run) := by
  intro h
  unfold withBehaviour
  rw [ends_bind, ends_get]
  split
  · exact L.refl h
  · refine ends_bind.2 (ends_set.2 (Obeys.after ?_ (hL.enlist (.takeOut id))))
    refine .bind (hL.execute_obeys id _) fun x => ?_
    exact .bind (.modify fun _ => hL.enlist (.putBack id x.2)) fun _ => .pure _

/-! ## Loading and unloading -/

theorem Law.Works.releaseResources_obeys (id : InstanceId) : Obeys L (releaseResources id) :=
  fun h => (hL.releaseResources_ends id h).mono
    (fun _ _ hr => have ⟨_, hr, hr'⟩ := hr; L.trans hr (L.trans (hL.enlist (.remove id)) hr'))
    fun _ _ he => he

variable [Behaviour A]

theorem Law.Works.load_obeys (app : AppId) (permissions : Permissions) (behaviour : A) :
    Obeys L (load app permissions behaviour) := by
  intro h
  unfold load
  rw [ends_bind, ends_get]
  split
  · exact L.refl h
  · rename_i id registry hr
    refine ends_bind.2 (ends_set.2 (Obeys.after ?_ (hL.enlist (.register hr))))
    refine .bind (hL.withBehaviour_obeys id _) fun _ => .ite (fun _ => ?_) fun _ => ?_
    · refine .bind (hL.emit_obeys _ _ _) fun _ => ?_
      exact .bind (hL.post_obeys (Event.toAll_ne_timer (by decide) _)) fun _ => .pure _
    · refine .bind (hL.emit_obeys _ _ _) fun _ => .bind (hL.releaseResources_obeys id) fun _ => ?_
      exact .bind (hL.emit_obeys _ _ _) fun _ => .pure _

theorem Law.Works.runStop_obeys (id : InstanceId) : Obeys L (runStop id) := by
  have hrun : Obeys L (do
      let _ ← withBehaviour id fun (a : A) => do return ((), ← Behaviour.stop id a)) :=
    .bind (hL.withBehaviour_obeys _ _) fun _ => .pure _
  unfold runStop
  refine .get_bind fun h => ?_
  dsimp only
  split
  · exact hrun
  · exact .bind (hL.note_obeys rfl rfl) fun _ => hrun

theorem Law.Works.unload_obeys (id : InstanceId) : Obeys L (unload id) := by
  unfold unload
  refine .get_bind fun h => ?_
  split
  · exact .pure _
  · refine .bind (hL.runStop_obeys id) fun _ => .bind (hL.releaseResources_obeys id) fun _ => ?_
    refine .bind (hL.emit_obeys _ _ _) fun _ => ?_
    exact .bind (hL.post_obeys (Event.toAll_ne_timer (by decide) _)) fun _ => .pure _

theorem Law.Works.shutdown_obeys : Obeys L shutdown := by
  refine .get_bind fun h => .bind (.forM fun id _ => .bind (hL.unload_obeys id) fun r => ?_)
    fun _ => hL.powers.closeRadios_obeys
  split
  · exact .pure _
  · exact hL.emit_obeys _ _ _

/-! ## Deferred callbacks -/

theorem Law.Works.runCallback_obeys (c : Callback) (htick : c = .timerTick → Obeys L tick) :
    Obeys L (runCallback c) := by
  cases c with
  | timerTick => exact .bind (htick rfl) fun _ => hL.countMetric_obeys _
  | timerExpired handle purpose => exact hL.serves.handleSystemTimer_obeys handle purpose
  | report r => exact hL.serves.handleReport_obeys r
  | unload id =>
    refine .bind (hL.unload_obeys id) fun r => ?_
    split
    · exact .pure _
    · exact hL.emit_obeys _ _ _

/-- A handler runs, or it is missing. -/
theorem Law.Works.runHandler_obeys (d : Delivery) (id : InstanceId) : Obeys L (do
    let done ← withBehaviour id fun (a : A) => do return ((), ← Behaviour.handle d a)
    if done.isNone then
      emit .error "Nanoapp handler unavailable during dispatch" [("instance_id", toString id)]) :=
  .bind (hL.withBehaviour_obeys _ _) fun _ => .ite (fun _ => hL.emit_obeys _ _ _) fun _ => .pure _

/-- A deferred callback is counted and run, and the time it took is noted. -/
theorem Law.Works.deferred_obeys (c : Callback) (htick : c = .timerTick → Obeys L tick) :
    Obeys L (process (.deferred c)) := by
  refine .get_bind fun _ => .bind (hL.modifyStats_obeys _) fun _ => ?_
  refine .bind (hL.countMetric_obeys _) fun _ => .bind (hL.emit_obeys _ _ _) fun _ => ?_
  refine .bind (hL.runCallback_obeys c htick) fun _ => .get_bind fun _ => hL.countMetric_obeys _

end

/-! ## Tasks -/

/-- A law that says nothing about what becomes of events once they are handed in. -/
structure Law.Dispatches [Radio R] (L : Law A R) : Prop extends L.Works where
  note : ∀ (h : Hub A R) (e : Entry), e.monitorAsk? = none →
    (∀ event accepted, e ≠ .handed event accepted) → L.rel h { h with journal := e :: h.journal }

section

variable [Radio R] [Behaviour A] (hL : L.Dispatches)

include hL

theorem Law.Dispatches.deliverTo_obeys (e : Event) (id : InstanceId) :
    Obeys L (deliverTo e id) := by
  unfold deliverTo
  refine .get_bind fun h => ?_
  dsimp only
  split
  · exact hL.runHandler_obeys _ _
  · exact .bind (.modify fun h => hL.note h _ rfl nofun) fun _ => hL.runHandler_obeys _ _

theorem Law.Dispatches.deliver_obeys (e : Event) : Obeys L (deliver e) := by
  have hrelease : Obeys L (release e) := .modify fun h => hL.note h _ rfl nofun
  have hdrop : Obeys L (dropUndelivered e) := by
    unfold dropUndelivered
    split
    · exact hrelease
    · refine .bind (hL.emit_obeys _ _ _) fun _ => .bind (hL.modifyStats_obeys _) fun _ => ?_
      exact .bind (hL.countMetric_obeys _) fun _ => hrelease
  refine .get_bind fun h => .ite (fun _ => hdrop) fun _ => ?_
  refine .bind (.forM fun id _ => hL.deliverTo_obeys e id) fun _ => ?_
  refine .bind (hL.modifyStats_obeys _) fun _ => .bind (hL.countMetric_obeys _) fun _ => hrelease

theorem Law.Dispatches.process_obeys (t : Task)
    (htick : t = .deferred .timerTick → Obeys L tick) : Obeys L (process t) := by
  cases t with
  | event e =>
    exact .get_bind fun _ => .bind (hL.deliver_obeys e) fun _ => .get_bind fun _ =>
      hL.countMetric_obeys _
  | deferred c => exact hL.deferred_obeys c fun hc => htick (congrArg _ hc)

/-- A law under which tasks may be taken out of the queue. -/
theorem Law.Dispatches.runOnce_obeys (htick : Obeys L tick)
    (htake : ∀ (h : Hub A R) t q, h.queue.next? = some (t, q) → L.rel h { h with queue := q }) :
    Obeys L runOnce := by
  intro h
  unfold runOnce
  rw [ends_bind, ends_get]
  split
  · exact L.refl h
  · rename_i t q hq
    have hprocess : Obeys L (do
        process t
        return true) := .bind (hL.process_obeys t fun _ => htick) fun _ => .pure _
    exact ends_bind.2 (ends_set.2 (hprocess.after (htake h t q hq)))

end

/-! ## Hosts -/

def Turn.movesClock : Turn A R → Bool
  | advanceClock _ => true
  | advanceClockTo _ => true
  | _ => false

/-- What hosts can do with a hub: take turns with it, and use its queue, its timers and all else
directly. -/
inductive Usage (A R : Type) where
  | turn (t : Turn A R)
  | post (e : Event)
  | defer (c : Callback)
  | setTimer (s : TimerSpec)
  | cancelTimer (owner : InstanceId) (x : TimerHandle)
  | cancelTimersOf (owner : InstanceId)
  | tick
  | aside (f : Hub A R → Hub A R) (hf : ∀ h : Hub A R, h.Beside (f h))

namespace Usage

def movesClock : Usage A R → Bool
  | turn t => t.movesClock
  | _ => false

def run [Radio R] [Behaviour A] : Usage A R → HubM A R Unit
  | turn t => t.run
  | post e => do let _ ← Hub.post e
  | defer c => do let _ ← Hub.defer c
  | setTimer s => do let _ ← Hub.trySetTimer s
  | cancelTimer owner x => do let _ ← Hub.cancelTimer owner x
  | cancelTimersOf owner => do let _ ← Hub.cancelTimersOf owner
  | tick => do let _ ← Hub.tick
  | aside f _ => modify f

end Usage

/-- What each of some steps keeps holds where they lead to. -/
theorem Ends.of_forM {β : Type} {step : β → HubM A R Unit} {l : List β} {h : Hub A R}
    {Q P : Hub A R → Prop} (hh : Q h)
    (hstep : ∀ a ∈ l, ∀ h h', Q h → step a h = .ok () h' → Q h')
    (hP : Ends (l.forM step) h (fun _ => P) (fun _ _ => False)) : ∃ h', Q h' ∧ P h' := by
  induction l generalizing h with
  | nil => exact ⟨h, hh, hP⟩
  | cons a l ih =>
    obtain ⟨_, h', hr, hP⟩ := (ends_bind.1 hP).exists_ok
    exact ih (hstep a List.mem_cons_self h h' hh hr)
      (fun b hb => hstep b (List.mem_cons_of_mem a hb)) hP

/-- Whatever hosts do from a new hub on leads to `h`. -/
inductive Used [Radio R] [Behaviour A] (config : Config) : Hub A R → Prop
  | start {now : Nat} {radios : R} {metrics : Option Metrics} {h : Hub A R}
      (hr : initialise (blank config now radios metrics) = .ok () h) : Used config h
  | use {h h' : Hub A R} (hh : Used config h) (u : Usage A R) (hr : u.run h = .ok () h') :
      Used config h'

theorem used_of_ends [Radio R] [Behaviour A] (config : Config) (now : Nat) (radios : R)
    (metrics : Option Metrics) (us : List (Usage A R)) {P : Hub A R → Prop}
    (hP : Ends (do initialise; us.forM Usage.run) (blank config now radios metrics) (fun _ => P)
      (fun _ _ => False)) : ∃ h, Used config h ∧ P h := by
  obtain ⟨_, h, hr, hP⟩ := (ends_bind.1 hP).exists_ok
  exact hP.of_forM (.start hr) fun u _ _ _ hh => hh.use u

section

variable [Radio R] [Behaviour A] (hL : L.Works)

include hL

/-- Whatever a host does but to process a task or to move the clock. -/
theorem Law.Works.turn_obeys (t : Turn A R) (hclock : t.movesClock = false) (ht : t ≠ .runOnce) :
    Obeys L t.run := by
  cases t with
  | load => exact .bind (hL.load_obeys _ _ _) fun _ => .pure _
  | unload => exact .bind (hL.unload_obeys _) fun _ => .pure _
  | shutdown => exact hL.shutdown_obeys
  | runOnce => exact absurd rfl ht
  | post e plain => exact .bind (hL.post_obeys plain.type) fun _ => .pure _
  | requestUnload => exact .bind (hL.defer_obeys _) fun _ => .pure _
  | report => exact hL.deferOrDie_obeys _
  | stop => exact hL.aside_obeys fun _ => ⟨⟨rfl, rfl, rfl, rfl⟩, rfl, rfl, rfl, rfl⟩
  | takeStop =>
    refine .bind (fun h => ?_) fun _ => .pure _
    unfold takeStop
    rw [ends_bind, ends_get, ends_ite]
    split
    · exact hL.apart ⟨⟨rfl, rfl, rfl, rfl⟩, rfl, rfl, rfl, rfl⟩
    · exact L.refl h
  | fireIfDue => exact .bind hL.fireIfDue_obeys fun _ => .pure _
  | advanceClock => cases hclock
  | advanceClockTo => cases hclock
  | radios => exact hL.aside_obeys fun _ => ⟨⟨rfl, rfl, rfl, rfl⟩, rfl, rfl, rfl, rfl⟩

omit hL in
theorem Law.Overlooks.usage_obeys (hL : L.Overlooks) (u : Usage A R)
    (hpost : ∀ e, u = .post e → Obeys L (tryPost e)) (htick : u = .tick → Obeys L tick)
    (hclock : u.movesClock = false) (ht : u ≠ .turn .runOnce) : Obeys L u.run := by
  cases u with
  | turn t => exact hL.works.turn_obeys t hclock fun e => ht (e ▸ rfl)
  | post e => exact .bind (.post (hpost e rfl)) fun _ => .pure _
  | defer => exact .bind (hL.defer_obeys _) fun _ => .pure _
  | setTimer => exact .bind (hL.trySetTimer_obeys _) fun _ => .pure _
  | cancelTimer => exact .bind (hL.cancelTimer_obeys _ _) fun _ => .pure _
  | cancelTimersOf => exact .bind (hL.cancelTimersOf_obeys _) fun _ => .pure _
  | tick => exact .bind (htick rfl) fun _ => .pure _
  | aside f hf => exact .modify fun h => hL.beside (hf h)

omit hL in
/-- A law that says nothing about the clock either. -/
theorem Law.Overlooks.usage_obeys_of_now (hL : L.Overlooks)
    (hnow : ∀ (h : Hub A R) now, L.rel h { h with now }) (u : Usage A R)
    (hpost : ∀ e, u = .post e → Obeys L (tryPost e)) (htick : u = .tick → Obeys L tick)
    (ht : u ≠ .turn .runOnce) : Obeys L u.run := by
  cases hc : u.movesClock with
  | false => exact hL.usage_obeys u hpost htick hc ht
  | true =>
    cases u with
    | turn t =>
      cases t with
      | advanceClock d => exact .modify fun h => hnow h _
      | advanceClockTo t => exact .modify fun h => hnow h _
      | _ => cases hc
    | _ => cases hc

end

end Hub

end ContextHub
