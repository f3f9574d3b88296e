import ContextHub.Hub.Lifecycle
import ContextHub.Proofs.Hub.Law
/-!
# Quiet steps

Most of what a hub does leaves its `core` alone: the clock, the timers, the expiries that are
queued, the requests in flight that a timer bounds, who is loaded, and what was told of expiries and
of answers to scans. The law `quiet` holds of logging, counting, posting any other event, asking the
radios, of scan monitoring, and of the heap. If such a step halts, it is for a reason in `Mild`.
-/

namespace ContextHub

/-- An answer to a scan on demand. -/
def Event.isScanAnswer (e : Event) : Bool :=
  e.type == EventType.wifiAsyncResult &&
    match e.payload with
    | .async r => r.requestType == Hub.WifiKind.scan
    | _ => false

/-- Neither an expiry nor an answer to a scan. -/
structure Event.Plain (e : Event) : Prop where
  type : e.type ≠ EventType.timer
  answer : e.isScanAnswer = false

theorem Event.plain_of_type {e : Event} (h : e.type ≠ EventType.timer)
    (h' : e.type ≠ EventType.wifiAsyncResult) : e.Plain := by
  refine ⟨h, ?_⟩
  unfold Event.isScanAnswer
  rw [beq_eq_false_iff_ne.2 h', Bool.false_and]

theorem Event.toOne_plain {type : EventType} (h : type ≠ EventType.timer)
    (h' : type ≠ EventType.wifiAsyncResult) (payload : Payload) (id : InstanceId) :
    (Event.toOne type payload id).Plain :=
  plain_of_type h h'

theorem Event.toAll_plain {type : EventType} (h : type ≠ EventType.timer)
    (h' : type ≠ EventType.wifiAsyncResult) (payload : Payload) :
    (Event.toAll type payload).Plain :=
  plain_of_type h h'

/-- Whether a task tells of an expired timer. -/
def Task.isExpiry : Task → Bool
  | .event e => e.type == EventType.timer
  | .deferred (.timerExpired _ _) => true
  | .deferred _ => false

/-- Whether an entry tells of an expiry that was delivered or of an answer that was posted. -/
def Entry.isTold : Entry → Bool
  | .handed e accepted => accepted && e.isScanAnswer
  | .delivered _ d _ => d.type == EventType.timer
  | _ => false

namespace Hub

/-- What quiet steps leave alone. -/
structure Core where
  now : Nat
  timers : TimerPool
  expiries : List Task
  ids : List InstanceId
  nextId : Nat
  scan : Slot ScanJob
  ranging : Slot Unit
  cell : Slot Unit
  location : Slot SessionChange
  measurement : Slot SessionChange
  told : List Entry

variable {A R : Type}

def core (h : Hub A R) : Core where
  now := h.now
  timers := h.timers
  expiries := h.queue.tasks.filter Task.isExpiry
  ids := h.registry.ids
  nextId := h.registry.nextId
  scan := h.wifi.scanSlot
  ranging := h.wifi.rangingSlot
  cell := h.wwan.cellSlot
  location := h.gnss.location.slot
  measurement := h.gnss.measurement.slot
  told := h.journal.filter Entry.isTold

/-- Reasons to halt that have nothing to do with a timer that could not be set. -/
inductive Mild (R : Type) [Radio R] : Halt → Prop
  | endless : Mild R .endless
  | post (err : QueueError) : Mild R (.fatal s!"Failed to post critical event: {err.message}")
  | defer (c : Callback) : Mild R (.fatal s!"Failed to defer {c.kind} callback")
  | occupied : Mild R (.fatal Slot.occupiedFault)
  | radio {now : Nat} {q : RadioRequest} {r : R} {message : String}
      (h : Radio.request now q r = .error message) : Mild R (.fatal message)

/-- The core stays as it is. -/
def quiet [Radio R] : Law A R where
  rel h h' := h'.core = h.core
  halts h e h' := h'.core = h.core ∧ Mild R e
  refl _ := rfl
  trans h h' := h'.trans h
  halts_of_rel h h' := ⟨h'.1.trans h, h'.2⟩

/-! ## The queue -/

theorem offer_tasks {q q' : Queue} {t : Task} (h : q.offer t = .ok q') :
    q'.tasks = q.tasks ++ [t] := by
  unfold Queue.offer at h
  split at h
  · split at h
    · cases h
    · split at h
      · cases h
        exact (List.append_assoc _ _ _).symm
      · cases h
  · cases h

/-- A posted event is queued, or nothing of the core changes. -/
theorem tryPost_ends (e : Event) (h : Hub A R) :
    Ends (tryPost e) h
      (fun r h' => match r with
        | .error _ => h'.core = h.core
        | .ok _ => h'.core = { h.core with
            expiries := h.core.expiries ++ [Task.event e].filter Task.isExpiry
            told := [Entry.handed e true].filter Entry.isTold ++ h.core.told })
      (fun _ _ => False) := by
  unfold tryPost
  rw [ends_bind, ends_get]
  split
  · rename_i q hq
    have ht := List.filter_append (p := Entry.isTold) [.handed e true] h.journal
    simp only [ends_bind, ends_set, ends_pure, core, offer_tasks hq, List.filter_append, ← ht,
      List.singleton_append]
  · exact rfl

/-- Deferred work is queued, or nothing of the core changes. -/
theorem defer_ends (c : Callback) (h : Hub A R) :
    Ends (defer c) h
      (fun b h' => h'.core = if b = true then { h.core with
        expiries := h.core.expiries ++ [Task.deferred c].filter Task.isExpiry } else h.core)
      (fun _ _ => False) := by
  unfold defer
  rw [ends_bind, ends_get]
  split
  · rename_i q hq
    simp only [ends_bind, ends_set, ends_pure, core, offer_tasks hq, List.filter_append,
      ↓reduceIte]
  · exact rfl

variable [Radio R]

/-! ## Logging and counting -/

theorem emit_quiet (level : Level) (message : String) (fields : List (String × String)) :
    Obeys quiet (emit level message fields : HubM A R Unit) :=
  .modify fun _ => rfl

theorem note_quiet {e : Entry} (he : e.isTold = false) : Obeys quiet (note e : HubM A R Unit) := by
  refine .modify fun h => ?_
  simp only [quiet, core, List.filter_cons, he, Bool.false_eq_true, ↓reduceIte]

theorem countMetric_quiet (f : Metrics → Metrics) : Obeys quiet (countMetric f : HubM A R Unit) :=
  .modify fun _ => rfl

theorem modifyStats_quiet (f : LoopStats → LoopStats) :
    Obeys quiet (modifyStats f : HubM A R Unit) :=
  .modify fun _ => rfl

theorem release_quiet (e : Event) : Obeys quiet (release e : HubM A R Unit) := note_quiet rfl

theorem countDropped_quiet : Obeys quiet (countDropped : HubM A R Unit) := modifyStats_quiet _

theorem countRadioError_quiet (d : Device) : Obeys quiet (countRadioError d : HubM A R Unit) :=
  countMetric_quiet _

theorem checkCode_quiet (raw : Nat) : Obeys quiet (checkCode raw : HubM A R Unit) := by
  unfold checkCode
  exact .ite (fun _ => emit_quiet _ _ _) fun _ => .pure _

theorem fatal_quiet {message : String} (he : Mild R (.fatal message)) :
    Obeys quiet (fatal message : HubM A R α) :=
  .bind (emit_quiet _ _ _) fun _ => .throw fun _ => ⟨rfl, he⟩

/-! ## Posting -/

theorem tryPost_quiet {e : Event} (he : e.Plain) :
    Obeys quiet (tryPost e : HubM A R (Except QueueError Unit)) := by
  have ht : Task.isExpiry (.event e) = false := beq_eq_false_iff_ne.2 he.type
  have hn : Entry.isTold (.handed e true) = false := he.answer
  intro h
  refine (tryPost_ends e h).mono (fun r h' hr => ?_) fun _ _ => False.elim
  split at hr
  · exact hr
  · rw [List.filter_cons_of_neg (by rw [ht]; exact Bool.false_ne_true),
      List.filter_cons_of_neg (by rw [hn]; exact Bool.false_ne_true)] at hr
    rw [List.filter_nil, List.filter_nil, List.append_nil, List.nil_append] at hr
    exact hr

theorem post_quiet {e : Event} (he : e.Plain) : Obeys quiet (post e : HubM A R Bool) := by
  refine .bind (tryPost_quiet he) fun r => ?_
  split <;> exact .pure _

theorem postOrDie_quiet {e : Event} (he : e.Plain) : Obeys quiet (postOrDie e : HubM A R Unit) := by
  refine .bind (tryPost_quiet he) fun r => ?_
  split
  · exact .pure _
  · exact fatal_quiet (.post _)

theorem defer_quiet {c : Callback} (hc : Task.isExpiry (.deferred c) = false) :
    Obeys quiet (defer c : HubM A R Bool) := by
  intro h
  refine (defer_ends c h).mono (fun b h' hb => ?_) fun _ _ => False.elim
  rw [List.filter_cons_of_neg (by rw [hc]; exact Bool.false_ne_true), List.filter_nil,
    List.append_nil, ite_self] at hb
  exact hb

theorem deferOrDie_quiet {c : Callback} (hc : Task.isExpiry (.deferred c) = false) :
    Obeys quiet (deferOrDie c : HubM A R Unit) := by
  refine .bind (defer_quiet hc) fun b => .ite (fun _ => .pure _) fun _ => ?_
  exact fatal_quiet (.defer c)

theorem requestUnload_quiet (id : InstanceId) : Obeys quiet (requestUnload id : HubM A R Bool) :=
  defer_quiet rfl

theorem stopLoop_quiet : Obeys quiet (stopLoop : HubM A R Unit) := .modify fun _ => rfl

/-! ## Subscriptions -/

theorem update_ids (r : Registry A) (id : InstanceId) {f : Nanoapp A → Nanoapp A}
    (hf : ∀ n, (f n).id = n.id) : (r.update id f).ids = r.ids := by
  simp only [Registry.ids, Registry.update, List.map_map]
  refine List.map_congr_left fun n _ => ?_
  simp only [Function.comp_apply]
  split
  · exact hf n
  · rfl

theorem setRegistry_quiet {h : Hub A R} {r : Registry A} (hr : r.ids = h.registry.ids)
    (hn : r.nextId = h.registry.nextId) : quiet.rel h { h with registry := r } := by
  simp only [quiet, core, hr, hn]

theorem subscribe_quiet (id : InstanceId) (type : EventType) :
    Obeys quiet (subscribe id type : HubM A R Bool) := by
  intro h
  unfold subscribe
  rw [ends_bind, ends_get, ends_ite]
  split
  · exact setRegistry_quiet (update_ids _ _ fun _ => rfl) rfl
  · exact quiet.refl h

theorem unsubscribe_quiet (id : InstanceId) (type : EventType) :
    Obeys quiet (unsubscribe id type : HubM A R Bool) := by
  intro h
  unfold unsubscribe
  rw [ends_bind, ends_get, ends_ite]
  split
  · exact setRegistry_quiet (update_ids _ _ fun _ => rfl) rfl
  · exact quiet.refl h

/-! ## Radios -/

theorem requestRadio_quiet (request : RadioRequest) :
    Obeys quiet (requestRadio request : HubM A R Bool) := by
  intro h
  unfold requestRadio
  rw [ends_bind, ends_get]
  split
  · rename_i message hr
    exact ⟨rfl, .radio hr⟩
  · rename_i reaction hr
    have hset : quiet.rel h { h with
        radios := reaction.next
        journal := .requested request reaction.accepted :: h.journal } := rfl
    refine ends_bind.2 (ends_set.2 ?_)
    refine (Obeys.bind (.forM fun r _ => deferOrDie_quiet rfl) (fun _ => .pure _) _).mono ?_ ?_
    · exact fun _ _ hq => quiet.trans hset hq
    · exact fun _ _ hq => quiet.halts_of_rel hset hq

theorem powerOn_quiet (d : Device) : Obeys quiet (powerOn d : HubM A R Bool) := by
  intro h
  unfold powerOn
  simp only [ends_bind, ends_get, ends_set, ends_ite, ends_pure]
  split
  · exact emit_quiet _ _ _ _
  · exact rfl

theorem powerOff_quiet (d : Device) : Obeys quiet (powerOff d : HubM A R Unit) :=
  .modify fun _ => rfl

end Hub

end ContextHub
