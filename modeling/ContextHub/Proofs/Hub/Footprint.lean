import ContextHub.Hub.Dispatch
import ContextHub.Proofs.Heap.Ledger
import ContextHub.Proofs.Hub.Aside
import ContextHub.Proofs.Hub.Hosting
/-!
# Footprints

What nanoapps hold is spread over the timer pool, the heap, the lists of monitors and of session
requests, and the slots of requests in flight. `FreeOf out` says that those whom `out` names hold
nothing there. The law `excluding out` says that a step leaves it so, that nobody joins or leaves,
and that the journal tells of no nanoapp's doing. The hub's own basic steps obey it for everyone,
the operations of a nanoapp for everyone else.
-/

namespace ContextHub

/-- Who the entry tells of, if it tells of a nanoapp's doing. -/
def Entry.actor? : Entry → Option InstanceId
  | .delivered _ d _ => some d.id
  | .stopping _ id => some id
  | .acted id _ _ => some id
  | _ => none

variable {out : InstanceId → Bool}

/-! ## Who holds nothing -/

def Slot.FreeOf {κ : Type} (out : InstanceId → Bool) (s : Slot κ) : Prop :=
  ∀ p ∈ s, ∀ id ∈ p.requester, out id = false

theorem Slot.freeOf_none {κ : Type} : Slot.FreeOf out (none : Slot κ) := by
  intro p hp
  cases hp

theorem Slot.freeOf_some {κ : Type} {p : Pending κ} (hp : ∀ id ∈ p.requester, out id = false) :
    Slot.FreeOf out (some p) := by
  rintro q ⟨⟩
  exact hp

theorem Slot.FreeOf.map {κ : Type} {s : Slot κ} (hs : s.FreeOf out) {f : Pending κ → Pending κ}
    (hf : ∀ p, ∀ id ∈ (f p).requester, id ∈ p.requester) : Slot.FreeOf out (Option.map f s) := by
  intro p hp id hid
  obtain ⟨q, hq, rfl⟩ := Option.map_eq_some_iff.1 hp
  exact hs q hq id (hf q id hid)

/-- Timers of the system are nobody's. -/
structure TimerPool.FreeOf (out : InstanceId → Bool) (p : TimerPool) : Prop where
  coherent : p.Coherent
  owners : ∀ r ∈ p.requests, r.owner.isSystem = true ∨ out r.owner = false

structure Heap.FreeOf (out : InstanceId → Bool) (h : Heap) : Prop where
  exact : h.Exact
  owners : ∀ b ∈ h.blocks, out b.owner = false
  entries : ∀ e ∈ h.usage, out e.1 = false

structure WifiState.FreeOf (out : InstanceId → Bool) (w : WifiState) : Prop where
  monitors : ∀ id ∈ w.monitors, out id = false
  monitor : w.monitorSlot.FreeOf out
  scan : w.scanSlot.FreeOf out
  ranging : w.rangingSlot.FreeOf out

structure Session.FreeOf (out : InstanceId → Bool) (s : Session) : Prop where
  requests : ∀ r ∈ s.requests, out r.id = false
  slot : s.slot.FreeOf out
  /-- Nobody asks for a part in the session in another's name. -/
  fits : ∀ p ∈ s.slot, ∀ r ∈ p.kind.request, p.requester = some r.id

/-! ### Timers -/

namespace TimerPool.FreeOf

variable {p q : TimerPool}

theorem set (hp : p.FreeOf out) {now : Nat} {s : TimerSpec} {x : TimerHandle}
    (hs : p.set now s = .ok (x, q)) (ho : s.owner.isSystem = true ∨ out s.owner = false) :
    q.FreeOf out := by
  have ha := set_eq_ok hp.coherent hs
  refine ⟨ha.coherent, fun r hr => ?_⟩
  rcases ha.mem.1 hr with rfl | hr
  · exact ho
  · exact hp.owners r hr

theorem sheds (hp : p.FreeOf out) {gone : TimerRequest → Bool} (hs : Sheds p gone q) :
    q.FreeOf out :=
  ⟨hs.coherent, fun r hr => hp.owners r (hs.mem.1 hr).1⟩

/-- What a tick brings back belongs to whom it belonged before. -/
theorem tick (hp : p.FreeOf out) {now : Nat} {fired : List TimerRequest}
    (ht : p.tick? now = some (fired, q)) : q.FreeOf out := by
  obtain ⟨q', hs, rfl⟩ := tick?_eq_some hp.coherent ht
  refine ⟨hs.coherent.rearm now, fun r hr => ?_⟩
  obtain ⟨a, ha, -, hspec⟩ := hs.remains r hr
  have hown : r.owner = a.owner := congrArg TimerSpec.owner hspec.symm
  rw [hown]
  exact hp.owners a ha

theorem hush (hp : p.FreeOf out) (hardware : Alarm Unit) (lost : Nat) :
    ({ p with hardware, lost } : TimerPool).FreeOf out :=
  ⟨hp.coherent.hush hardware lost, hp.owners⟩

end TimerPool.FreeOf

/-! ### Heap -/

namespace Heap

theorem mem_chargeUsage {owner : InstanceId} {bytes : Nat} {usage : List (InstanceId × OwnerUsage)}
    {e : InstanceId × OwnerUsage} (he : e ∈ chargeUsage owner bytes usage) :
    e.1 = owner ∨ ∃ e' ∈ usage, e'.1 = e.1 := by
  induction usage with
  | nil =>
    rw [chargeUsage, List.mem_singleton] at he
    exact .inl (congrArg Prod.fst he)
  | cons x usage ih =>
    rw [chargeUsage] at he
    split at he
    · rename_i ho
      rcases List.mem_cons.1 he with rfl | he
      · exact .inl ho
      · exact .inr ⟨e, List.mem_cons_of_mem _ he, rfl⟩
    · rcases List.mem_cons.1 he with rfl | he
      · exact .inr ⟨_, List.mem_cons_self, rfl⟩
      · rcases ih he with ho | ⟨e', he', heq⟩
        · exact .inl ho
        · exact .inr ⟨e', List.mem_cons_of_mem _ he', heq⟩

theorem mem_creditUsage {owner : InstanceId} {bytes : Nat} {usage : List (InstanceId × OwnerUsage)}
    {e : InstanceId × OwnerUsage} (he : e ∈ creditUsage owner bytes usage) :
    ∃ e' ∈ usage, e'.1 = e.1 := by
  obtain ⟨e', he', rfl⟩ := List.mem_map.1 he
  refine ⟨e', he', ?_⟩
  split <;> rfl

/-- Giving an owner's blocks back leaves the other entries alone. -/
theorem foldl_release_usage {blocks : List Block} {owner : InstanceId}
    (hown : ∀ b ∈ blocks, b.owner = owner) (h : Heap) :
    (blocks.foldl release h).usage.filter (·.1 != owner) = h.usage.filter (·.1 != owner) := by
  induction blocks generalizing h with
  | nil => rfl
  | cons b blocks ih =>
    rw [List.foldl_cons, ih fun c hc => hown c (List.mem_cons_of_mem b hc)]
    show (creditUsage b.owner b.size h.usage).filter (·.1 != owner) = _
    rw [hown b List.mem_cons_self, creditUsage]
    generalize h.usage = usage
    induction usage with
    | nil => rfl
    | cons e usage ihu => by_cases he : e.1 = owner <;> simp [he, ihu]

theorem sweep_usage (h : Heap) (owner : InstanceId) :
    (h.freeAllOwnedBy owner).2.usage.filter (·.1 != owner) = h.usage.filter (·.1 != owner) := by
  have hown : ∀ b ∈ h.blocksOf owner, b.owner = owner := fun b hb => (mem_blocksOf.1 hb).2
  rw [← foldl_release_usage hown h]
  show List.filter _ (List.filter _ ((h.blocksOf owner).foldl release h).usage) = _
  rw [List.filter_filter]
  exact List.filter_congr fun e _ => Bool.and_self _

namespace FreeOf

variable {h : Heap}

theorem insert (hh : h.FreeOf out) {owner : InstanceId} {bytes : Nat} (ho : out owner = false)
    (hr : h.refusal? bytes = none) : (h.insert owner bytes).FreeOf out := by
  refine ⟨hh.exact.insert hr, fun b hb => ?_, fun e he => ?_⟩
  · rcases List.mem_cons.1 hb with rfl | hb
    · exact ho
    · exact hh.owners b hb
  · rcases mem_chargeUsage he with heq | ⟨e', he', heq⟩
    · rw [heq]
      exact ho
    · rw [← heq]
      exact hh.entries e' he'

theorem release (hh : h.FreeOf out) {b : Block} (hb : b ∈ h.blocks) :
    (h.release b).FreeOf out := by
  refine ⟨hh.exact.release hb, fun c hc => hh.owners c (mem_release.1 hc).1, fun e he => ?_⟩
  obtain ⟨e', he', heq⟩ := mem_creditUsage he
  rw [← heq]
  exact hh.entries e' he'

theorem edit (hh : h.FreeOf out) {put : Block → Block}
    (hput : ∀ b ∈ h.blocks, SameShape b (put b)) :
    ({ h with blocks := h.blocks.map put } : Heap).FreeOf out := by
  refine ⟨hh.exact.edit hput, fun c hc => ?_, hh.entries⟩
  obtain ⟨b, hb, rfl⟩ := List.mem_map.1 hc
  rw [(hput b hb).owner]
  exact hh.owners b hb

theorem mem_foldl_release {blocks : List Block} {h : Heap} {e : InstanceId × OwnerUsage}
    (he : e ∈ (blocks.foldl Heap.release h).usage) : ∃ e' ∈ h.usage, e'.1 = e.1 := by
  induction blocks generalizing h with
  | nil => exact ⟨e, he, rfl⟩
  | cons b blocks ih =>
    obtain ⟨e', he', heq⟩ := ih he
    obtain ⟨e'', he'', heq'⟩ := mem_creditUsage he'
    exact ⟨e'', he'', heq'.trans heq⟩

theorem sweep (hh : h.FreeOf out) (owner : InstanceId) :
    (h.freeAllOwnedBy owner).2.FreeOf out := by
  refine ⟨hh.exact.sweep owner, fun b hb => ?_, fun e he => ?_⟩
  · rw [hh.exact.sweep_blocks] at hb
    exact hh.owners b (List.mem_filter.1 hb).1
  · obtain ⟨e', he', heq⟩ := mem_foldl_release (List.mem_filter.1 he).1
    rw [← heq]
    exact hh.entries e' he'

end FreeOf

end Heap

namespace Hub

variable {A R α β κ : Type}

/-- Those whom `out` names hold nothing in the hub. -/
structure FreeOf (out : InstanceId → Bool) (h : Hub A R) : Prop where
  timers : h.timers.FreeOf out
  heap : h.heap.FreeOf out
  wifi : h.wifi.FreeOf out
  cell : h.wwan.cellSlot.FreeOf out
  session : ∀ k, (h.gnss.session k).FreeOf out

theorem FreeOf.of_same {h h' : Hub A R} (hf : h.FreeOf out) (ht : h'.timers = h.timers)
    (hh : h'.heap = h.heap) (hw : h'.wifi = h.wifi) (hc : h'.wwan = h.wwan)
    (hg : h'.gnss = h.gnss) : h'.FreeOf out where
  timers := ht ▸ hf.timers
  heap := hh ▸ hf.heap
  wifi := hw ▸ hf.wifi
  cell := hc ▸ hf.cell
  session := hg ▸ hf.session

/-- Whoever is kept out by `out` or by `out'` is kept out by both together. -/
theorem FreeOf.both {out out' both : InstanceId → Bool} {h : Hub A R} (hf : h.FreeOf out)
    (hf' : h.FreeOf out') (hboth : ∀ id, out id = false → out' id = false → both id = false) :
    h.FreeOf both := by
  have hslot {κ : Type} {s : Slot κ} (hs : s.FreeOf out) (hs' : s.FreeOf out') : s.FreeOf both :=
    fun p hp id hid => hboth id (hs p hp id hid) (hs' p hp id hid)
  refine ⟨⟨hf.timers.coherent, fun r hr => ?_⟩, ⟨hf.heap.exact, fun b hb => ?_, fun e he => ?_⟩,
    ⟨fun id hid => ?_, hslot hf.wifi.monitor hf'.wifi.monitor, hslot hf.wifi.scan hf'.wifi.scan,
      hslot hf.wifi.ranging hf'.wifi.ranging⟩, hslot hf.cell hf'.cell,
    fun k => ⟨fun r hr => ?_, hslot (hf.session k).slot (hf'.session k).slot, (hf.session k).fits⟩⟩
  · rcases hf.timers.owners r hr with ho | ho
    · exact .inl ho
    · rcases hf'.timers.owners r hr with ho' | ho'
      · exact .inl ho'
      · exact .inr (hboth _ ho ho')
  · exact hboth _ (hf.heap.owners b hb) (hf'.heap.owners b hb)
  · exact hboth _ (hf.heap.entries e he) (hf'.heap.entries e he)
  · exact hboth _ (hf.wifi.monitors id hid) (hf'.wifi.monitors id hid)
  · exact hboth _ ((hf.session k).requests r hr) ((hf'.session k).requests r hr)

/-- The same nanoapps are loaded, and the journal tells of no further doing of theirs. -/
structure SameCrew (h h' : Hub A R) : Prop where
  ids : h'.registry.ids = h.registry.ids
  nextId : h'.registry.nextId = h.registry.nextId
  acts : h'.journal.filter (·.actor?.isSome) = h.journal.filter (·.actor?.isSome)

theorem SameCrew.refl (h : Hub A R) : h.SameCrew h := ⟨rfl, rfl, rfl⟩

theorem SameCrew.trans {h h' h'' : Hub A R} (hc : h.SameCrew h') (hc' : h'.SameCrew h'') :
    h.SameCrew h'' :=
  ⟨hc'.ids.trans hc.ids, hc'.nextId.trans hc.nextId, hc'.acts.trans hc.acts⟩

/-- Those who held nothing hold nothing still, and the crew is the same. -/
def excluding (out : InstanceId → Bool) : Law A R where
  rel h h' := h.FreeOf out → h'.FreeOf out ∧ h.SameCrew h'
  halts h _ h' := h.FreeOf out → h'.FreeOf out ∧ h.SameCrew h'
  refl h hf := ⟨hf, .refl h⟩
  trans hr hr' hf :=
    have ⟨hf', hc⟩ := hr hf
    have ⟨hf'', hc'⟩ := hr' hf'
    ⟨hf'', hc.trans hc'⟩
  halts_of_rel hr hr' hf :=
    have ⟨hf', hc⟩ := hr hf
    have ⟨hf'', hc'⟩ := hr' hf'
    ⟨hf'', hc.trans hc'⟩

theorem excluding_of_same {h h' : Hub A R} (ht : h'.timers = h.timers) (hh : h'.heap = h.heap)
    (hw : h'.wifi = h.wifi) (hwwan : h'.wwan = h.wwan) (hg : h'.gnss = h.gnss)
    (hc : h.SameCrew h') : (excluding out).rel h h' :=
  fun hf => ⟨hf.of_same ht hh hw hwwan hg, hc⟩

/-- Nothing is said of a hub in which they hold something. -/
theorem obeys_excluding {m : HubM A R α}
    (hm : ∀ h, h.FreeOf out →
      Ends m h (fun _ => (excluding out).rel h) ((excluding out).halts h)) :
    Obeys (excluding out) m := by
  intro h
  by_cases hf : h.FreeOf out
  · exact hm h hf
  · unfold Ends
    split <;> exact fun hf' => absurd hf' hf

/-- What is read of the hub may be relied on to name none of them. -/
theorem Obeys.reading {f : Hub A R → HubM A R β}
    (hf : ∀ s, s.FreeOf out → Obeys (excluding out) (f s)) :
    Obeys (excluding out) (get >>= f) :=
  obeys_excluding fun h hh => hf h hh h

/-! ## Logging, counting and posting -/

theorem emit_excluding (level : Level) (message : String) (fields : List (String × String)) :
    Obeys (excluding out) (emit level message fields : HubM A R Unit) :=
  .modify fun _ => excluding_of_same rfl rfl rfl rfl rfl ⟨rfl, rfl, rfl⟩

theorem note_excluding {e : Entry} (he : e.actor? = none) :
    Obeys (excluding out) (note e : HubM A R Unit) := by
  refine .modify fun h => excluding_of_same rfl rfl rfl rfl rfl ⟨rfl, rfl, ?_⟩
  exact List.filter_cons_of_neg (by simp [he])

theorem countMetric_excluding (f : Metrics → Metrics) :
    Obeys (excluding out) (countMetric f : HubM A R Unit) :=
  .modify fun _ => excluding_of_same rfl rfl rfl rfl rfl ⟨rfl, rfl, rfl⟩

theorem modifyStats_excluding (f : LoopStats → LoopStats) :
    Obeys (excluding out) (modifyStats f : HubM A R Unit) :=
  .modify fun _ => excluding_of_same rfl rfl rfl rfl rfl ⟨rfl, rfl, rfl⟩

theorem release_excluding (e : Event) : Obeys (excluding out) (release e : HubM A R Unit) :=
  note_excluding rfl

theorem countDropped_excluding : Obeys (excluding out) (countDropped : HubM A R Unit) :=
  modifyStats_excluding _

theorem countRadioError_excluding (d : Device) :
    Obeys (excluding out) (countRadioError d : HubM A R Unit) := countMetric_excluding _

theorem throw_excluding (e : Halt) : Obeys (excluding out) (throw e : HubM A R α) :=
  .throw fun h => (excluding out).refl h

theorem fatal_excluding (message : String) :
    Obeys (excluding out) (fatal message : HubM A R α) :=
  .bind (emit_excluding _ _ _) fun _ => throw_excluding _

theorem tryPost_excluding (e : Event) :
    Obeys (excluding out) (tryPost e : HubM A R (Except QueueError Unit)) := by
  intro h
  unfold tryPost
  rw [ends_bind, ends_get]
  cases h.queue.offer (.event e) with
  | ok q => exact excluding_of_same rfl rfl rfl rfl rfl ⟨rfl, rfl, rfl⟩
  | error err => exact excluding_of_same rfl rfl rfl rfl rfl ⟨rfl, rfl, rfl⟩

theorem post_excluding (e : Event) : Obeys (excluding out) (post e : HubM A R Bool) := by
  refine .bind (tryPost_excluding e) fun r => ?_
  split <;> exact .pure _

theorem postOrDie_excluding (e : Event) : Obeys (excluding out) (postOrDie e : HubM A R Unit) := by
  refine .bind (tryPost_excluding e) fun r => ?_
  split
  · exact .pure _
  · exact fatal_excluding _

theorem defer_excluding (c : Callback) : Obeys (excluding out) (defer c : HubM A R Bool) := by
  intro h
  unfold defer
  rw [ends_bind, ends_get]
  cases h.queue.offer (.deferred c) with
  | ok q => exact excluding_of_same rfl rfl rfl rfl rfl ⟨rfl, rfl, rfl⟩
  | error err => exact excluding_of_same rfl rfl rfl rfl rfl ⟨rfl, rfl, rfl⟩

theorem deferOrDie_excluding (c : Callback) :
    Obeys (excluding out) (deferOrDie c : HubM A R Unit) :=
  .bind (defer_excluding c) fun _ => .ite (fun _ => .pure _) fun _ => fatal_excluding _

theorem discard_excluding (p : Event → Bool) :
    Obeys (excluding out) (discard p : HubM A R (List Event)) := by
  intro h
  unfold discard
  have hset (q : Queue) : (excluding out).rel h { h with queue := q } :=
    excluding_of_same rfl rfl rfl rfl rfl ⟨rfl, rfl, rfl⟩
  rw [ends_bind, ends_get]
  refine ends_bind.2 (ends_set.2 (Obeys.after ?_ (hset _)))
  refine .bind (.forM fun e _ => ?_) fun _ => .pure _
  exact .bind countDropped_excluding fun _ => release_excluding e

/-! ## Subscriptions and radios -/

theorem setRegistry_excluding {h : Hub A R} {r : Registry A} (hr : r.ids = h.registry.ids)
    (hn : r.nextId = h.registry.nextId) : (excluding out).rel h { h with registry := r } :=
  excluding_of_same rfl rfl rfl rfl rfl ⟨hr, hn, rfl⟩

theorem subscribe_excluding (id : InstanceId) (type : EventType) :
    Obeys (excluding out) (subscribe id type : HubM A R Bool) := by
  intro h
  unfold subscribe
  rw [ends_bind, ends_get, ends_ite]
  split
  · exact setRegistry_excluding (update_ids _ _ fun _ => rfl) rfl
  · exact (excluding out).refl h

theorem unsubscribe_excluding (id : InstanceId) (type : EventType) :
    Obeys (excluding out) (unsubscribe id type : HubM A R Bool) := by
  intro h
  unfold unsubscribe
  rw [ends_bind, ends_get, ends_ite]
  split
  · exact setRegistry_excluding (update_ids _ _ fun _ => rfl) rfl
  · exact (excluding out).refl h

/-! ## Timers -/

theorem setTimers_excluding {h : Hub A R} {pool : TimerPool}
    (ht : h.timers.FreeOf out → pool.FreeOf out) :
    (excluding out).rel h { h with timers := pool } :=
  fun hf => ⟨⟨ht hf.timers, hf.heap, hf.wifi, hf.cell, hf.session⟩, rfl, rfl, rfl⟩

theorem trySetTimer_excluding {s : TimerSpec} (ho : s.owner.isSystem = true ∨ out s.owner = false) :
    Obeys (excluding out) (trySetTimer s : HubM A R (Except TimerError TimerHandle)) := by
  intro h
  unfold trySetTimer
  rw [ends_bind, ends_get]
  split
  · exact (excluding out).refl h
  · rename_i x pool hs
    refine ends_bind.2 (ends_modify.2 (Obeys.after ?_ (setTimers_excluding fun hp => hp.set hs ho)))
    exact .bind (emit_excluding _ _ _) fun _ => .pure _

theorem setNanoappTimer_excluding {owner : InstanceId} (ho : out owner = false) (duration : Nat)
    (cookie : Cookie) (oneShot : Bool) :
    Obeys (excluding out)
      (setNanoappTimer owner duration cookie oneShot : HubM A R TimerHandle) := by
  refine .bind (trySetTimer_excluding (.inr ho)) fun r => ?_
  split
  · exact .pure _
  · exact .bind (emit_excluding _ _ _) fun _ => .pure _

theorem setSystemTimer_excluding (duration : Nat) (purpose : TimerPurpose) :
    Obeys (excluding out) (setSystemTimer duration purpose : HubM A R TimerHandle) := by
  refine .bind (trySetTimer_excluding (.inl rfl)) fun r => ?_
  split
  · exact .pure _
  · exact fatal_excluding _

theorem cancelTimer_excluding (owner : InstanceId) (x : TimerHandle) :
    Obeys (excluding out) (cancelTimer owner x : HubM A R Bool) := by
  refine obeys_excluding fun h hf => ?_
  refine (cancelTimer_ends owner x h hf.timers.coherent).mono ?_ fun _ _ => False.elim
  rintro _ h' ⟨-, q, hs, rfl⟩
  exact setTimers_excluding fun hp => hp.sheds hs

theorem cancelSystemTimer_excluding (x : TimerHandle) :
    Obeys (excluding out) (cancelSystemTimer x : HubM A R Bool) := cancelTimer_excluding _ x

theorem cancelTimersOf_excluding (owner : InstanceId) :
    Obeys (excluding out) (cancelTimersOf owner : HubM A R Nat) := fun h =>
  setTimers_excluding fun hp =>
    hp.sheds (TimerPool.cancelAllOwnedBy_sheds hp.coherent h.now owner).2

theorem postExpiry_excluding (r : TimerRequest) :
    Obeys (excluding out) (postExpiry r : HubM A R Unit) := by
  unfold postExpiry
  split
  · exact deferOrDie_excluding _
  · refine .bind (post_excluding _) fun _ => .ite (fun _ => .pure _) fun _ => ?_
    refine .bind (.modify fun h => ?_) fun _ => emit_excluding _ _ _
    exact setTimers_excluding fun hp => hp.hush h.timers.hardware (h.timers.lost + 1)

theorem tick_excluding : Obeys (excluding out) (tick : HubM A R Nat) := by
  intro h
  unfold tick
  rw [ends_bind, ends_get]
  split
  · exact (excluding out).refl h
  · rename_i fired pool ht
    refine ends_bind.2 (ends_modify.2 (Obeys.after ?_ (setTimers_excluding fun hp => hp.tick ht)))
    exact .bind (.forM fun r _ => postExpiry_excluding r) fun _ => .pure _

/-! ## Heap -/

theorem setHeap_excluding {h : Hub A R} {heap : Heap} (hh : h.heap.FreeOf out → heap.FreeOf out) :
    (excluding out).rel h { h with heap } :=
  fun hf => ⟨⟨hf.timers, hh hf.heap, hf.wifi, hf.cell, hf.session⟩, rfl, rfl, rfl⟩

/-! ## Slots and lists -/

theorem modifyWifi_excluding {f : WifiState → WifiState}
    (hf : ∀ w, w.FreeOf out → (f w).FreeOf out) :
    Obeys (excluding out) (modifyWifi f : HubM A R Unit) :=
  .modify fun _ hh => ⟨⟨hh.timers, hh.heap, hf _ hh.wifi, hh.cell, hh.session⟩, rfl, rfl, rfl⟩

theorem modifyWwan_excluding {f : WwanState → WwanState}
    (hf : ∀ w, w.cellSlot.FreeOf out → (f w).cellSlot.FreeOf out) :
    Obeys (excluding out) (modifyWwan f : HubM A R Unit) :=
  .modify fun _ hh => ⟨⟨hh.timers, hh.heap, hh.wifi, hf _ hh.cell, hh.session⟩, rfl, rfl, rfl⟩

theorem session_modifySession (g : GnssState) (k k' : SessionKind) (f : Session → Session) :
    (g.modifySession k f).session k' = if k' = k then f (g.session k') else g.session k' := by
  cases k <;> cases k' <;> rfl

theorem modifySession_excluding (k : SessionKind) {f : Session → Session}
    (hf : ∀ s, s.FreeOf out → (f s).FreeOf out) :
    Obeys (excluding out) (modifySession k f : HubM A R Unit) := by
  refine .modify fun h hh => ⟨⟨hh.timers, hh.heap, hh.wifi, hh.cell, fun k' => ?_⟩, rfl, rfl, rfl⟩
  show ((h.gnss.modifySession k f).session k').FreeOf out
  rw [session_modifySession]
  split
  · exact hf _ (hh.session k')
  · exact hh.session k'

variable [Radio R]

theorem requestRadio_excluding (request : RadioRequest) :
    Obeys (excluding out) (requestRadio request : HubM A R Bool) := by
  intro h
  unfold requestRadio
  rw [ends_bind, ends_get]
  split
  · exact (excluding out).refl h
  · rename_i reaction _
    have hset : (excluding out).rel h { h with
        radios := reaction.next
        journal := .requested request reaction.accepted :: h.journal } :=
      excluding_of_same rfl rfl rfl rfl rfl ⟨rfl, rfl, rfl⟩
    refine ends_bind.2 (ends_set.2 (Obeys.after ?_ hset))
    exact .bind (.forM fun r _ => deferOrDie_excluding _) fun _ => .pure _

theorem powerOn_excluding (d : Device) : Obeys (excluding out) (powerOn d : HubM A R Bool) := by
  intro h
  unfold powerOn
  simp only [ends_bind, ends_get, ends_set, ends_ite, ends_pure]
  split
  · exact excluding_of_same rfl rfl rfl rfl rfl ⟨rfl, rfl, rfl⟩
  · exact excluding_of_same rfl rfl rfl rfl rfl ⟨rfl, rfl, rfl⟩

theorem powerOff_excluding (d : Device) : Obeys (excluding out) (powerOff d : HubM A R Unit) :=
  .modify fun _ => excluding_of_same rfl rfl rfl rfl rfl ⟨rfl, rfl, rfl⟩

end Hub

end ContextHub
