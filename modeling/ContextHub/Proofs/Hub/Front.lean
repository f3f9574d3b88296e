import ContextHub.Proofs.Hub.Expiries
import Mathlib.Logic.Function.Basic
/-!
# The front of a hub

What passes between nanoapps and radios goes over the hub's `Front`: the nanoapps that are loaded,
with their permissions and subscriptions; the `Desks`, where requests are in flight and wishes are
shared; the results that are queued; and what the journal tells of results, of the radios and of
deliveries. A step changes the desks and has `Effect`s on the rest, and `Yields m h Q` says so of a
step `m` from `h`. What is `still` does neither.
-/

namespace ContextHub

/-- The types of events that tell what came of requests to radios. -/
def EventType.isResult (t : EventType) : Bool :=
  [EventType.wifiAsyncResult, EventType.wifiScanResult, EventType.wifiRangingResult,
    EventType.gnssAsyncResult, EventType.gnssLocation, EventType.gnssData,
    EventType.wwanCellInfoResult].contains t

def Task.result? : Task → Option Event
  | .event e => if e.type.isResult then some e else none
  | .deferred _ => none

/-- Whether an entry tells of a result that was posted, of a radio that was asked, or of a
delivery. -/
def Entry.isNoted : Entry → Bool
  | .handed e accepted => accepted && e.type.isResult
  | .delivered _ _ _ => true
  | .requested _ _ => true
  | _ => false

def Entry.delivery? : Entry → Option Delivery
  | .delivered _ d _ => some d
  | _ => none

/-- What a step does to the front apart from the desks. -/
inductive Effect where
  | posted (e : Event)
  | asked (q : RadioRequest) (accepted : Bool)
  | subscribed (id : InstanceId) (type : EventType)
  | unsubscribed (id : InstanceId) (type : EventType)

/-- What the front tells of a loaded nanoapp. -/
structure Member where
  id : InstanceId
  permissions : Permissions
  subscriptions : List EventType

namespace Effect

def event? : Effect → Option Event
  | posted e => some e
  | _ => none

def entry? : Effect → Option Entry
  | posted e => some (.handed e true)
  | asked q accepted => some (.requested q accepted)
  | _ => none

def onMember (m : Member) : Effect → Member
  | subscribed id type =>
    if m.id = id then { m with subscriptions := Nanoapp.insertType type m.subscriptions } else m
  | unsubscribed id type =>
    if m.id = id then { m with subscriptions := m.subscriptions.filter (· != type) } else m
  | _ => m

end Effect

/-- Requests in flight, what nanoapps share of the radios, and the settings for WiFi requests. -/
structure Desks where
  settings : WifiSettings
  monitorEnabled : Bool
  monitors : List InstanceId
  monitor : Slot MonitorChange
  scan : Slot ScanJob
  ranging : Slot Unit
  cell : Slot Unit
  session : SessionKind → Session

def Desks.setSession (d : Desks) (k : SessionKind) (s : Session) : Desks :=
  { d with session := Function.update d.session k s }

structure Front where
  desks : Desks
  crew : List Member
  queued : List Event
  /-- Latest first. -/
  notes : List Entry

namespace Front

/-- Whether a nanoapp with the permission is loaded under the id. -/
def holds (F : Front) (id : InstanceId) (p : Permission) : Prop :=
  ∃ m ∈ F.crew, m.id = id ∧ m.permissions.allows p = true

def after (F : Front) (fx : List Effect) : Front where
  desks := F.desks
  crew := F.crew.map fun m => fx.foldl Effect.onMember m
  queued := F.queued ++ fx.filterMap Effect.event?
  notes := (fx.filterMap Effect.entry?).reverse ++ F.notes

theorem after_nil (F : Front) : F.after [] = F := by simp [after]

theorem after_append (F : Front) (fx fx' : List Effect) :
    F.after (fx ++ fx') = (F.after fx).after fx' := by
  simp [after, List.foldl_append, Function.comp_def]

/-- Effects are no deliveries. -/
theorem after_deliveries (F : Front) (fx : List Effect) :
    (F.after fx).notes.filterMap Entry.delivery? = F.notes.filterMap Entry.delivery? := by
  have hfx : ((fx.filterMap Effect.entry?).reverse).filterMap Entry.delivery? = [] := by
    rw [List.filterMap_eq_nil_iff]
    intro e he
    obtain ⟨x, -, hx⟩ := List.mem_filterMap.1 (List.mem_reverse.1 he)
    cases x <;> cases hx <;> rfl
  rw [after, List.filterMap_append, hfx, List.nil_append]

end Front

/-- Why a hub stopped, other than that a slot in use would have been filled; only a radio can say
so in the same words. -/
def Halt.Sound (R : Type) [Radio R] (e : Halt) : Prop :=
  e = .fatal Slot.occupiedFault →
    ∃ (now : Nat) (q : RadioRequest) (r : R), Radio.request now q r = .error Slot.occupiedFault

def Nanoapp.member {A : Type} (n : Nanoapp A) : Member := ⟨n.id, n.permissions, n.subscriptions⟩

theorem isResult_of_user {t : EventType} (ht : EventType.firstUser ≤ t) : t.isResult = false := by
  refine Bool.eq_false_iff.2 fun hr => ?_
  simp only [EventType.isResult, List.contains_eq_mem, decide_eq_true_eq, List.mem_cons,
    List.not_mem_nil, or_false] at hr
  rcases hr with rfl | rfl | rfl | rfl | rfl | rfl | rfl <;> exact absurd ht (by decide)

theorem Halt.sound_of_head {R : Type} [Radio R] {message : String}
    (hm : message.toList.head? = some 'F') : (Halt.fatal message).Sound R := by
  intro h
  rw [Halt.fatal.inj h] at hm
  cases hm

namespace Hub

variable {A R α β : Type}

def desks (h : Hub A R) : Desks where
  settings := h.wifi.settings
  monitorEnabled := h.wifi.monitorEnabled
  monitors := h.wifi.monitors
  monitor := h.wifi.monitorSlot
  scan := h.wifi.scanSlot
  ranging := h.wifi.rangingSlot
  cell := h.wwan.cellSlot
  session k := { h.gnss.session k with errors := {} }

def front (h : Hub A R) : Front where
  desks := h.desks
  crew := h.registry.apps.map Nanoapp.member
  queued := h.queue.tasks.filterMap Task.result?
  notes := h.journal.filter Entry.isNoted

/-- What was delivered so far, latest first. -/
def deliveries (h : Hub A R) : List Delivery := h.journal.filterMap Entry.delivery?

theorem deliveries_eq (h : Hub A R) :
    h.deliveries = h.front.notes.filterMap Entry.delivery? := by
  rw [deliveries, front, List.filterMap_filter]
  congr 1
  funext e
  cases e <;> simp [Entry.delivery?, Entry.isNoted]

/-- Up to its front, `h'` is `h` with the desks `d` and the effects `fx`. -/
def Changed (h : Hub A R) (d : Desks) (fx : List Effect) (h' : Hub A R) : Prop :=
  h'.front = ({ h.front with desks := d }).after fx

namespace Changed

variable {h h₁ h₂ : Hub A R} {d d' : Desks} {fx fx' : List Effect}

theorem of_front (hf : h₁.front = h.front) : h.Changed h.desks [] h₁ :=
  hf.trans (Front.after_nil h.front).symm

theorem of_parts (hdesks : h₁.desks = d)
    (hcrew : h₁.front.crew = h.front.crew.map fun m => fx.foldl Effect.onMember m)
    (hqueued : h₁.front.queued = h.front.queued ++ fx.filterMap Effect.event?)
    (hnotes : h₁.front.notes = (fx.filterMap Effect.entry?).reverse ++ h.front.notes) :
    h.Changed d fx h₁ := by
  rw [Changed, Front.after, ← hdesks, ← hcrew, ← hqueued, ← hnotes]
  rfl

theorem desks (hc : h.Changed d fx h₁) : h₁.desks = d := congrArg Front.desks hc

theorem trans (hc : h.Changed d fx h₁) (hc' : h₁.Changed d' fx' h₂) :
    h.Changed d' (fx ++ fx') h₂ := by
  rw [Changed, Front.after_append, hc', hc]
  rfl

theorem deliveries (hc : h.Changed d fx h₁) : h₁.deliveries = h.deliveries := by
  rw [deliveries_eq, deliveries_eq, hc]
  exact Front.after_deliveries _ fx

end Changed

variable [Radio R]

/-- A halt in between, before which nothing was delivered. -/
def Quits (h : Hub A R) (e : Halt) (h' : Hub A R) : Prop :=
  h'.deliveries = h.deliveries ∧ e.Sound R

/-- The front stays as it is. -/
def still : Law A R where
  rel h h' := h'.front = h.front
  halts := Quits
  refl _ := rfl
  trans hf hf' := hf'.trans hf
  halts_of_rel hf hq := ⟨hq.1.trans (Changed.of_front hf).deliveries, hq.2⟩

/-- From `h` the step ends with a result, desks and effects that satisfy `Q`. -/
def Yields (m : HubM A R α) (h : Hub A R) (Q : α → Desks → List Effect → Prop) : Prop :=
  Ends m h (fun a h' => ∃ d fx, Q a d fx ∧ h.Changed d fx h') h.Quits

namespace Yields

variable {m : HubM A R α} {f : α → HubM A R β} {h : Hub A R} {Q : β → Desks → List Effect → Prop}

theorem mono {P P' : α → Desks → List Effect → Prop} (hm : Yields m h P)
    (hP : ∀ a d fx, P a d fx → P' a d fx) : Yields m h P' :=
  Ends.mono hm (fun a _ hq => have ⟨d, fx, hq, hc⟩ := hq; ⟨d, fx, hP a d fx hq, hc⟩)
    fun _ _ he => he

theorem pure {a : α} {P : α → Desks → List Effect → Prop} (ha : P a h.desks []) :
    Yields (Pure.pure a) h P :=
  ends_pure.2 ⟨h.desks, [], ha, .of_front rfl⟩

theorem get_bind {f : Hub A R → HubM A R β} (hf : Yields (f h) h Q) : Yields (get >>= f) h Q := hf

theorem ite {c : Prop} [Decidable c] {m m' : HubM A R β} (hm : c → Yields m h Q)
    (hm' : ¬ c → Yields m' h Q) : Yields (if c then m else m') h Q := by
  split
  · exact hm ‹_›
  · exact hm' ‹_›

/-- One step and then another; the effects of the second come after those of the first. -/
theorem bind {P : α → Desks → List Effect → Prop} (hm : Yields m h P)
    (hf : ∀ a d fx h₁, P a d fx → h₁.desks = d →
      Yields (f a) h₁ fun b d' fx' => Q b d' (fx ++ fx')) :
    Yields (m >>= f) h Q := by
  refine ends_bind.2 (Ends.mono hm ?_ fun _ _ he => he)
  rintro a h₁ ⟨d, fx, hP, hc⟩
  refine Ends.mono (hf a d fx h₁ hP hc.desks) ?_ ?_
  · rintro b h₂ ⟨d', fx', hQ, hc'⟩
    exact ⟨d', fx ++ fx', hQ, hc.trans hc'⟩
  · rintro e h₂ ⟨hd, he⟩
    exact ⟨hd.trans hc.deliveries, he⟩

theorem of_still (hm : Obeys still m) : Yields m h fun _ d fx => d = h.desks ∧ fx = [] :=
  (hm h).mono (fun _ _ hf => ⟨h.desks, [], ⟨rfl, rfl⟩, .of_front hf⟩) fun _ _ he => he

theorem fatal {message : String} (hm : message.toList.head? = some 'F') :
    Yields (Hub.fatal message) h Q :=
  show Quits h _ _ from ⟨rfl, Halt.sound_of_head hm⟩

/-- Something still, and then more. -/
theorem still_bind (hm : Obeys still m)
    (hf : ∀ a h₁, h₁.desks = h.desks → Yields (f a) h₁ Q) : Yields (m >>= f) h Q := by
  refine bind (of_still hm) fun a d fx h₁ hP hd => ?_
  obtain ⟨rfl, rfl⟩ := hP
  exact hf a h₁ hd

/-- Effects that leave the desks alone, and then more. -/
theorem effect_bind {fx : α → List Effect}
    (hm : Yields m h fun a d fx' => d = h.desks ∧ fx' = fx a)
    (hf : ∀ a h₁, h₁.desks = h.desks → Yields (f a) h₁ fun b d fx' => Q b d (fx a ++ fx')) :
    Yields (m >>= f) h Q := by
  refine bind hm fun a d fx' h₁ hP hd => ?_
  obtain ⟨rfl, rfl⟩ := hP
  exact hf a h₁ hd

/-- A change of nothing but the desks, as far as the front is concerned. -/
theorem of_modify {g : Hub A R → Hub A R} (hcrew : (g h).registry = h.registry)
    (hqueue : (g h).queue = h.queue) (hjournal : (g h).journal = h.journal) :
    Yields (modify g) h fun _ d fx => d = (g h).desks ∧ fx = [] := by
  refine ends_modify.2 ⟨_, _, ⟨rfl, rfl⟩, ?_⟩
  rw [Changed, Front.after_nil, front, hcrew, hqueue, hjournal]
  rfl

theorem modify_bind {g : Hub A R → Hub A R} {f : PUnit → HubM A R β}
    (hcrew : (g h).registry = h.registry) (hqueue : (g h).queue = h.queue)
    (hjournal : (g h).journal = h.journal)
    (hf : ∀ h₁, h₁.desks = (g h).desks → Yields (f ⟨⟩) h₁ Q) :
    Yields (modify g >>= f) h Q := by
  refine bind (of_modify hcrew hqueue hjournal) fun _ d fx h₁ hP hd => ?_
  obtain ⟨rfl, rfl⟩ := hP
  exact hf h₁ hd

end Yields

/-! ## Still steps -/

theorem emit_still (level : Level) (message : String) (fields : List (String × String)) :
    Obeys still (emit level message fields : HubM A R Unit) :=
  .modify fun _ => rfl

theorem note_still {e : Entry} (he : e.isNoted = false) :
    Obeys still (note e : HubM A R Unit) := by
  refine .modify fun h => ?_
  simp only [still, front, List.filter_cons, he, Bool.false_eq_true, ↓reduceIte]
  rfl

theorem countMetric_still (f : Metrics → Metrics) : Obeys still (countMetric f : HubM A R Unit) :=
  .modify fun _ => rfl

theorem modifyStats_still (f : LoopStats → LoopStats) :
    Obeys still (modifyStats f : HubM A R Unit) :=
  .modify fun _ => rfl

theorem release_still (e : Event) : Obeys still (release e : HubM A R Unit) := note_still rfl

theorem countDropped_still : Obeys still (countDropped : HubM A R Unit) := modifyStats_still _

theorem countRadioError_still (d : Device) : Obeys still (countRadioError d : HubM A R Unit) :=
  countMetric_still _

theorem checkCode_still (raw : Nat) : Obeys still (checkCode raw : HubM A R Unit) := by
  unfold checkCode
  exact .ite (fun _ => emit_still _ _ _) fun _ => .pure _

theorem fatal_still {message : String} (hm : message.toList.head? = some 'F') :
    Obeys still (fatal message : HubM A R α) :=
  .bind (emit_still _ _ _) fun _ => .throw fun _ => ⟨rfl, Halt.sound_of_head hm⟩

/-! ### The queue -/

/-- An event that is no result is posted, or it is not. -/
theorem tryPost_still {e : Event} (he : e.type.isResult = false) :
    Obeys still (tryPost e : HubM A R (Except QueueError Unit)) := by
  intro h
  unfold tryPost
  rw [ends_bind, ends_get]
  split
  · rename_i q hq
    refine ends_bind.2 (ends_set.2 (ends_pure.2 ?_))
    simp only [still, front, offer_tasks hq, List.filterMap_append, List.filterMap_cons,
      Task.result?, he, Bool.false_eq_true, ↓reduceIte, List.filterMap_nil, List.append_nil,
      List.filter_cons, Entry.isNoted, Bool.and_false]
    rfl
  · refine Obeys.bind (note_still rfl) (fun _ => ?_) h
    refine .bind countDropped_still fun _ => .bind (emit_still _ _ _) fun _ => ?_
    exact .bind (release_still e) fun _ => .pure _

theorem post_still {e : Event} (he : e.type.isResult = false) :
    Obeys still (post e : HubM A R Bool) := by
  refine .bind (tryPost_still he) fun r => ?_
  split <;> exact .pure _

theorem defer_still (c : Callback) : Obeys still (defer c : HubM A R Bool) := by
  intro h
  unfold defer
  rw [ends_bind, ends_get]
  split
  · rename_i q hq
    refine ends_bind.2 (ends_set.2 (ends_pure.2 ?_))
    simp only [still, front, offer_tasks hq, List.filterMap_append, List.filterMap_cons,
      Task.result?, List.filterMap_nil, List.append_nil]
    rfl
  · exact Obeys.bind (emit_still _ _ _) (fun _ => .pure _) h

theorem deferOrDie_still (c : Callback) : Obeys still (deferOrDie c : HubM A R Unit) :=
  .bind (defer_still c) fun _ => .ite (fun _ => .pure _) fun _ => fatal_still (by simp [toString])

theorem result?_others (p : Event → Bool) (ts : List Task) :
    (Queue.others p ts).filterMap Task.result? = (ts.filterMap Task.result?).filter (!p ·) := by
  induction ts with
  | nil => rfl
  | cons t ts ih =>
    rw [Queue.others] at ih ⊢
    cases t with
    | deferred c =>
      rw [List.filter_cons_of_pos rfl, List.filterMap_cons_none rfl, List.filterMap_cons_none rfl]
      exact ih
    | event e =>
      cases hp : p e <;> cases he : e.type.isResult <;> simp [Task.result?, hp, he, ih]

theorem discard_front (p : Event → Bool) (h : Hub A R) :
    Ends (discard p) h
      (fun _ h' => h'.front = { h.front with queued := h.front.queued.filter (!p ·) }) h.Quits := by
  unfold discard
  rw [ends_bind, ends_get]
  refine ends_bind.2 (ends_set.2 ?_)
  have hout (out : List Event) : Obeys still (do
      out.forM fun e => do
        countDropped
        Hub.release e
      return out : HubM A R (List Event)) :=
    .bind (.forM fun e _ => .bind countDropped_still fun _ => release_still e) fun _ => .pure _
  refine (hout _ _).mono (fun _ h₁ hf => ?_) fun _ _ => id
  have hqueued : (h.queue.discard p).2.tasks.filterMap Task.result? =
      h.front.queued.filter (!p ·) := by rw [discard_tasks, result?_others, front]
  exact hf.trans (congrArg (fun l => { h.front with queued := l }) hqueued)

theorem discard_still {p : Event → Bool} (hp : ∀ e, p e = true → e.type.isResult = false) :
    Obeys still (discard p : HubM A R (List Event)) := by
  intro h
  refine (discard_front p h).mono (fun _ h₁ hf => ?_) fun _ _ => id
  refine hf.trans (congrArg (fun l => { h.front with queued := l }) ?_)
  refine List.filter_eq_self.2 fun e he => ?_
  obtain ⟨t, -, ht⟩ := List.mem_filterMap.1 he
  unfold Task.result? at ht
  split at ht
  · split at ht
    · cases ht
      cases hpe : p e
      · rfl
      · simp_all
    · cases ht
  · cases ht

theorem requestUnload_still (id : InstanceId) : Obeys still (requestUnload id : HubM A R Bool) :=
  defer_still _

theorem stopLoop_still : Obeys still (stopLoop : HubM A R Unit) := .modify fun _ => rfl

/-! ### Timers -/

theorem setTimers_still (pool : TimerPool) : Obeys still (setTimers pool : HubM A R Unit) :=
  .modify fun _ => rfl

theorem trySetTimer_still (s : TimerSpec) :
    Obeys still (trySetTimer s : HubM A R (Except TimerError TimerHandle)) := by
  unfold trySetTimer
  refine .get_bind fun h => ?_
  split
  · exact .pure _
  · exact .bind (setTimers_still _) fun _ => .bind (emit_still _ _ _) fun _ => .pure _

theorem setNanoappTimer_still (owner : InstanceId) (duration : Nat) (cookie : Cookie)
    (oneShot : Bool) :
    Obeys still (setNanoappTimer owner duration cookie oneShot : HubM A R TimerHandle) := by
  refine .bind (trySetTimer_still _) fun r => ?_
  split
  · exact .pure _
  · exact .bind (emit_still _ _ _) fun _ => .pure _

theorem setSystemTimer_still (duration : Nat) (purpose : TimerPurpose) :
    Obeys still (setSystemTimer duration purpose : HubM A R TimerHandle) := by
  refine .bind (trySetTimer_still _) fun r => ?_
  split
  · exact .pure _
  · exact fatal_still (by simp [toString])

theorem cancelTimer_still (owner : InstanceId) (x : TimerHandle) :
    Obeys still (cancelTimer owner x : HubM A R Bool) := by
  unfold cancelTimer
  refine .get_bind fun h => ?_
  split
  · exact .pure _
  · exact .bind (setTimers_still _) fun _ => .pure _

theorem cancelWithExpiries_still (id : InstanceId) (x : TimerHandle) :
    Obeys still (cancelWithExpiries id x : HubM A R Bool) := by
  refine .bind (cancelTimer_still id x) fun _ => .bind (discard_still fun e he => ?_)
    fun _ => .pure _
  simp only [Event.isExpiryOf, Bool.and_eq_true, beq_iff_eq] at he
  rw [he.1.1]
  rfl

theorem cancelTimersOf_still (owner : InstanceId) :
    Obeys still (cancelTimersOf owner : HubM A R Nat) :=
  .get_bind fun _ => .bind (setTimers_still _) fun _ => .pure _

theorem postExpiry_still (r : TimerRequest) : Obeys still (postExpiry r : HubM A R Unit) := by
  unfold postExpiry
  split
  · exact deferOrDie_still _
  · refine .bind (post_still rfl) fun _ => .ite (fun _ => .pure _) fun _ => ?_
    exact .bind (.modify fun _ => rfl) fun _ => emit_still _ _ _

theorem tick_still : Obeys still (tick : HubM A R Nat) := by
  unfold tick
  refine .get_bind fun h => ?_
  split
  · exact .throw fun _ => ⟨rfl, fun he => by cases he⟩
  · exact .bind (setTimers_still _) fun _ => .bind (.forM fun r _ => postExpiry_still r)
      fun _ => .pure _

/-! ### Nanoapps and radios -/

theorem updateHeapGauge_still : Obeys still (updateHeapGauge : HubM A R Unit) :=
  .get_bind fun _ => countMetric_still _

/-- No nanoapp posts results in its own name. -/
theorem still_grants : (still : Law A R).Grants .all where
  emit_obeys := emit_still
  user_obeys he := post_still (isResult_of_user (Nat.le_of_not_lt he))
  heap _ := rfl
  updateHeapGauge_obeys := updateHeapGauge_still
  refuse e h _ := by
    have hhanded : (still : Law A R).rel h { h with journal := .handed e false :: h.journal } :=
      note_still rfl h
    exact still.trans hhanded (release_still e _)
  requestUnload_obeys := requestUnload_still
  stopLoop_obeys := stopLoop_still
  trace _ _ := rfl

theorem wifiCapabilities_still : Obeys still (wifiCapabilities : HubM A R Nat) :=
  .get_bind fun _ => .pure _

theorem wwanCapabilities_still : Obeys still (wwanCapabilities : HubM A R Nat) :=
  .get_bind fun _ => .pure _

theorem gnssCapabilities_still : Obeys still (gnssCapabilities : HubM A R Nat) :=
  .get_bind fun _ => .pure _

theorem powerOn_still (d : Device) : Obeys still (powerOn d : HubM A R Bool) := by
  intro h
  unfold powerOn
  simp only [ends_bind, ends_get, ends_set, ends_ite, ends_pure]
  split
  · exact emit_still _ _ _ _
  · exact rfl

theorem powerOff_still (d : Device) : Obeys still (powerOff d : HubM A R Unit) :=
  .modify fun _ => rfl

theorem still_powers : (still : Law A R).Powers where
  emit_obeys := emit_still
  powerOn_obeys := powerOn_still
  powerOff_obeys := powerOff_still
  wifi _ := .modify fun _ => rfl
  wwan _ := .modify fun _ => rfl
  gnss _ := .modify fun _ => rfl

/-! ## Effects -/

/-- A result is posted, or it is not. -/
theorem tryPost_yields {e : Event} (he : e.type.isResult = true) (h : Hub A R) :
    Yields (tryPost e) h fun r d fx => d = h.desks ∧
      fx = match r with | .ok _ => [.posted e] | .error _ => [] := by
  unfold tryPost
  refine .get_bind ?_
  split
  · rename_i q hq
    refine ends_bind.2 (ends_set.2 (ends_pure.2 ⟨_, _, ⟨rfl, rfl⟩, ?_⟩))
    refine .of_parts rfl (by simp [Effect.onMember]; rfl) ?_ (List.filter_cons_of_pos he)
    simp [front, offer_tasks hq, Task.result?, he, Effect.event?]
  · refine .still_bind (note_still rfl) fun _ h₁ hd₁ => ?_
    refine .still_bind countDropped_still fun _ h₂ hd₂ => ?_
    refine .still_bind (emit_still _ _ _) fun _ h₃ hd₃ => ?_
    refine .still_bind (release_still e) fun _ h₄ hd₄ => .pure ⟨?_, rfl⟩
    rw [hd₄, hd₃, hd₂, hd₁]

theorem post_yields {e : Event} (he : e.type.isResult = true) (h : Hub A R) :
    Yields (post e) h fun b d fx => d = h.desks ∧ fx = if b then [.posted e] else [] := by
  refine .effect_bind (tryPost_yields he h) fun r h₁ hd => ?_
  cases r with
  | ok => exact .pure ⟨hd, rfl⟩
  | error => exact .pure ⟨hd, rfl⟩

theorem postOrDie_yields {e : Event} (he : e.type.isResult = true) (h : Hub A R) :
    Yields (postOrDie e) h fun _ d fx => d = h.desks ∧ fx = [.posted e] := by
  refine .effect_bind (tryPost_yields he h) fun r h₁ hd => ?_
  cases r with
  | ok => exact .pure ⟨hd, rfl⟩
  | error err => exact .fatal (by simp [toString])

/-- A change of one nanoapp's subscriptions, be it loaded or not. -/
theorem subscription_yields {h : Hub A R} {id : InstanceId} {f : Nanoapp A → Nanoapp A} {x : Effect}
    (hon : ∀ n, x.onMember n.member = if n.id = id then (f n).member else n.member)
    (hevent : x.event? = none) (hentry : x.entry? = none) :
    Yields (do
      let h ← get
      if h.registry.contains id then
        set { h with registry := h.registry.update id f }
        return true
      else return false) h fun _ d fx => d = h.desks ∧ fx = [x] := by
  have hcrew : (h.registry.update id f).apps.map Nanoapp.member =
      h.front.crew.map (Effect.onMember · x) := by
    simp only [Registry.update, front, List.map_map]
    refine List.map_congr_left fun n _ => ?_
    rw [Function.comp_apply, Function.comp_apply, hon]
    split <;> rfl
  refine .get_bind (.ite (fun _ => ?_) fun hno => ?_)
  · refine ends_bind.2 (ends_set.2 (ends_pure.2 ⟨_, _, ⟨rfl, rfl⟩, .of_parts rfl hcrew ?_ ?_⟩))
    · simp [hevent, front]
    · simp [hentry, front]
  · refine ends_pure.2 ⟨_, _, ⟨rfl, rfl⟩, .of_parts rfl ?_ (by simp [hevent]) (by simp [hentry])⟩
    have hne (n : Nanoapp A) (hn : n ∈ h.registry.apps) : n.id ≠ id := fun he =>
      hno (List.find?_isSome.2 ⟨n, hn, beq_iff_eq.2 he⟩)
    refine Eq.trans (List.map_congr_left fun n hn => ?_) (List.map_map (l := h.registry.apps)).symm
    exact ((hon n).trans (if_neg (hne n hn))).symm

/-- Whoever is not loaded is not subscribed either. -/
theorem subscribe_yields (id : InstanceId) (type : EventType) (h : Hub A R) :
    Yields (subscribe id type) h fun _ d fx => d = h.desks ∧ fx = [.subscribed id type] :=
  subscription_yields (fun _ => rfl) rfl rfl

theorem unsubscribe_yields (id : InstanceId) (type : EventType) (h : Hub A R) :
    Yields (unsubscribe id type) h fun _ d fx => d = h.desks ∧ fx = [.unsubscribed id type] :=
  subscription_yields (fun _ => rfl) rfl rfl

theorem requestRadio_yields (q : RadioRequest) (h : Hub A R) :
    Yields (requestRadio q) h fun b d fx => d = h.desks ∧ fx = [.asked q b] := by
  unfold requestRadio
  refine .get_bind ?_
  split
  · rename_i message hr
    refine show Quits h _ _ from ⟨rfl, fun he => ?_⟩
    exact ⟨h.now, q, h.radios, Halt.fatal.inj he ▸ hr⟩
  · rename_i reaction hr
    refine ends_bind.2 (ends_set.2 (ends_bind.2 ?_))
    refine (Obeys.forM (fun r _ => deferOrDie_still _) _).mono (fun _ h₁ hf => ?_) fun _ _ => id
    refine ends_pure.2 ⟨_, _, ⟨rfl, rfl⟩, Changed.of_parts ?_ ?_ ?_ ?_⟩
    · exact congrArg Front.desks hf
    · exact (congrArg Front.crew hf).trans (List.map_id _).symm
    · exact (congrArg Front.queued hf).trans (List.append_nil _).symm
    · exact congrArg Front.notes hf

end Hub

end ContextHub
