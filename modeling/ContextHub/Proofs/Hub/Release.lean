import ContextHub.Proofs.Hub.Exclusion
import ContextHub.Proofs.Hub.Expiries
/-!
# Releasing what a nanoapp holds

`holdings p` collects what the nanoapps that `p` names hold in a hub. Releasing a nanoapp's
resources empties its holdings part by part (`Strips`): what it holds in one place is taken out, and
what follows, such as asking a radio for the setting that is left over, changes nobody's holdings
(`sparing`). In the end nothing is left of the nanoapp, and everyone else holds what they held.
-/

namespace ContextHub

/-! ## Who made a request -/

namespace Slot

variable {κ : Type}

/-- The request in the slot, if someone whom `p` names made it. -/
def madeBy (p : InstanceId → Bool) (s : Slot κ) : Slot κ := s.filter (·.requester.any p)

theorem FreeOf.madeBy {out : InstanceId → Bool} {s : Slot κ} (hs : s.FreeOf out) :
    s.madeBy out = none := by
  refine Option.filter_eq_none_iff.2 fun p hp => ?_
  cases hr : p.requester with
  | none => simp
  | some id => simp [hs p hp id hr]

theorem freeOf_of_madeBy {out : InstanceId → Bool} {s : Slot κ} (hs : s.madeBy out = none) :
    s.FreeOf out := by
  intro p hp id hid
  have hno := Option.filter_eq_none_iff.1 hs p hp
  rw [Option.mem_def.1 hid] at hno
  simpa using hno

theorem madeBy_of_owned {s : Slot κ} {id : InstanceId} (hs : s.isOwnedBy id = true) :
    s.madeBy (· != id) = none := by
  cases s with
  | none => rfl
  | some p =>
    have hr : p.requester = some id := by simpa [isOwnedBy] using hs
    simp [madeBy, Option.filter, hr]

theorem madeBy_of_not_owned {s : Slot κ} {id : InstanceId} (hs : s.isOwnedBy id = false) :
    s.madeBy (· == id) = none := by
  cases s with
  | none => rfl
  | some p =>
    have hr : p.requester ≠ some id := by simpa [isOwnedBy] using hs
    cases hp : p.requester with
    | none => simp [madeBy, Option.filter, hp]
    | some x =>
      have hx : x ≠ id := fun e => hr (hp.trans (congrArg some e))
      simp [madeBy, Option.filter, hp, hx]

/-- Taking the requester's name off leaves nothing of it, and nothing else changes. -/
theorem madeBy_detach (s : Slot κ) {id : InstanceId} (detach : Pending κ → Pending κ)
    (hgone : ∀ p, p.requester = some id → (detach p).requester = none)
    (hkept : ∀ p, p.requester ≠ some id → detach p = p) :
    madeBy (· == id) (Option.map detach s) = none ∧
      madeBy (· != id) (Option.map detach s) = s.madeBy (· != id) := by
  cases s with
  | none => exact ⟨rfl, rfl⟩
  | some p =>
    by_cases hp : p.requester = some id
    · have hnone : (detach p).requester = none := hgone p hp
      refine ⟨by simp [madeBy, Option.filter, hnone], ?_⟩
      rw [madeBy_of_owned (s := some p) (by simp [isOwnedBy, hp])]
      simp [madeBy, Option.filter, hnone]
    · have hsame : Option.map detach (some p) = some p := congrArg some (hkept p hp)
      rw [hsame]
      exact ⟨madeBy_of_not_owned (by simpa [isOwnedBy] using hp), rfl⟩

end Slot

/-- What nanoapps hold, in the order in which the hub keeps it. -/
@[ext] structure Holdings where
  timers : List TimerRequest := []
  blocks : List Block := []
  usage : List (InstanceId × OwnerUsage) := []
  monitors : List InstanceId := []
  monitor : Slot MonitorChange := none
  scan : Slot ScanJob := none
  ranging : Slot Unit := none
  cell : Slot Unit := none
  parts : SessionKind → List SessionRequest := fun _ => []
  changes : SessionKind → Slot SessionChange := fun _ => none

/-- Reports of radios, and nothing else, came to the end of the queue. -/
def Queue.Reported (q q' : Queue) : Prop :=
  ∃ reports : List Report, q'.tasks = q.tasks ++ reports.map fun r => .deferred (.report r)

theorem Queue.Reported.refl (q : Queue) : q.Reported q := ⟨[], (List.append_nil _).symm⟩

theorem Queue.Reported.trans {q q' q'' : Queue} (h : q.Reported q') (h' : q'.Reported q'') :
    q.Reported q'' := by
  obtain ⟨reports, hq⟩ := h
  obtain ⟨reports', hq'⟩ := h'
  exact ⟨reports ++ reports', by rw [hq', hq, List.map_append, List.append_assoc]⟩

namespace Hub

variable {A R α : Type}

/-- What the nanoapps that `p` names hold. Timers of the system are nobody's. -/
def holdings (p : InstanceId → Bool) (h : Hub A R) : Holdings where
  timers := h.timers.requests.filter fun r => !r.owner.isSystem && p r.owner
  blocks := h.heap.blocks.filter (p ·.owner)
  usage := h.heap.usage.filter (p ·.1)
  monitors := h.wifi.monitors.filter p
  monitor := h.wifi.monitorSlot.madeBy p
  scan := h.wifi.scanSlot.madeBy p
  ranging := h.wifi.rangingSlot.madeBy p
  cell := h.wwan.cellSlot.madeBy p
  parts k := (h.gnss.session k).requests.filter (p ·.id)
  changes k := (h.gnss.session k).slot.madeBy p

theorem FreeOf.holdings {out : InstanceId → Bool} {h : Hub A R} (hf : h.FreeOf out) :
    h.holdings out = {} := by
  have hnone {β : Type} {l : List β} {p : β → Bool} (hl : ∀ b ∈ l, p b = false) :
      l.filter p = [] := List.filter_eq_nil_iff.2 fun b hb => by simp [hl b hb]
  refine Holdings.ext (hnone fun r hr => ?_) (hnone hf.heap.owners) (hnone hf.heap.entries)
    (hnone hf.wifi.monitors) hf.wifi.monitor.madeBy hf.wifi.scan.madeBy hf.wifi.ranging.madeBy
    hf.cell.madeBy (funext fun k => hnone (hf.session k).requests)
    (funext fun k => (hf.session k).slot.madeBy)
  rcases hf.timers.owners r hr with ho | ho
  · simp [ho]
  · simp [ho]

/-- In a hub whose parts agree, whose holdings are empty holds nothing. -/
theorem freeOf_of_holdings {out out' : InstanceId → Bool} {h : Hub A R} (hf : h.FreeOf out')
    (hh : h.holdings out = {}) : h.FreeOf out := by
  have hnone {β : Type} {l : List β} {p : β → Bool} (hl : l.filter p = []) :
      ∀ b ∈ l, p b = false := fun b hb => by simpa using List.filter_eq_nil_iff.1 hl b hb
  have htimers := hnone (congrArg Holdings.timers hh)
  refine ⟨⟨hf.timers.coherent, fun r hr => ?_⟩,
    ⟨hf.heap.exact, hnone (congrArg Holdings.blocks hh), hnone (congrArg Holdings.usage hh)⟩,
    ⟨hnone (congrArg Holdings.monitors hh), Slot.freeOf_of_madeBy (congrArg Holdings.monitor hh),
      Slot.freeOf_of_madeBy (congrArg Holdings.scan hh),
      Slot.freeOf_of_madeBy (congrArg Holdings.ranging hh)⟩,
    Slot.freeOf_of_madeBy (congrArg Holdings.cell hh),
    fun k => ⟨hnone (congrFun (congrArg Holdings.parts hh) k),
      Slot.freeOf_of_madeBy (congrFun (congrArg Holdings.changes hh) k), (hf.session k).fits⟩⟩
  have ho : (!r.owner.isSystem && out r.owner) = false := htimers r hr
  cases hsys : r.owner.isSystem with
  | true => exact .inl rfl
  | false => exact .inr (by simpa [hsys] using ho)

/-! ## What changes nobody's holdings -/

structure Spares (h h' : Hub A R) : Prop where
  coherent : h'.timers.Coherent
  holdings : ∀ p, h'.holdings p = h.holdings p
  queue : h.queue.Reported h'.queue
  registry : h'.registry = h.registry

/-- Everyone holds what they held, and all that is queued anew are reports. -/
def sparing : Law A R where
  rel h h' := h.timers.Coherent → h.Spares h'
  halts _ _ _ := True
  refl _ hp := ⟨hp, fun _ => rfl, .refl _, rfl⟩
  trans hr hr' hp :=
    have hs := hr hp
    have hs' := hr' hs.coherent
    ⟨hs'.coherent, fun p => (hs'.holdings p).trans (hs.holdings p), hs.queue.trans hs'.queue,
      hs'.registry.trans hs.registry⟩
  halts_of_rel _ _ := trivial

theorem sparing_of_same {h h' : Hub A R} (ht : h'.timers = h.timers)
    (hh : ∀ p, h'.holdings p = h.holdings p) (hq : h'.queue = h.queue)
    (hr : h'.registry = h.registry) : sparing.rel h h' :=
  fun hp => ⟨ht ▸ hp, hh, hq ▸ .refl _, hr⟩

theorem emit_sparing (level : Level) (message : String) (fields : List (String × String)) :
    Obeys sparing (emit level message fields : HubM A R Unit) :=
  .modify fun _ => sparing_of_same rfl (fun _ => rfl) rfl rfl

theorem countMetric_sparing (f : Metrics → Metrics) :
    Obeys sparing (countMetric f : HubM A R Unit) :=
  .modify fun _ => sparing_of_same rfl (fun _ => rfl) rfl rfl

theorem throw_sparing (e : Halt) : Obeys sparing (throw e : HubM A R α) := .throw fun _ => trivial

theorem deferReport_sparing (r : Report) :
    Obeys sparing (deferOrDie (.report r) : HubM A R Unit) := by
  have hdefer : Obeys sparing (defer (.report r) : HubM A R Bool) := by
    intro h
    unfold defer
    rw [ends_bind, ends_get]
    split
    · rename_i q hq
      exact fun hp => ⟨hp, fun _ => rfl, ⟨[r], offer_tasks hq⟩, rfl⟩
    · exact sparing_of_same rfl (fun _ => rfl) rfl rfl
  refine .bind hdefer fun _ => .ite (fun _ => .pure _) fun _ => ?_
  exact .bind (emit_sparing _ _ _) fun _ => throw_sparing _

/-- Timers of the system come and go. -/
theorem setTimers_sparing {h : Hub A R} {pool : TimerPool}
    (ht : h.timers.Coherent → pool.Coherent ∧ pool.requests.filter (!·.owner.isSystem) =
      h.timers.requests.filter (!·.owner.isSystem)) : sparing.rel h { h with timers := pool } := by
  intro hp
  obtain ⟨hcoh, hreq⟩ := ht hp
  refine ⟨hcoh, fun p => ?_, .refl _, rfl⟩
  have htimers : pool.requests.filter (fun r => !r.owner.isSystem && p r.owner) =
      h.timers.requests.filter (fun r => !r.owner.isSystem && p r.owner) := by
    have hboth := congrArg (List.filter (p ·.owner)) hreq
    simpa only [List.filter_filter, Bool.and_comm] using hboth
  exact Holdings.ext htimers rfl rfl rfl rfl rfl rfl rfl rfl rfl

theorem setSystemTimer_sparing (duration : Nat) (purpose : TimerPurpose) :
    Obeys sparing (setSystemTimer duration purpose : HubM A R TimerHandle) := by
  have htry : Obeys sparing (trySetTimer { owner := .system, duration, purpose := some purpose } :
      HubM A R (Except TimerError TimerHandle)) := by
    intro h
    unfold trySetTimer
    rw [ends_bind, ends_get]
    split
    · exact sparing.refl h
    · rename_i x pool hs
      refine ends_bind.2 (ends_modify.2 (Obeys.after ?_ (setTimers_sparing fun hp => ?_)))
      · exact .bind (emit_sparing _ _ _) fun _ => .pure _
      · have ha := TimerPool.set_eq_ok hp hs
        refine ⟨ha.coherent, ?_⟩
        rw [ha.requests]
        exact TimerPool.filter_place rfl _
  refine .bind htry fun r => ?_
  split
  · exact .pure _
  · exact .bind (emit_sparing _ _ _) fun _ => throw_sparing _

theorem cancelSystemTimer_sparing (x : TimerHandle) :
    Obeys sparing (cancelSystemTimer x : HubM A R Bool) := by
  intro h
  by_cases hp : h.timers.Coherent
  · refine (cancelTimer_ends .system x h hp).mono ?_ fun _ _ => False.elim
    rintro _ h' ⟨-, q, hs, rfl⟩
    refine setTimers_sparing fun _ => ⟨hs.coherent, ?_⟩
    rw [hs.requests, List.filter_filter]
    refine List.filter_congr fun r _ => ?_
    by_cases hr : r.owner = .system
    · simp [hr, InstanceId.isSystem]
    · simp [hr, InstanceId.isSystem]
  · unfold Ends
    split
    · exact fun hp' => absurd hp' hp
    · trivial

/-- A request that nobody made fills an empty slot. -/
theorem occupied_ends {κ β : Type} {s : Slot κ} {p : Pending κ} {f : Slot κ → HubM A R β}
    {h : Hub A R} {Q : β → Hub A R → Prop} (hf : s = none → Ends (f (some p)) h Q fun _ _ => True) :
    Ends (occupied s p >>= f) h Q fun _ _ => True := by
  cases s with
  | none => exact hf rfl
  | some q => trivial

theorem awaitMonitor_sparing (cookie : Cookie) (change : MonitorChange) :
    Obeys sparing (awaitMonitor none cookie change : HubM A R Unit) := by
  intro h
  refine occupied_ends fun hnone => sparing_of_same rfl (fun p => ?_) rfl rfl
  have hslot : (h.holdings p).monitor = none := by rw [holdings, hnone]; rfl
  exact Holdings.ext rfl rfl rfl rfl hslot.symm rfl rfl rfl rfl rfl

theorem awaitSession_sparing (k : SessionKind) (cookie : Cookie) (change : SessionChange) :
    Obeys sparing (awaitSession k none cookie change : HubM A R Unit) := by
  unfold awaitSession
  refine .get_bind fun _ => .bind (setSystemTimer_sparing _ _) fun timer h => ?_
  refine occupied_ends fun hnone => sparing_of_same rfl (fun p => ?_) rfl rfl
  refine Holdings.ext rfl rfl rfl rfl rfl rfl rfl rfl (funext fun k' => ?_) (funext fun k' => ?_)
  · simp only [holdings, session_modifySession]
    split <;> rfl
  · simp only [holdings, session_modifySession]
    split
    · rename_i heq
      rw [heq, hnone]
      rfl
    · rfl

section

variable [Radio R]

theorem requestRadio_sparing (request : RadioRequest) :
    Obeys sparing (requestRadio request : HubM A R Bool) := by
  intro h
  unfold requestRadio
  rw [ends_bind, ends_get]
  split
  · trivial
  · rename_i reaction _
    have hset : sparing.rel h { h with
        radios := reaction.next
        journal := .requested request reaction.accepted :: h.journal } :=
      sparing_of_same rfl (fun _ => rfl) rfl rfl
    refine ends_bind.2 (ends_set.2 (Obeys.after ?_ hset))
    exact .bind (.forM fun r _ => deferReport_sparing r) fun _ => .pure _

theorem reconcileMonitor_sparing : Obeys sparing (reconcileMonitor : HubM A R Unit) := by
  unfold reconcileMonitor
  refine .get_bind fun _ => .ite (fun _ => .pure _) fun _ => .ite (fun _ => .pure _) fun _ => ?_
  refine .bind (requestRadio_sparing _) fun _ => .ite (fun _ => ?_) fun _ => emit_sparing _ _ _
  exact awaitMonitor_sparing _ _

theorem reconcileSession_sparing (k : SessionKind) :
    Obeys sparing (reconcileSession k : HubM A R Unit) := by
  unfold reconcileSession
  refine .get_bind fun _ => .ite (fun _ => .pure _) fun _ => .ite (fun _ => .pure _) fun _ => ?_
  refine .bind (requestRadio_sparing _) fun _ => .ite (fun _ => ?_) fun _ => emit_sparing _ _ _
  exact .bind (emit_sparing _ _ _) fun _ => awaitSession_sparing _ _ _

end

/-! ## Stripping a nanoapp of its holdings -/

/-- What `id` holds has become `f` of what it was, everyone else holds what they held, and all that
is queued anew are reports. -/
structure Strips (id : InstanceId) (f : Holdings → Holdings) (h h' : Hub A R) : Prop where
  coherent : h'.timers.Coherent
  own : h'.holdings (· == id) = f (h.holdings (· == id))
  others : h'.holdings (· != id) = h.holdings (· != id)
  queue : h.queue.Reported h'.queue
  registry : h'.registry = h.registry

namespace Strips

variable {id : InstanceId} {f g : Holdings → Holdings} {h h₁ h₂ : Hub A R}

theorem trans (hs : Strips id f h h₁) (hs' : Strips id g h₁ h₂) :
    Strips id (fun x => g (f x)) h h₂ where
  coherent := hs'.coherent
  own := hs'.own.trans (congrArg g hs.own)
  others := hs'.others.trans hs.others
  queue := hs.queue.trans hs'.queue
  registry := hs'.registry.trans hs.registry

theorem spares (hs : Strips id f h h₁) (hs' : h₁.Spares h₂) : Strips id f h h₂ where
  coherent := hs'.coherent
  own := (hs'.holdings _).trans hs.own
  others := (hs'.holdings _).trans hs.others
  queue := hs.queue.trans hs'.queue
  registry := hs'.registry.trans hs.registry

/-- After that, a step that changes nobody's holdings. -/
theorem sparing (hs : Strips id f h h₁) {m : HubM A R α} (hm : Obeys Hub.sparing m) :
    Ends m h₁ (fun _ => Strips id f h) fun _ _ => True :=
  (hm h₁).mono (fun _ _ hr => hs.spares (hr hs.coherent)) fun _ _ _ => trivial

theorem bind_sparing (hs : Strips id f h h₁) {m : HubM A R α} (hm : Obeys Hub.sparing m)
    {β : Type} {m' : α → HubM A R β} {Q : β → Hub A R → Prop}
    (hm' : ∀ a h₂, Strips id f h h₂ → Ends (m' a) h₂ Q fun _ _ => True) :
    Ends (m >>= m') h₁ Q fun _ _ => True :=
  (hs.sparing hm).bind hm'

end Strips

/-! ### Timers and heap -/

theorem cancelTimersOf_strips (id : InstanceId) {h : Hub A R} (hp : h.timers.Coherent) :
    Ends (cancelTimersOf id) h
      (fun _ h' => Strips id (fun x => { x with timers := [] }) h h' ∧ h'.heap = h.heap)
      fun _ _ => True := by
  have hs := (TimerPool.cancelAllOwnedBy_sheds hp h.now id).2
  refine ⟨⟨hs.coherent, Holdings.ext ?own rfl rfl rfl rfl rfl rfl rfl rfl rfl,
    Holdings.ext ?others rfl rfl rfl rfl rfl rfl rfl rfl rfl, .refl _, rfl⟩, rfl⟩
  case own =>
    refine List.filter_eq_nil_iff.2 fun r hr => ?_
    have hne : r.owner ≠ id := by simpa using (hs.mem.1 hr).2
    simp [hne]
  case others =>
    show List.filter _ (h.timers.cancelAllOwnedBy h.now id).2.requests = List.filter _ _
    rw [hs.requests, List.filter_filter]
    refine List.filter_congr fun r _ => ?_
    by_cases hr : r.owner = id <;> simp [hr]

theorem sweep_strips (id : InstanceId) {h : Hub A R} (hp : h.timers.Coherent)
    (he : h.heap.Exact) :
    Strips id (fun x => { x with blocks := [], usage := [] }) h
      { h with heap := (h.heap.freeAllOwnedBy id).2 } := by
  refine ⟨hp, Holdings.ext rfl ?ownBlocks ?ownUsage rfl rfl rfl rfl rfl rfl rfl,
    Holdings.ext rfl ?blocks ?usage rfl rfl rfl rfl rfl rfl rfl, .refl _, rfl⟩
  case ownBlocks => exact (he.sweep_blocksOf id id).trans (if_pos rfl)
  case ownUsage =>
    refine List.filter_eq_nil_iff.2 fun e hmem => ?_
    have hne : e.1 ≠ id := by simpa using (List.mem_filter.1 hmem).2
    simp [hne]
  case blocks =>
    show List.filter _ (h.heap.freeAllOwnedBy id).2.blocks = List.filter _ _
    rw [he.sweep_blocks, List.filter_filter]
    exact List.filter_congr fun b _ => Bool.and_self _
  case usage => exact h.heap.sweep_usage id

/-! ### Scan monitoring, scans and ranging -/

/-- Nothing is taken from a slot that is not the nanoapp's. -/
theorem strips_refl {id : InstanceId} {f : Holdings → Holdings} {h : Hub A R}
    (hp : h.timers.Coherent) (hf : f (h.holdings (· == id)) = h.holdings (· == id)) :
    Strips id f h h :=
  ⟨hp, hf.symm, rfl, .refl _, rfl⟩

theorem forgetMonitor_strips (id : InstanceId) {h : Hub A R} (hp : h.timers.Coherent) :
    Strips id (fun x => { x with monitors := [], monitor := none }) h { h with
      wifi := { h.wifi with
        monitors := h.wifi.monitors.filter (· != id)
        monitorSlot := h.wifi.monitorSlot.map fun p =>
          if p.requester = some id then { p with requester := none } else p } } := by
  obtain ⟨hown, hothers⟩ := Slot.madeBy_detach h.wifi.monitorSlot
    (fun p => if p.requester = some id then { p with requester := none } else p)
    (fun p hr => by rw [if_pos hr]) (fun p hr => if_neg hr)
  refine ⟨hp, Holdings.ext rfl rfl rfl ?_ hown rfl rfl rfl rfl rfl,
    Holdings.ext rfl rfl rfl ?_ hothers rfl rfl rfl rfl rfl, .refl _, rfl⟩
  · refine List.filter_eq_nil_iff.2 fun x hx => ?_
    have hne : x ≠ id := by simpa using (List.mem_filter.1 hx).2
    simp [hne]
  · show List.filter _ (List.filter _ h.wifi.monitors) = List.filter _ _
    rw [List.filter_filter]
    exact List.filter_congr fun x _ => Bool.and_self _

theorem vacateScan_strips {id : InstanceId} {h : Hub A R} (hp : h.timers.Coherent)
    (ho : h.wifi.scanSlot.isOwnedBy id = true) :
    Ends vacateScan h (fun _ => Strips id (fun x => { x with scan := none }) h)
      fun _ _ => True := by
  have hset : Strips id (fun x => { x with scan := none }) h
      { h with wifi := { h.wifi with scanSlot := none } } :=
    ⟨hp, rfl, Holdings.ext rfl rfl rfl rfl rfl (Slot.madeBy_of_owned ho).symm rfl rfl rfl rfl,
      .refl _, rfl⟩
  unfold vacateScan
  rw [ends_bind, ends_get]
  split
  · rename_i hnone
    rw [hnone] at ho
    cases ho
  · refine ends_bind.2 (ends_modify.2 (hset.bind_sparing (cancelSystemTimer_sparing _) ?_))
    intro _ h₂ hs
    refine hs.sparing (.ite (fun _ => ?_) fun _ => .pure _)
    exact .bind (cancelSystemTimer_sparing _) fun _ => .pure _

section

variable [Radio R]

theorem forgetRanging_strips (id : InstanceId) {h : Hub A R} (hp : h.timers.Coherent) :
    Ends (forgetRanging id) h (fun _ => Strips id (fun x => { x with ranging := none }) h)
      fun _ _ => True := by
  unfold forgetRanging
  rw [ends_bind, ends_get, ends_ite]
  split
  · rename_i ho
    have hset : Strips id (fun x => { x with ranging := none }) h
        { h with wifi := { h.wifi with rangingSlot := none } } :=
      ⟨hp, rfl, Holdings.ext rfl rfl rfl rfl rfl rfl (Slot.madeBy_of_owned ho).symm rfl rfl rfl,
        .refl _, rfl⟩
    rw [ends_bind, ends_get]
    split
    · rename_i hnone
      rw [hnone] at ho
      cases ho
    · refine ends_bind.2 (ends_modify.2 (hset.bind_sparing (cancelSystemTimer_sparing _) ?_))
      exact fun _ _ hs => hs.sparing reconcileMonitor_sparing
  · rename_i ho
    have hnone := Slot.madeBy_of_not_owned (Bool.eq_false_iff.2 ho)
    refine (strips_refl hp ?_).sparing reconcileMonitor_sparing
    exact Holdings.ext rfl rfl rfl rfl rfl rfl hnone.symm rfl rfl rfl

theorem forgetWifi_strips (id : InstanceId) {h : Hub A R} (hp : h.timers.Coherent) :
    Ends (forgetWifi id) h
      (fun _ => Strips id
        (fun x => { x with monitors := [], monitor := none, scan := none, ranging := none }) h)
      fun _ _ => True := by
  have hranging {h₂ : Hub A R} (hs : Strips id
      (fun x => { x with monitors := [], monitor := none, scan := none }) h h₂) :
      Ends (forgetRanging id) h₂ (fun _ => Strips id (fun x => { x with
        monitors := [], monitor := none, scan := none, ranging := none }) h) fun _ _ => True :=
    (forgetRanging_strips id hs.coherent).mono (fun _ _ hs' => hs.trans hs') fun _ _ _ => trivial
  have hmonitor := forgetMonitor_strips id hp
  unfold forgetWifi
  refine ends_bind.2 (ends_modify.2 ?_)
  rw [ends_bind, ends_get, ends_ite]
  split
  · rename_i ho
    refine (vacateScan_strips hmonitor.coherent ho).bind fun _ h₂ hs => ?_
    exact (hmonitor.trans hs).bind_sparing (emit_sparing _ _ _) fun _ _ hs => hranging hs
  · rename_i ho
    have hnone := Slot.madeBy_of_not_owned (Bool.eq_false_iff.2 ho)
    refine hranging (hmonitor.trans
      (strips_refl (f := fun x => { x with scan := none }) hmonitor.coherent ?_))
    exact Holdings.ext rfl rfl rfl rfl rfl hnone.symm rfl rfl rfl rfl

end

/-! ### Cells and sessions -/

theorem forgetWwan_strips (id : InstanceId) {h : Hub A R} (hp : h.timers.Coherent) :
    Ends (forgetWwan id) h (fun _ => Strips id (fun x => { x with cell := none }) h)
      fun _ _ => True := by
  have hstay (ho : h.wwan.cellSlot.isOwnedBy id = false) :
      Strips id (fun x => { x with cell := none }) h h := by
    refine strips_refl hp ?_
    exact Holdings.ext rfl rfl rfl rfl rfl rfl rfl (Slot.madeBy_of_not_owned ho).symm rfl rfl
  unfold forgetWwan
  rw [ends_bind, ends_get]
  split
  · rename_i hnone
    exact hstay (by rw [hnone]; rfl)
  · rename_i p hp'
    rw [ends_ite]
    split
    · rename_i hr
      have ho : h.wwan.cellSlot.isOwnedBy id = true := by simp [hp', Slot.isOwnedBy, hr]
      have hset : Strips id (fun x => { x with cell := none }) h
          { h with wwan := { h.wwan with cellSlot := none } } :=
        ⟨hp, rfl, Holdings.ext rfl rfl rfl rfl rfl rfl rfl (Slot.madeBy_of_owned ho).symm rfl rfl,
          .refl _, rfl⟩
      refine ends_bind.2 (ends_modify.2 (hset.bind_sparing (cancelSystemTimer_sparing _) ?_))
      exact fun _ _ hs => hs.sparing (emit_sparing _ _ _)
    · rename_i hr
      exact hstay (by simp [hp', Slot.isOwnedBy, hr])

/-- What is left once a nanoapp has no part in a session. -/
def Holdings.leave (k : SessionKind) (x : Holdings) : Holdings :=
  { x with
    parts := fun k' => if k' = k then [] else x.parts k'
    changes := fun k' => if k' = k then none else x.changes k' }

section

variable [Radio R]

theorem forgetSession_strips (k : SessionKind) (id : InstanceId) {h : Hub A R}
    (hp : h.timers.Coherent) :
    Ends (forgetSession k id) h (fun _ => Strips id (Holdings.leave k) h) fun _ _ => True := by
  obtain ⟨hown, hothers⟩ := Slot.madeBy_detach (h.gnss.session k).slot
    (fun p => if p.requester = some id then
      { p with requester := none, kind := { p.kind with request := none } } else p)
    (fun p hr => by rw [if_pos hr]) (fun p hr => if_neg hr)
  refine ends_bind.2 (ends_modify.2 (Strips.sparing ?_ (reconcileSession_sparing k)))
  refine ⟨hp, Holdings.ext rfl rfl rfl rfl rfl rfl rfl rfl ?ownParts ?ownChanges,
    Holdings.ext rfl rfl rfl rfl rfl rfl rfl rfl ?parts ?changes, .refl _, rfl⟩
  case ownParts =>
    funext k'
    simp only [holdings, session_modifySession, Holdings.leave]
    split
    · rename_i heq
      refine List.filter_eq_nil_iff.2 fun r hr => ?_
      have hne : r.id ≠ id := by simpa using (List.mem_filter.1 hr).2
      simp [hne]
    · rfl
  case ownChanges =>
    funext k'
    simp only [holdings, session_modifySession, Holdings.leave]
    split
    · rename_i heq
      rw [heq]
      exact hown
    · rfl
  case parts =>
    funext k'
    simp only [holdings, session_modifySession]
    split
    · rw [Session.others, List.filter_filter]
      exact List.filter_congr fun r _ => Bool.and_self _
    · rfl
  case changes =>
    funext k'
    simp only [holdings, session_modifySession]
    split
    · rename_i heq
      rw [heq]
      exact hothers
    · rfl

theorem forgetGnss_strips (id : InstanceId) {h : Hub A R} (hp : h.timers.Coherent) :
    Ends (forgetGnss id) h
      (fun _ => Strips id (fun x => { x with parts := fun _ => [], changes := fun _ => none }) h)
      fun _ _ => True := by
  refine (forgetSession_strips .location id hp).bind fun _ h₁ hs => ?_
  refine (forgetSession_strips .measurement id hs.coherent).mono (fun _ h₂ hs' => ?_)
    fun _ _ _ => trivial
  have hboth : (fun x => Holdings.leave .measurement (Holdings.leave .location x)) =
      fun x => { x with parts := fun _ => [], changes := fun _ => none } := by
    funext x
    refine Holdings.ext rfl rfl rfl rfl rfl rfl rfl rfl ?_ ?_ <;> funext k <;> cases k <;> rfl
  rw [← hboth]
  exact hs.trans hs'

end

/-! ## The whole release -/

/-- Nothing is left of `id`, everyone else holds what they held, and what is queued for others has
kept its order. -/
structure Released (id : InstanceId) (h h' : Hub A R) : Prop where
  own : h'.holdings (· == id) = {}
  others : h'.holdings (· != id) = h.holdings (· != id)
  queue : ∃ reports : List Report, h'.queue.tasks =
    Queue.others (·.target.isAt id) h.queue.tasks ++ reports.map fun r => .deferred (.report r)
  registry : h'.registry = h.registry.remove id

theorem discard_spares (p : Event → Bool) {h : Hub A R} (hp : h.timers.Coherent) :
    Ends (discard p) h (fun _ => Spares { h with queue := (h.queue.discard p).2 })
      fun _ _ => True := by
  have hrelease (e : Event) : Obeys sparing (do countDropped; release e : HubM A R Unit) :=
    .modify fun _ => sparing_of_same rfl (fun _ => rfl) rfl rfl
  unfold discard
  rw [ends_bind, ends_get]
  refine ends_bind.2 (ends_set.2 ?_)
  exact (Obeys.bind (.forM fun e _ => hrelease e) (fun _ => .pure _) _).mono
    (fun _ _ hr => hr hp) fun _ _ _ => trivial

/-- What is deferred stays when events are sifted out. -/
theorem others_reported (p : Event → Bool) (ts : List Task) (reports : List Report) :
    Queue.others p (ts ++ reports.map fun r => .deferred (.report r)) =
      Queue.others p ts ++ reports.map fun r => .deferred (.report r) := by
  rw [Queue.others, List.filter_append, Queue.others, List.append_cancel_left_eq,
    List.filter_eq_self]
  intro t ht
  obtain ⟨r, -, rfl⟩ := List.mem_map.1 ht
  rfl

theorem purge_released {id : InstanceId} {h h₁ : Hub A R} (hs : Strips id (fun _ => {}) h h₁)
    (timers : Nat) : Ends (purge id timers) h₁ (fun _ => Released id h) fun _ _ => True := by
  refine (discard_spares _ hs.coherent).bind fun _ h₂ hd => ?_
  refine ends_bind.2 (ends_modify.2 (ends_bind.2 (ends_modify.2 (ends_modify.2 ?_))))
  refine ⟨(hd.holdings (· == id)).trans hs.own,
    (hd.holdings (· != id)).trans hs.others, ?_, ?_⟩
  · obtain ⟨reports, hq⟩ := hs.queue
    obtain ⟨reports', hq'⟩ := hd.queue
    refine ⟨reports ++ reports', ?_⟩
    show h₂.queue.tasks = _
    rw [hq', discard_tasks, hq, others_reported, List.map_append, List.append_assoc]
  · show h₂.registry.remove id = h.registry.remove id
    rw [hd.registry]
    exact congrArg (·.remove id) hs.registry

theorem releaseResources_released [Radio R] (id : InstanceId) {h : Hub A R} (hp : h.timers.Coherent)
    (he : h.heap.Exact) :
    Ends (releaseResources id) h (fun _ => Released id h) fun _ _ => True := by
  refine (cancelTimersOf_strips id hp).bind fun timers h₁ hcancelled => ?_
  obtain ⟨hs, hheap⟩ := hcancelled
  have hswept := hs.trans (sweep_strips id hs.coherent (hheap ▸ he))
  have hrest {h₂ : Hub A R} (hs : Strips id (fun x => { x with
      timers := [], blocks := [], usage := [] }) h h₂) : Ends (do
        updateHeapGauge
        forgetWifi id
        forgetWwan id
        forgetGnss id
        purge id timers) h₂ (fun _ => Released id h) fun _ _ => True := by
    refine hs.bind_sparing (.get_bind fun _ => countMetric_sparing _) fun _ h₃ hs => ?_
    refine (forgetWifi_strips id hs.coherent).bind fun _ h₄ hwifi => ?_
    refine (forgetWwan_strips id hwifi.coherent).bind fun _ h₅ hwwan => ?_
    refine (forgetGnss_strips id hwwan.coherent).bind fun _ h₆ hgnss => ?_
    exact purge_released (((hs.trans hwifi).trans hwwan).trans hgnss) timers
  rw [ends_bind, ends_get]
  refine ends_bind.2 (ends_set.2 ?_)
  split
  · exact hswept.bind_sparing (emit_sparing _ _ _) fun _ _ hs => hrest hs
  · exact hrest hswept

end Hub

end ContextHub
