import ContextHub.Proofs.Hub.Chronicle
import ContextHub.Simulation.World
/-!
# Unloading leaves no trace

`Visited config h` says that a host's turns lead to `h`, whatever its nanoapps are programmed to do
and whatever events are posted. All of that is recorded, and in what is recorded nothing dangles:
only loaded nanoapps hold anything, a nanoapp that was unloaded or that did not start has left no
trace, and it does nothing more.
-/

namespace ContextHub.Hub

variable {A R : Type}

/-! ## No trace -/

/-- Nothing in the hub belongs to `id`, waits for it or names it. -/
structure NoTrace (id : InstanceId) (h : Hub A R) : Prop where
  holdings : h.holdings (· == id) = {}
  timers : h.timers.ownedBy id = []
  queue : ∀ e, .event e ∈ h.queue.tasks → e.target ≠ .nanoapp id
  registry : id ∉ h.registry.ids

theorem Released.noTrace {id : InstanceId} {h h' : Hub A R} (hr : Released id h h')
    (hid : id ≠ .system) : h'.NoTrace id where
  holdings := hr.own
  timers := by
    have hown := List.filter_eq_nil_iff.1 (congrArg Holdings.timers hr.own)
    refine List.filter_eq_nil_iff.2 fun r hmem ho => ?_
    have heq : r.owner = id := by simpa using ho
    exact hown r hmem (by simp [InstanceId.isSystem, heq, hid])
  queue e he := by
    obtain ⟨reports, hq⟩ := hr.queue
    rw [hq, List.mem_append] at he
    rcases he with he | he
    · have hat : e.target.isAt id = false := by simpa using (List.mem_filter.1 he).2
      simpa [Target.isAt] using hat
    · obtain ⟨r, -, hr⟩ := List.mem_map.1 he
      cases hr
  registry hmem := by
    rw [hr.registry, mem_ids_remove] at hmem
    exact hmem.2 rfl

/-- What left no trace leaves none either when others are told. -/
def tracing (id : InstanceId) : Law A R where
  rel h h' := h.NoTrace id → h'.NoTrace id
  halts _ _ _ := True
  refl _ hn := hn
  trans hr hr' hn := hr' (hr hn)
  halts_of_rel _ _ := trivial

theorem emit_tracing (id : InstanceId) (level : Level) (message : String)
    (fields : List (String × String)) :
    Obeys (tracing id) (emit level message fields : HubM A R Unit) :=
  .modify fun _ hn => ⟨hn.holdings, hn.timers, hn.queue, hn.registry⟩

theorem post_tracing {id : InstanceId} {e : Event} (he : e.target ≠ .nanoapp id) :
    Obeys (tracing id) (post e : HubM A R Bool) := by
  have htry : Obeys (tracing id) (tryPost e : HubM A R (Except QueueError Unit)) := by
    intro h
    unfold tryPost
    rw [ends_bind, ends_get]
    split
    · rename_i q hq
      intro hn
      refine ⟨hn.holdings, hn.timers, fun e' he' => ?_, hn.registry⟩
      have hmem : .event e' ∈ h.queue.tasks ++ [.event e] := offer_tasks hq ▸ he'
      rcases List.mem_append.1 hmem with hmem | hmem
      · exact hn.queue e' hmem
      · cases List.mem_singleton.1 hmem
        exact he
    · exact fun hn => ⟨hn.holdings, hn.timers, hn.queue, hn.registry⟩
  refine .bind htry fun r => ?_
  split <;> exact .pure _

variable [Radio R]

theorem orderly_after {α : Type} {m : HubM A R α} (hm : Obeys recording m) {h : Hub A R}
    (ho : h.Orderly) : Ends m h (fun _ h' => h'.Orderly) fun _ _ => True :=
  (hm h).mono (fun _ _ hr => (hr ho).elim fun _ hd => hd.orderly ho) fun _ _ _ => trivial

variable [Behaviour A]

theorem unload_noTrace (id : InstanceId) {h : Hub A R} (ho : h.Orderly) :
    Ends (unload id) h (fun r h' => r = .ok () → h'.NoTrace id) fun _ _ => True := by
  unfold unload
  rw [ends_bind, ends_get]
  split
  · intro hr
    cases hr
  · rename_i n hn
    have hid : id ≠ .system := fun heq => ho.system (heq ▸ mem_ids_of_find? hn)
    refine (orderly_after (runStop_recording id) ho).bind fun _ h₁ ho₁ => ?_
    refine (releaseResources_released id ho₁.free.timers.coherent ho₁.free.heap.exact).bind ?_
    intro _ h₂ hr
    have htell : Obeys (tracing id) (do
        logLifecycle n.app id
        let _ ← post (.toAll EventType.nanoappStopped (.nanoapp n.app id))
        return .ok () : HubM A R (Except LoadError Unit)) :=
      .bind (emit_tracing _ _ _ _) fun _ =>
        .bind (post_tracing fun heq => by cases heq) fun _ => .pure _
    exact (htell h₂).mono (fun _ _ hrel _ => hrel (hr.noTrace hid)) fun _ _ _ => trivial

theorem load_noTrace {app : AppId} {permissions : Permissions} {behaviour : A} {id : InstanceId}
    {registry : Registry A} {h : Hub A R} (ho : h.Orderly)
    (hr : h.registry.register app permissions behaviour = .ok (id, registry)) :
    Ends (load app permissions behaviour) h
      (fun r h' => r = .error (.startFailed app) → h'.NoTrace id) fun _ _ => True := by
  have hjoin := Does.join (R := R) (h := h) hr
  have ho₁ := (hjoin.follows ho).orderly
  have hid : id ≠ .system := ((register_eq_ok hr).2 ho.nextId).1
  unfold load
  rw [ends_bind, ends_get, hr]
  refine ends_bind.2 (ends_set.2 ?_)
  refine (orderly_after (withBehaviour_recording id _) ho₁).bind fun started h₂ ho₂ => ?_
  rw [ends_ite]
  split
  · have htell : Obeys recording (logLifecycle app id : HubM A R Unit) :=
      logLifecycle_recording app id
    refine (orderly_after htell ho₂).bind fun _ h₃ ho₃ => ?_
    refine (orderly_after (post_recording _) ho₃).bind fun _ h₄ _ hr => ?_
    cases hr
  · have hwarn : Obeys recording (emit .warn "Nanoapp start failed" [("instance_id", toString id)] :
        HubM A R Unit) := recorded fun _ => emit_excluding _ _ _
    refine (orderly_after hwarn ho₂).bind fun _ h₃ ho₃ => ?_
    refine (releaseResources_released id ho₃.free.timers.coherent ho₃.free.heap.exact).bind ?_
    intro _ h₄ hr
    have htell : Obeys (tracing id) (do
        logLifecycle app id
        return .error (.startFailed app) : HubM A R (Except LoadError InstanceId)) :=
      .bind (emit_tracing _ _ _ _) fun _ => .pure _
    exact (htell h₄).mono (fun _ _ hrel _ => hrel (hr.noTrace hid)) fun _ _ _ => trivial

/-! ## What hosts can bring about -/

/-- Turns of a host lead from a new hub to `h`, where the last one may have halted. A host may post
any event. -/
inductive Visited (config : Config) : Hub A R → Prop
  | start {now : Nat} {radios : R} {metrics : Option Metrics} {h : Hub A R}
      (hr : Leads initialise (blank config now radios metrics) h) : Visited config h
  | turn {h h' : Hub A R} (t : Turn A R) (hv : Visited config h) (hr : Leads t.run h h') :
      Visited config h'
  | post {h h' : Hub A R} (e : Event) (hv : Visited config h) (hr : Leads (Hub.post e) h h') :
      Visited config h'

theorem Reached.visited {config : Config} {h : Hub A R} (hh : Reached config h) :
    Visited config h := by
  induction hh with
  | start hr => exact .start (.inl ⟨_, hr⟩)
  | turn t _ hr ih => exact .turn t ih (.inl ⟨_, hr⟩)

/-- The record of a hub from its start. -/
def Recorded (config : Config) (deeds : List Deed) (h : Hub A R) : Prop :=
  ∃ now radios metrics, Record (blank config now radios metrics) deeds h

omit [Radio R] [Behaviour A] in
theorem blank_freeOf (config : Config) (now : Nat) (radios : R) (metrics : Option Metrics)
    (out : InstanceId → Bool) : FreeOf out (blank config now radios metrics : Hub A R) where
  timers := ⟨TimerPool.coherent_empty _, fun r hr => by cases hr⟩
  heap := ⟨Heap.exact_empty _, fun b hb => (by cases hb), fun e he => by cases he⟩
  wifi := ⟨fun id hid => (by cases hid), Slot.freeOf_none, Slot.freeOf_none, Slot.freeOf_none⟩
  cell := Slot.freeOf_none
  session k := by
    cases k <;> exact ⟨fun r hr => (by cases hr), Slot.freeOf_none, fun p hp => by cases hp⟩

omit [Radio R] [Behaviour A] in
theorem blank_orderly (config : Config) (now : Nat) (radios : R) (metrics : Option Metrics) :
    (blank config now radios metrics : Hub A R).Orderly :=
  ⟨blank_freeOf config now radios metrics _, Nat.one_ne_zero, fun hs => by cases hs⟩

omit [Behaviour A] in
theorem Recorded.orderly {config : Config} {deeds : List Deed} {h : Hub A R}
    (hr : Recorded config deeds h) : h.Orderly := by
  obtain ⟨now, radios, metrics, hr⟩ := hr
  exact hr.orderly (blank_orderly config now radios metrics)

omit [Behaviour A] in
theorem Recorded.after {α : Type} {config : Config} {deeds : List Deed} {h h' : Hub A R}
    (hr : Recorded config deeds h) {m : HubM A R α} (hm : Obeys recording m) (hl : Leads m h h') :
    ∃ deeds', Recorded config (deeds ++ deeds') h' := by
  obtain ⟨deeds', hd⟩ := hl.of_ends (hm h) hr.orderly
  obtain ⟨now, radios, metrics, hr⟩ := hr
  exact ⟨deeds', now, radios, metrics, hr.append hd⟩

theorem Visited.recorded {config : Config} {h : Hub A R} (hv : Visited config h) :
    ∃ deeds, Recorded config deeds h := by
  induction hv with
  | @start now radios metrics h hr =>
    have hblank : Recorded config [] (blank config now radios metrics : Hub A R) :=
      ⟨now, radios, metrics, .start⟩
    obtain ⟨deeds, hd⟩ := hblank.after (Hub.recorded fun _ => excluding_powers.initialise_obeys) hr
    exact ⟨deeds, hd⟩
  | turn t _ hr ih =>
    obtain ⟨deeds, hd⟩ := ih
    obtain ⟨deeds', hd'⟩ := hd.after t.recording hr
    exact ⟨deeds ++ deeds', hd'⟩
  | post e _ hr ih =>
    obtain ⟨deeds, hd⟩ := ih
    obtain ⟨deeds', hd'⟩ := hd.after (post_recording e) hr
    exact ⟨deeds ++ deeds', hd'⟩

/-! ## Nothing dangles -/

/-- Whatever hosts bring about is recorded, and at every moment of a record: nobody but loaded
nanoapps holds anything; the journal tells of nanoapps' doings just as the record does, and neither
who has left nor who is not loaded does anything more, unless the id is given out again; unloading a
nanoapp leaves no trace of it, and neither does a load whose start fails; and releasing what a
nanoapp holds takes it from nobody else, nor changes the order of what is queued for others. -/
theorem unloading_leaves_no_trace {config : Config} :
    (∀ h : Hub A R, Visited config h → ∃ deeds, Recorded config deeds h) ∧
    ∀ deeds (h : Hub A R), Recorded config deeds h →
      h.holdings h.strangers = {} ∧
      h.acts = (deeds.filterMap Deed.entry?).reverse ∧
      (∀ before id after, deeds = before ++ .left id :: after → .joined id ∉ after →
        ∀ d ∈ after, d.actor? ≠ some id) ∧
      (∀ id deeds' h', id ∉ h.registry.ids → Record h deeds' h' → .joined id ∉ deeds' →
        ∀ d ∈ deeds', d.actor? ≠ some id) ∧
      (∀ id h', unload id h = .ok (.ok ()) h' → h'.NoTrace id) ∧
      (∀ app permissions behaviour id registry h',
        h.registry.register app permissions behaviour = .ok (id, registry) →
        load app permissions behaviour h = .ok (.error (.startFailed app)) h' → h'.NoTrace id) ∧
      ∀ id h', releaseResources id h = .ok () h' → Released id h h' := by
  refine ⟨fun h hv => hv.recorded, fun deeds h hr => ?_⟩
  have ho := hr.orderly
  obtain ⟨now, radios, metrics, hr⟩ := hr
  have hblank := blank_orderly (A := A) config now radios metrics
  refine ⟨ho.free.holdings, ?_, fun before id after hs hno => hr.silent hblank hs hno,
    fun id deeds' h' hout hrest hno => (hrest.absent ho hout hno).2,
    fun id h' hu => (unload_noTrace id ho).ok hu rfl,
    fun app permissions behaviour id registry h' hreg hl => (load_noTrace ho hreg).ok hl rfl,
    fun id h' hrel => ?_⟩
  · exact (hr.acts_eq hblank).trans (List.append_nil _)
  · exact (releaseResources_released id ho.free.timers.coherent ho.free.heap.exact).ok hrel

/-- A nanoapp with a timer, a block, a part in scan monitoring and requests in flight is unloaded
while another is there, and a third does not start. -/
theorem unloaded_nanoapp_is_gone : ∃ deeds, ∃ h h₁ h₂ : Hub Script Stations,
    Recorded {} deeds h ∧ h.registry.ids = [⟨1⟩, ⟨2⟩] ∧
    (h.timers.ownedBy ⟨1⟩).length = 1 ∧ h.heap.blocks.length = 2 ∧
    h.wifi.monitorSlot.isOwnedBy ⟨1⟩ = true ∧ h.wifi.scanSlot.isOwnedBy ⟨1⟩ = true ∧
    h.gnss.location.slot.isOwnedBy ⟨1⟩ = true ∧
    unload ⟨1⟩ h = .ok (.ok ()) h₁ ∧ h₁.NoTrace ⟨1⟩ ∧
    load ⟨3⟩ {} { start := [.alloc 4], starts := false } h =
      .ok (.error (.startFailed ⟨3⟩)) h₂ ∧ h₂.NoTrace ⟨3⟩ := by
  let third : Script := { start := [.alloc 4], starts := false }
  obtain ⟨h, hr, hids, htimers, hblocks, hmonitor, hscan, hlocation, hnext, hunload, hload⟩ :=
    reached_of_ends (A := Script) {} 0 Stations.scripted none
      [.load ⟨1⟩ { wifi := true, gnss := true } { start := [.setTimer 5 ⟨7⟩ true, .alloc 8,
        .monitor true ⟨1⟩, .scan {} ⟨2⟩, .startLocation 1000 0 ⟨3⟩] },
        .load ⟨2⟩ {} { start := [.alloc 8] }]
      (P := fun h => h.registry.ids = [⟨1⟩, ⟨2⟩] ∧ (h.timers.ownedBy ⟨1⟩).length = 1 ∧
        h.heap.blocks.length = 2 ∧ h.wifi.monitorSlot.isOwnedBy ⟨1⟩ = true ∧
        h.wifi.scanSlot.isOwnedBy ⟨1⟩ = true ∧ h.gnss.location.slot.isOwnedBy ⟨1⟩ = true ∧
        (h.registry.register ⟨3⟩ {} third).toOption.map (·.1) = some ⟨3⟩ ∧
        Ends (unload ⟨1⟩) h (fun r _ => r = .ok ()) (fun _ _ => False) ∧
        Ends (load ⟨3⟩ {} third) h (fun r _ => r = .error (.startFailed ⟨3⟩))
          (fun _ _ => False)) (by decide +kernel)
  obtain ⟨_, h₁, hunload, rfl⟩ := hunload.exists_ok
  obtain ⟨_, h₂, hload, rfl⟩ := hload.exists_ok
  obtain ⟨⟨id, registry⟩, hsome, rfl⟩ := Option.map_eq_some_iff.1 hnext
  have hregister : h.registry.register ⟨3⟩ {} third = .ok (⟨3⟩, registry) := by
    cases hreg : h.registry.register ⟨3⟩ {} third with
    | error e => rw [hreg] at hsome; cases hsome
    | ok x => rw [hreg] at hsome; cases hsome; rfl
  obtain ⟨hrecorded, hall⟩ := @unloading_leaves_no_trace Script Stations _ _ {}
  obtain ⟨deeds, hd⟩ := hrecorded h hr.visited
  obtain ⟨-, -, -, -, hgone, hfailed, -⟩ := hall deeds h hd
  exact ⟨deeds, h, h₁, h₂, hd, hids, htimers, hblocks, hmonitor, hscan, hlocation, hunload,
    hgone _ h₁ hunload, hload, hfailed _ _ _ _ registry h₂ hregister hload⟩

end ContextHub.Hub
