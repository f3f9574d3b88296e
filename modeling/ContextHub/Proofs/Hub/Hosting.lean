import ContextHub.Proofs.Hub.Managers
import ContextHub.Proofs.Timer.History
/-!
# Runs of a hub

A host and its surroundings take turns with a hub: nanoapps are loaded and unloaded, tasks are
processed, the clock moves on, the alarm goes off, radios report. `Reached config h` says that turns
lead to `h`. A law that the parts of turns obey (`Law.Hosts`) is obeyed by every turn, whatever the
nanoapps are programmed to do.
-/

namespace ContextHub.Hub

variable {A R α : Type}

/-! ## The queue and the registry -/

theorem next?_tasks {q q' : Queue} {t : Task} (h : q.next? = some (t, q')) :
    q.tasks = t :: q'.tasks := by
  unfold Queue.next? at h
  unfold Queue.tasks
  split at h
  · rename_i hp
    obtain ⟨rfl, rfl⟩ := Prod.mk.inj (Option.some.inj h)
    rw [hp]
    rfl
  · rename_i hp hi
    obtain ⟨rfl, rfl⟩ := Prod.mk.inj (Option.some.inj h)
    rw [hp, hi]
    rfl
  · cases h

theorem mem_ids_of_find? {r : Registry A} {id : InstanceId} {n : Nanoapp A}
    (h : r.find? id = some n) : id ∈ r.ids := by
  have hid : n.id = id := by simpa using List.find?_some h
  exact List.mem_map.2 ⟨n, List.mem_of_find?_eq_some h, hid⟩

theorem mem_ids_place (n : Nanoapp A) (l : List (Nanoapp A)) (id : InstanceId) :
    id ∈ (Registry.place n l).map (·.id) ↔ id = n.id ∨ id ∈ l.map (·.id) := by
  induction l with
  | nil => simp [Registry.place]
  | cons x l ih =>
    simp only [Registry.place]
    split
    · rw [List.map_cons, List.mem_cons]
    · rw [List.map_cons, List.mem_cons, ih, List.map_cons, List.mem_cons]
      exact or_left_comm

/-- New ids go on from the last one, and the id of the system is left out. -/
theorem freeId?_eq_some {r : Registry A} {n tries next : Nat} {id : InstanceId} (hn : n ≠ 0)
    (h : r.freeId? n tries = some (id, next)) : id ≠ .system ∧ next ≠ 0 := by
  have hroll (n : Nat) : Registry.rollover n ≠ 0 := by
    unfold Registry.rollover
    split <;> omega
  induction tries generalizing n with
  | zero => cases h
  | succ tries ih =>
    simp only [Registry.freeId?] at h
    split at h
    · exact ih (hroll n) h
    · obtain ⟨rfl, rfl⟩ := Prod.mk.inj (Option.some.inj h)
      exact ⟨fun e => hn (congrArg InstanceId.val e), hroll n⟩

/-- A nanoapp joins those that are there. -/
theorem register_eq_ok {r registry : Registry A} {app : AppId} {permissions : Permissions}
    {behaviour : A} {id : InstanceId}
    (h : r.register app permissions behaviour = .ok (id, registry)) :
    (∀ i, i ∈ registry.ids ↔ i = id ∨ i ∈ r.ids) ∧
      (r.nextId ≠ 0 → id ≠ .system ∧ registry.nextId ≠ 0) := by
  unfold Registry.register at h
  split at h
  · cases h
  · split at h
    · cases h
    · rename_i id' next hfree
      obtain ⟨rfl, rfl⟩ := Prod.mk.inj (Except.ok.inj h)
      exact ⟨fun i => mem_ids_place _ _ i, fun hn => freeId?_eq_some hn hfree⟩

theorem mem_ids_of_behaviour? {r : Registry A} {id : InstanceId} {a : A}
    (h : r.behaviour? id = some a) : id ∈ r.ids := by
  obtain ⟨n, hn, -⟩ := Option.bind_eq_some_iff.1 h
  exact mem_ids_of_find? hn

variable [Radio R]

/-! ## Nanoapps -/

theorem ends_execute_bind {β : Type} {id : InstanceId} {p : Program α} {f : α → Program β}
    {h : Hub A R} {Q : β → Hub A R → Prop} {E : Halt → Hub A R → Prop} :
    Ends (execute id (p >>= f)) h Q E ↔
      Ends (execute id p) h (fun a h' => Ends (execute id (f a)) h' Q E) E := by
  induction p generalizing h with
  | done a => exact Iff.rfl
  | call c next ih =>
    show Ends (perform id c >>= fun r => execute id (next r >>= f)) h Q E ↔
      Ends (perform id c >>= fun r => execute id (next r)) h _ E
    rw [ends_bind, ends_bind]
    simp only [ih]

/-- A law for what nanoapps do while they run. -/
structure Law.Runs (L : Law A R) : Prop where
  quietly : quiet.Within L
  perform : ∀ id c, id ≠ .system → Obeys L (perform id c)
  /-- Nothing is said of a hub in which the system is a nanoapp. -/
  nobody : ∀ {h : Hub A R}, .system ∈ h.core.ids → (∀ h', L.rel h h') ∧ ∀ e h', L.halts h e h'

section

variable {L : Law A R} (hL : L.Runs)

include hL

theorem Law.Runs.of {m : HubM A R α} (hm : Obeys Hub.quiet m) : Obeys L m := hm.within hL.quietly

/-- No nanoapp is the system. -/
theorem Law.Runs.loaded {m : HubM A R α} {h : Hub A R} {id : InstanceId} (hid : id ∈ h.core.ids)
    (hm : id ≠ .system → Ends m h (fun _ => L.rel h) (L.halts h)) :
    Ends m h (fun _ => L.rel h) (L.halts h) := by
  by_cases e : id = .system
  · obtain ⟨hrel, hhalts⟩ := hL.nobody (e ▸ hid)
    unfold Ends
    split
    · exact hrel _
    · exact hhalts _ _
  · exact hm e

theorem execute_obeys {id : InstanceId} (hid : id ≠ .system) (p : Program α) :
    Obeys L (execute id p) := by
  induction p with
  | done a => exact .pure a
  | call c next ih => exact .bind (hL.perform id c hid) fun r => ih r

theorem withBehaviour_obeys (id : InstanceId) (run : A → Program (α × A)) :
    Obeys L (withBehaviour id run) := by
  intro h
  unfold withBehaviour
  rw [ends_bind, ends_get]
  split
  · exact L.refl h
  · rename_i a ha
    refine hL.loaded (mem_ids_of_behaviour? ha) fun hid => ?_
    have hout : L.rel h { h with registry := h.registry.takeOut id } :=
      hL.quietly.rel (setRegistry_quiet (update_ids _ _ fun _ => rfl) rfl)
    have hback (a : A) : Obeys L (modify fun h => { h with registry := h.registry.putBack id a }) :=
      hL.of (.modify fun _ => setRegistry_quiet (update_ids _ _ fun _ => rfl) rfl)
    refine ends_bind.2 (ends_set.2 ?_)
    refine (Obeys.bind (execute_obeys hL hid (run a)) (fun x => ?_) _).mono
      (fun _ _ => L.trans hout) fun _ _ => L.halts_of_rel hout
    exact .bind (hback x.2) fun _ => .pure _

theorem dropUndelivered_obeys (e : Event) : Obeys L (dropUndelivered e) := by
  unfold dropUndelivered
  split
  · exact hL.of (release_quiet e)
  · refine .bind (hL.of (emit_quiet _ _ _)) fun _ => .bind (hL.of countDropped_quiet) fun _ => ?_
    exact .bind (hL.of (countMetric_quiet _)) fun _ => hL.of (release_quiet e)

variable [Behaviour A]

theorem runHandler_obeys (d : Delivery) (id : InstanceId) : Obeys L (do
    let done ← withBehaviour id fun (a : A) => do return ((), ← Behaviour.handle d a)
    if done.isNone then
      emit .error "Nanoapp handler unavailable during dispatch"
        [("instance_id", toString id)]) := by
  refine .bind (withBehaviour_obeys hL _ _) fun _ => .ite (fun _ => ?_) fun _ => .pure _
  exact hL.of (emit_quiet _ _ _)

/-- A delivery obeys a law that allows for the note of it. -/
theorem deliverTo_obeys {e : Event}
    (hnote : ∀ watched d time, d.type = e.type → Obeys L (note (.delivered watched d time)))
    (id : InstanceId) : Obeys L (deliverTo e id) := by
  unfold deliverTo
  refine .get_bind fun h => ?_
  dsimp only
  split
  · exact runHandler_obeys hL _ _
  · exact .bind (hnote _ _ _ rfl) fun _ => runHandler_obeys hL _ _

theorem deliver_obeys {e : Event}
    (hnote : ∀ watched d time, d.type = e.type → Obeys L (note (.delivered watched d time))) :
    Obeys L (deliver e) := by
  unfold deliver
  refine .get_bind fun h => .ite (fun _ => dropUndelivered_obeys hL e) fun _ => ?_
  refine .bind (.forM fun id _ => deliverTo_obeys hL hnote id) fun _ => ?_
  refine .bind (hL.of (modifyStats_quiet _)) fun _ => ?_
  exact .bind (hL.of (countMetric_quiet _)) fun _ => hL.of (release_quiet e)

/-- An event for one nanoapp is noted and then handled, or it is dropped. -/
theorem deliver_ends {e : Event} {id : InstanceId} (he : e.target = .nanoapp id) {h h₁ : Hub A R}
    (hdrop : L.rel h h₁)
    (hnote : ∀ watched time, L.rel h { h₁ with
      journal := .delivered watched ⟨id, e.sender, e.type, e.payload⟩ time :: h₁.journal }) :
    Ends (deliver e) h₁ (fun _ => L.rel h) (L.halts h) := by
  have hrecipients : h₁.registry.recipients e = if h₁.registry.contains id then [id] else [] := by
    unfold Registry.recipients
    rw [he]
  have hrest : Obeys L (do
      modifyStats fun s => { s with dispatched := s.dispatched + 1 }
      countMetric (·.addDispatched 1)
      release e) :=
    .bind (hL.of (modifyStats_quiet _)) fun _ => .bind (hL.of (countMetric_quiet _)) fun _ =>
      hL.of (release_quiet e)
  unfold deliver
  rw [ends_bind, ends_get]
  dsimp only
  rw [hrecipients]
  split
  · rename_i hc
    refine Ends.obeying ?_ fun _ => hrest
    refine Ends.obeying ?_ fun _ => .pure _
    unfold deliverTo
    rw [ends_bind, ends_get]
    dsimp only
    split
    · exact (runHandler_obeys hL _ _).after hdrop
    · exact ends_bind.2 (ends_modify.2 ((runHandler_obeys hL _ _).after (hnote _ _)))
  · exact (dropUndelivered_obeys hL e).after hdrop

theorem runStop_obeys (id : InstanceId) : Obeys L (runStop id) := by
  have hrun : Obeys L (do
      let _ ← withBehaviour id fun (a : A) => do return ((), ← Behaviour.stop id a)) :=
    .bind (withBehaviour_obeys hL _ _) fun _ => .pure _
  unfold runStop
  refine .get_bind fun h => ?_
  dsimp only
  split
  · exact hrun
  · exact .bind (hL.of (note_quiet rfl)) fun _ => hrun

end

/-- The end of unloading: what is queued for a nanoapp goes, and then the nanoapp itself. -/
def purge (id : InstanceId) (timers : Nat) : HubM A R Unit := do
  let purged ← discard (·.target.isAt id)
  countMetric (·.addDropped purged.length)
  modify fun h => { h with registry := h.registry.remove id }
  emit .debug "Nanoapp resources released"
    [("instance_id", toString id), ("timers", toString timers),
     ("purged", toString purged.length)]

/-- The timers of a nanoapp go, then its requests within a law, and then the rest. -/
theorem release_ends {L : Law A R} {id : InstanceId} {h : Hub A R} {P : Hub A R → Prop}
    {Q : Unit → Hub A R → Prop} {E : Halt → Hub A R → Prop} (hquiet : quiet.Within L)
    (hcancel : Ends (cancelTimersOf id) h (fun _ => P) E) (hwifi : Obeys L (forgetWifi id))
    (hwwan : Obeys L (forgetWwan id)) (hgnss : Obeys L (forgetGnss id))
    (hpurge : ∀ timers h₁ h₂, P h₁ → L.rel h₁ h₂ → Ends (purge id timers) h₂ Q E)
    (hE : ∀ h₁ e h₂, P h₁ → L.halts h₁ e h₂ → E e h₂) : Ends (releaseResources id) h Q E := by
  refine ends_bind.2 (hcancel.mono (fun timers h₁ hP => ?_) fun _ _ he => he)
  have hrest (h₂ : Hub A R) (hrel : L.rel h₁ h₂) : Ends (do
      updateHeapGauge
      forgetWifi id
      forgetWwan id
      forgetGnss id
      purge id timers) h₂ Q E := by
    have hE (e : Halt) (h₂ : Hub A R) : L.halts h₁ e h₂ → E e h₂ := hE h₁ e h₂ hP
    refine (updateHeapGauge_quiet.within hquiet).andThen hrel hE fun _ _ hrel => ?_
    refine hwifi.andThen hrel hE fun _ _ hrel => hwwan.andThen hrel hE fun _ _ hrel => ?_
    exact hgnss.andThen hrel hE fun _ h₃ hrel => hpurge timers h₁ h₃ hP hrel
  rw [ends_bind, ends_get]
  refine ends_bind.2 (ends_set.2 ?_)
  have hheap (heap : Heap) : L.rel h₁ { h₁ with heap } := hquiet.rel rfl
  split
  · exact ((emit_quiet _ _ _).within hquiet).andThen (hheap _) (hE h₁ · · hP) fun _ => hrest
  · exact hrest _ (hheap _)

/-- What a nanoapp holds is reclaimed part by part. -/
theorem releaseResources_obeys {L : Law A R} {id : InstanceId} (hquiet : quiet.Within L)
    (hcancel : Obeys L (cancelTimersOf id)) (hwifi : Obeys L (forgetWifi id))
    (hwwan : Obeys L (forgetWwan id)) (hgnss : Obeys L (forgetGnss id))
    (hdiscard : Obeys L (discard (·.target.isAt id)))
    (hremove : ∀ h : Hub A R, L.rel h { h with registry := h.registry.remove id }) :
    Obeys L (releaseResources id) := by
  have hpurge (timers : Nat) : Obeys L (purge id timers) := by
    refine .bind hdiscard fun _ => .bind ((countMetric_quiet _).within hquiet) fun _ => ?_
    exact .bind (.modify hremove) fun _ => (emit_quiet _ _ _).within hquiet
  intro h
  refine release_ends hquiet (hcancel h) hwifi hwwan hgnss (fun timers h₁ h₂ hrel hrel' => ?_) ?_
  · exact (hpurge timers).after (L.trans hrel hrel')
  · exact fun h₁ e h₂ hrel he => L.halts_of_rel hrel he

/-! ## Hosts -/

variable [Behaviour A]

/-- A law for the parts of what a host does. -/
structure Law.Hosts (L : Law A R) : Prop extends L.Runs where
  clock : ∀ (h : Hub A R) t, L.rel h { h with now := t }
  alarm : ∀ (h : Hub A R), L.rel h { h with timers := { h.timers with hardware := .off } }
  register : ∀ {h : Hub A R} {app permissions behaviour id registry},
    h.registry.register app permissions behaviour = .ok (id, registry) →
      L.rel h { h with registry }
  release : ∀ id, id ≠ .system → Obeys L (releaseResources id)
  tick : Obeys L tick
  report : ∀ r, Obeys L (handleReport r)
  /-- An expiry is taken from the queue and served. -/
  expiry : ∀ {h h₁ : Hub A R} {x u q}, h.queue.next? = some (.deferred (.timerExpired x u), q) →
    h₁.core = core { h with queue := q } →
      Ends (handleSystemTimer x u) h₁ (fun _ => L.rel h) (L.halts h)
  /-- An expiry is taken from the queue and delivered. -/
  notice : ∀ {h : Hub A R} {e q}, e.type = EventType.timer → h.queue.next? = some (.event e, q) →
    Ends (deliver e) { h with queue := q } (fun _ => L.rel h) (L.halts h)

section

variable {L : Law A R} (hL : L.Hosts)

include hL

theorem load_obeys (app : AppId) (permissions : Permissions) (behaviour : A) :
    Obeys L (load app permissions behaviour) := by
  intro h
  unfold load
  rw [ends_bind, ends_get]
  split
  · exact L.refl h
  · rename_i id registry hr
    have hjoin : L.rel h { h with registry } := hL.register hr
    have hid : id ∈ registry.ids := ((register_eq_ok hr).1 id).2 (.inl rfl)
    refine ends_bind.2 (ends_set.2 ?_)
    refine (hL.loaded hid fun hid => ?_).mono (fun _ _ => L.trans hjoin)
      fun _ _ => L.halts_of_rel hjoin
    refine Obeys.bind (withBehaviour_obeys hL.toRuns id (Behaviour.start id)) (fun started => ?_) _
    refine .ite (fun _ => ?_) fun _ => ?_
    · refine .bind (hL.of (logLifecycle_quiet _ _)) fun _ => ?_
      refine .bind (hL.of (post_quiet ?_)) fun _ => .pure _
      exact Event.toAll_plain (by decide) (by decide) _
    · refine .bind (hL.of (emit_quiet _ _ _)) fun _ => .bind (hL.release id hid) fun _ => ?_
      exact .bind (hL.of (logLifecycle_quiet _ _)) fun _ => .pure _

theorem unload_obeys (id : InstanceId) : Obeys L (unload id) := by
  intro h
  unfold unload
  rw [ends_bind, ends_get]
  split
  · exact L.refl h
  · rename_i n hn
    refine hL.loaded (mem_ids_of_find? hn) fun hid => ?_
    refine Obeys.bind (runStop_obeys hL.toRuns id) (fun _ => ?_) h
    refine .bind (hL.release id hid) fun _ => .bind (hL.of (logLifecycle_quiet _ _)) fun _ => ?_
    exact .bind (hL.of (post_quiet (Event.toAll_plain (by decide) (by decide) _))) fun _ => .pure _

theorem shutdown_obeys : Obeys L (shutdown : HubM A R Unit) := by
  unfold shutdown
  refine .get_bind fun h => .bind (.forM fun id _ => ?_) fun _ =>
    hL.of quiet_powers.closeRadios_obeys
  refine .bind (unload_obeys hL id) fun r => ?_
  split
  · exact .pure _
  · exact hL.of (emit_quiet _ _ _)

/-! ## Tasks -/

/-- Work of the hub itself, other than that a timer of the system has expired. -/
theorem runCallback_obeys {c : Callback} (hc : Task.isExpiry (.deferred c) = false) :
    Obeys L (runCallback c) := by
  cases c with
  | timerTick => exact .bind hL.tick fun _ => hL.of (countMetric_quiet _)
  | timerExpired => cases hc
  | report r => exact hL.report r
  | unload id =>
    refine .bind (unload_obeys hL id) fun r => ?_
    split
    · exact .pure _
    · exact hL.of (emit_quiet _ _ _)

/-- The head of the queue is taken from it and processed. -/
theorem process_ends {h : Hub A R} {t : Task} {q : Queue} (hq : h.queue.next? = some (t, q)) :
    Ends (process t) { h with queue := q } (fun _ => L.rel h) (L.halts h) := by
  have htasks := next?_tasks hq
  have hcount (started : Nat) : Obeys L (do
      let ended := (← get).now
      countMetric (·.observeLatency (ended - started))) :=
    .get_bind fun _ => hL.of (countMetric_quiet _)
  have hplain (ht : t.isExpiry = false) : L.rel h { h with queue := q } := by
    refine hL.quietly.rel ?_
    simp only [quiet, core, htasks, List.filter_cons, ht, Bool.false_eq_true, ↓reduceIte]
  unfold process
  rw [ends_bind, ends_get]
  cases t with
  | event e =>
    refine .obeying ?_ fun _ => hcount _
    by_cases ht : e.type = EventType.timer
    · exact hL.notice ht hq
    · refine (deliver_obeys hL.toRuns fun watched d time hd => ?_).after
        (hplain (beq_eq_false_iff_ne.2 ht))
      exact hL.of (note_quiet (beq_eq_false_iff_ne.2 fun e' => ht (hd ▸ e')))
  | deferred c =>
    by_cases ht : Task.isExpiry (.deferred c) = true
    · obtain ⟨x, u, rfl⟩ : ∃ x u, c = .timerExpired x u := by
        cases c with
        | timerExpired x u => exact ⟨x, u, rfl⟩
        | _ => cases ht
      refine ends_bind.2 (ends_modify.2 (ends_bind.2 (ends_modify.2 (ends_bind.2 ?_))))
      refine ends_modify.2 (.obeying ?_ fun _ => hcount _)
      exact hL.expiry hq rfl
    · refine Obeys.after ?_ (hplain (Bool.eq_false_iff.2 ht))
      refine .bind (hL.of (modifyStats_quiet _)) fun _ => .bind (hL.of (countMetric_quiet _)) ?_
      refine fun _ => .bind (hL.of (emit_quiet _ _ _)) fun _ => ?_
      exact .bind (runCallback_obeys hL (Bool.eq_false_iff.2 ht)) fun _ => hcount _

theorem runOnce_obeys : Obeys L (runOnce : HubM A R Bool) := by
  intro h
  unfold runOnce
  rw [ends_bind, ends_get]
  split
  · exact L.refl h
  · rename_i t q hq
    exact ends_bind.2 (ends_set.2 ((process_ends hL hq).obeying fun _ => .pure _))

end

/-! ## Turns -/

/-- What a host does, and what happens to a hub from outside. A host posts neither expiries of
timers nor answers to scans. The loops of a host are repetitions of `takeStop` and `runOnce`. -/
inductive Turn (A R : Type) where
  | load (app : AppId) (permissions : Permissions) (behaviour : A)
  | unload (id : InstanceId)
  | shutdown
  | runOnce
  | post (e : Event) (plain : e.Plain)
  | requestUnload (id : InstanceId)
  | report (r : Report)
  | stop
  | takeStop
  | fireIfDue
  | advanceClock (d : Nat)
  | advanceClockTo (t : Nat)
  /-- Something happens to the radios that the hub does not see. -/
  | radios (f : R → R)

def Turn.run : Turn A R → HubM A R Unit
  | load app permissions behaviour => do let _ ← Hub.load app permissions behaviour
  | unload id => do let _ ← Hub.unload id
  | shutdown => Hub.shutdown
  | runOnce => do let _ ← Hub.runOnce
  | post e _ => do let _ ← Hub.post e
  | requestUnload id => do let _ ← Hub.requestUnload id
  | report r => deferOrDie (.report r)
  | stop => stopLoop
  | takeStop => do let _ ← Hub.takeStop
  | fireIfDue => do let _ ← Hub.fireIfDue
  | advanceClock d => Hub.advanceClock d
  | advanceClockTo t => Hub.advanceClockTo t
  | radios f => modify fun h => { h with radios := f h.radios }

/-- Turns lead from a new hub to `h`. -/
inductive Reached (config : Config) : Hub A R → Prop
  | start {now : Nat} {radios : R} {metrics : Option Metrics} {h : Hub A R}
      (hr : initialise (blank config now radios metrics) = .ok () h) : Reached config h
  | turn {h h' : Hub A R} (t : Turn A R) (hh : Reached config h) (hr : t.run h = .ok () h') :
      Reached config h'

theorem Reached.turns {config : Config} {h : Hub A R} (hh : Reached config h)
    {turns : List (Turn A R)} {P : Hub A R → Prop}
    (hP : Ends (turns.forM Turn.run) h (fun _ => P) (fun _ _ => False)) :
    ∃ h', Reached config h' ∧ P h' := by
  induction turns generalizing h with
  | nil => exact ⟨h, hh, hP⟩
  | cons t turns ih =>
    obtain ⟨_, h', hr, hP⟩ := (ends_bind.1 hP).exists_ok
    exact ih (.turn t hh hr) hP

/-- What turns lead to from a new hub is reached. -/
theorem reached_of_ends (config : Config) (now : Nat) (radios : R) (metrics : Option Metrics)
    (turns : List (Turn A R)) {P : Hub A R → Prop}
    (hP : Ends (do initialise; turns.forM Turn.run) (blank config now radios metrics)
      (fun _ => P) (fun _ _ => False)) : ∃ h, Reached config h ∧ P h := by
  obtain ⟨_, h, hr, hP⟩ := (ends_bind.1 hP).exists_ok
  exact (Reached.start hr).turns hP

section

variable {L : Law A R} (hL : L.Hosts)

include hL

theorem fireIfDue_obeys : Obeys L (fireIfDue : HubM A R Bool) := by
  intro h
  unfold fireIfDue
  rw [ends_bind, ends_get]
  split
  · exact L.refl h
  · rename_i pool hpool
    obtain rfl := TimerPool.takeAlarm?_eq_some hpool
    refine ends_bind.2 (ends_modify.2 (Obeys.after ?_ (hL.alarm h)))
    exact .bind (hL.of (deferOrDie_quiet rfl)) fun _ => .pure _

theorem takeStop_obeys : Obeys L (takeStop : HubM A R Bool) := by
  intro h
  unfold takeStop
  rw [ends_bind, ends_get, ends_ite]
  split
  · exact hL.quietly.rel rfl
  · exact L.refl h

theorem Turn.obeys (t : Turn A R) : Obeys L t.run := by
  cases t with
  | load => exact .bind (load_obeys hL _ _ _) fun _ => .pure _
  | unload => exact .bind (unload_obeys hL _) fun _ => .pure _
  | shutdown => exact shutdown_obeys hL
  | runOnce => exact .bind (runOnce_obeys hL) fun _ => .pure _
  | post e plain => exact .bind (hL.of (post_quiet plain)) fun _ => .pure _
  | requestUnload => exact .bind (hL.of (requestUnload_quiet _)) fun _ => .pure _
  | report => exact hL.of (deferOrDie_quiet rfl)
  | stop => exact hL.of stopLoop_quiet
  | takeStop => exact .bind (takeStop_obeys hL) fun _ => .pure _
  | fireIfDue => exact .bind (fireIfDue_obeys hL) fun _ => .pure _
  | advanceClock => exact .modify fun h => hL.clock h _
  | advanceClockTo => exact .modify fun h => hL.clock h _
  | radios => exact hL.of (.modify fun _ => rfl)

/-- What a law says of turns holds of all that is reached. -/
theorem Reached.within {config : Config} {h : Hub A R} (hh : Reached config h) :
    ∃ now radios metrics, L.rel (blank config now radios metrics) h := by
  induction hh with
  | start hr => exact ⟨_, _, _, (hL.of quiet_powers.initialise_obeys _).ok hr⟩
  | turn t _ hr ih =>
    obtain ⟨now, radios, metrics, ih⟩ := ih
    exact ⟨now, radios, metrics, L.trans ih ((t.obeys hL _).ok hr)⟩

end

end ContextHub.Hub
