import ContextHub.Proofs.Hub.Crew
import ContextHub.Proofs.Hub.Procession
import ContextHub.Simulation.World
/-!
# Who handles an event

A nanoapp handles an event when its behaviour is taken out, runs, and is put back (`Handles`). When
an event is taken from the queue its recipients are fixed, and they handle it one after the other in
ascending order (`HandledBy`): at every turn the behaviour is there, and what runs meanwhile is one
entry point, which can queue tasks but not have one processed. This holds of every hub that is
`Tended`: hosts may do what they like with the queue, the timers and all else, as long as nanoapps
come and go by loading and unloading.
-/

namespace ContextHub

/-! ## The order of nanoapps -/

namespace Registry

variable {A : Type}

/-- Nanoapps stand in ascending order of their ids. -/
def Ascending (r : Registry A) : Prop := r.ids.Pairwise (·.val < ·.val)

theorem place_ascending {n : Nanoapp A} {l : List (Nanoapp A)}
    (hl : (l.map (·.id)).Pairwise (·.val < ·.val)) (hn : n.id ∉ l.map (·.id)) :
    ((place n l).map (·.id)).Pairwise (·.val < ·.val) := by
  induction l with
  | nil => exact List.pairwise_singleton _ _
  | cons x l ih =>
    rw [List.map_cons, List.pairwise_cons] at hl
    rw [List.map_cons, List.mem_cons, not_or] at hn
    simp only [place]
    split
    · rename_i hlt
      refine List.pairwise_cons.2 ⟨fun i hi => ?_, List.pairwise_cons.2 hl⟩
      rcases List.mem_cons.1 hi with rfl | hi
      · exact hlt
      · exact Nat.lt_trans hlt (hl.1 i hi)
    · rename_i hlt
      refine List.pairwise_cons.2 ⟨fun i hi => ?_, ih hl.2 hn.2⟩
      rcases (Hub.mem_ids_place n l i).1 hi with rfl | hi
      · have hne : n.id.val ≠ x.id.val := fun he => hn.1 (congrArg InstanceId.mk he)
        exact Nat.lt_of_le_of_ne (Nat.not_lt.1 hlt) hne.symm
      · exact hl.1 i hi

theorem register_ascending {r r' : Registry A} {app : AppId} {permissions : Permissions}
    {behaviour : A} {id : InstanceId}
    (hr : r.register app permissions behaviour = .ok (id, r')) (ha : r.Ascending) :
    r'.Ascending := by
  unfold register at hr
  split at hr
  · cases hr
  · split at hr
    · cases hr
    · rename_i hfree
      obtain ⟨rfl, rfl⟩ := Prod.mk.inj (Except.ok.inj hr)
      have hnone := Hub.contains_of_freeId? hfree
      refine place_ascending ha fun hin => ?_
      obtain ⟨n, hn, hid⟩ := List.mem_map.1 hin
      rw [contains, find?, List.isSome_find?, List.any_eq_false] at hnone
      exact hnone n hn (beq_iff_eq.2 hid)

theorem recipients_ascending {r : Registry A} (ha : r.Ascending) (e : Event) :
    (r.recipients e).Pairwise (·.val < ·.val) := by
  unfold recipients
  split
  · split
    · exact List.pairwise_singleton _ _
    · exact .nil
  · exact ha.sublist (List.filter_sublist.map _)

/-- An event is for its target if that is loaded, or for all who are loaded and registered for its
type. -/
theorem mem_recipients {r : Registry A} {e : Event} {id : InstanceId} :
    id ∈ r.recipients e ↔ ∃ n ∈ r.apps, n.id = id ∧
      (e.target = .nanoapp id ∨ e.target = .broadcast ∧ n.isSubscribed e.type = true) := by
  unfold recipients
  split
  · rename_i i ht
    rw [ht, contains, find?, List.isSome_find?]
    constructor
    · intro hid
      split at hid
      · rename_i hany
        obtain ⟨n, hn, hni⟩ := List.any_eq_true.1 hany
        obtain rfl := List.mem_singleton.1 hid
        exact ⟨n, hn, beq_iff_eq.1 hni, .inl rfl⟩
      · cases hid
    · rintro ⟨n, hn, rfl, ht | ⟨ht, -⟩⟩
      · cases ht
        have hany : r.apps.any (·.id == n.id) = true :=
          List.any_eq_true.2 ⟨n, hn, beq_self_eq_true _⟩
        rw [if_pos hany]
        exact List.mem_singleton_self _
      · cases ht
  · rename_i ht
    rw [ht, List.mem_map]
    constructor
    · rintro ⟨n, hn, rfl⟩
      obtain ⟨hn, hs⟩ := List.mem_filter.1 hn
      exact ⟨n, hn, rfl, .inr ⟨rfl, hs⟩⟩
    · rintro ⟨n, hn, rfl, ht | ⟨-, hs⟩⟩
      · cases ht
      · exact ⟨n, List.mem_filter.2 ⟨hn, hs⟩, rfl⟩

end Registry

namespace Queue

/-- The tasks of `q` wait in `q'`: none was taken to be processed. Some events may have been
discarded, and what is new stands behind the rest. -/
def WaitsIn (q q' : Queue) : Prop := ∃ p more, q'.tasks = others p q.tasks ++ more

theorem others_append (p : Event → Bool) (ts ts' : List Task) :
    others p (ts ++ ts') = others p ts ++ others p ts' := List.filter_append ..

theorem others_others (p p' : Event → Bool) (ts : List Task) :
    others p (others p' ts) = others (fun e => p e || p' e) ts := by
  unfold others
  rw [List.filter_filter]
  refine List.filter_congr fun t _ => ?_
  cases t with
  | event e => simp only [Bool.not_or]
  | deferred c => rfl

namespace WaitsIn

variable {q q' q'' : Queue}

theorem refl (q : Queue) : q.WaitsIn q := by
  refine ⟨fun _ => false, [], ?_⟩
  rw [List.append_nil, others, List.filter_eq_self.2]
  rintro (e | c) _ <;> rfl

theorem trans (h : q.WaitsIn q') (h' : q'.WaitsIn q'') : q.WaitsIn q'' := by
  obtain ⟨p, more, ht⟩ := h
  obtain ⟨p', more', ht'⟩ := h'
  refine ⟨fun e => p' e || p e, others p' more ++ more', ?_⟩
  rw [ht', ht, others_append, others_others, List.append_assoc]

theorem of_offer {t : Task} (ho : q.offer t = .ok q') : q.WaitsIn q' := by
  obtain ⟨p, more, ht⟩ := refl q
  exact ⟨p, more ++ [t], by rw [Hub.offer_tasks ho, ← List.append_assoc, ← ht]⟩

theorem of_discard (q : Queue) (p : Event → Bool) : q.WaitsIn (q.discard p).2 :=
  ⟨p, [], rfl⟩

end WaitsIn

end Queue

namespace Hub

variable {A R α : Type}

/-! ## What a nanoapp cannot do while it runs -/

/-- No task is taken from the queue. -/
def queueing : Law A R where
  rel h h' := h.queue.WaitsIn h'.queue
  halts _ _ _ := True
  refl h := .refl h.queue
  trans := .trans
  halts_of_rel _ _ := trivial

theorem queueing_operates [Radio R] : (queueing : Law A R).Operates := by
  have hsame {h h' : Hub A R} (hq : h'.queue = h.queue) : h.queue.WaitsIn h'.queue := hq ▸ .refl _
  have hposts : (queueing : Law A R).Posts := by
    refine ⟨fun ha => hsame ha.queue, fun _ _ => trivial, fun e _ h => ?_, fun c h => ?_⟩
    · unfold tryPost
      rw [ends_bind, ends_get]
      split
      · exact .of_offer ‹_›
      · exact hsame rfl
    · unfold defer
      rw [ends_bind, ends_get]
      split
      · exact .of_offer ‹_›
      · exact hsame rfl
  have hdiscard (p : Event → Bool) : Obeys queueing (discard p : HubM A R (List Event)) :=
    hposts.discard_obeys (fun h p => .of_discard h.queue p) (fun _ _ => hsame rfl) p
  exact Law.Spares.operates ⟨hposts.times (fun _ _ => hsame rfl) (fun _ _ _ => hsame rfl) hdiscard,
    fun _ _ => hsame rfl, fun _ _ _ _ => hsame rfl⟩

/-- The staff stays as it is, nothing is delivered, and no task is taken. -/
def attending : Law A R where
  rel h h' := h'.registry.staff = h.registry.staff ∧ h'.deliveries = h.deliveries ∧
    h.queue.WaitsIn h'.queue
  halts _ _ _ := True
  refl h := ⟨rfl, rfl, .refl h.queue⟩
  trans hr hr' := ⟨hr'.1.trans hr.1, hr'.2.1.trans hr.2.1, hr.2.2.trans hr'.2.2⟩
  halts_of_rel _ _ := trivial

theorem execute_attending [Radio R] (id : InstanceId) (p : Program α) :
    Obeys attending (execute id p : HubM A R α) := by
  induction p with
  | done a => exact .pure a
  | call c next ih =>
    refine .bind (fun h => ?_) fun reply => ih reply
    have hyields := perform_yields id c h
    refine (((staffed_operates.perform_obeys id c h).and hyields).and
      (queueing_operates.perform_obeys id c h)).mono ?_ fun _ _ _ => trivial
    rintro reply h' ⟨⟨hstaff, d, fx, -, hc⟩, hqueue⟩
    exact ⟨hstaff, hc.deliveries, hqueue⟩

/-! ## Who is there -/

/-- Nanoapps stand in ascending order, and the behaviour of each is at hand. -/
structure Mustered (h : Hub A R) : Prop where
  ascending : h.registry.Ascending
  manned : h.Manned

theorem Mustered.of_staff {h h' : Hub A R} (hm : h.Mustered)
    (hs : h'.registry.staff = h.registry.staff) : h'.Mustered where
  ascending := by
    rw [Registry.Ascending, Registry.ids_eq_staff, hs, ← Registry.ids_eq_staff]
    exact hm.ascending
  manned := hm.manned.of_staff hs

variable [Radio R]

theorem Moves.ascending {h h' : Hub A R} {o o' : Option Dispatch} {m : Move}
    (hm : Moves h o m h' o') (ha : h.registry.Ascending) : h'.registry.Ascending := by
  have hids := hm.front.ids
  unfold Registry.Ascending at ha ⊢
  rw [← front_ids] at ha ⊢
  cases m with
  | joined =>
    cases hm with
    | join hr =>
      rw [front_ids] at ha ⊢
      exact Registry.register_ascending hr ha
  | left => exact hids ▸ ha.filter _
  | _ => exact hids ▸ ha

theorem Course.ascending {P : Hub A R → Move → Hub A R → Prop} {h h' : Hub A R}
    {o o' : Option Dispatch} {ms : List Move} (hc : Course P h o ms h' o')
    (ha : h.registry.Ascending) : h'.registry.Ascending := by
  induction hc with
  | stay => exact ha
  | snoc _ hm _ ih => exact hm.ascending ih

variable [Behaviour A]

theorem Turn.mustered {h h' : Hub A R} {t : Turn A R} (hm : h.Mustered)
    (hr : t.run h = .ok () h') : h'.Mustered := by
  by_cases ht : t.Honest
  · obtain ⟨hmanned, ms, hp⟩ := (Turn.marching ht h).ok hr hm.manned
    obtain ⟨u, hc, -⟩ := hp.course
    exact ⟨hc.ascending hm.ascending, hmanned⟩
  · -- an event of a reserved type is posted, which leaves the staff alone
    cases t with
    | post e plain =>
      have hpost : Obeys staffed (Turn.run (A := A) (R := R) (.post e plain)) :=
        .bind (.post (tryPost_staffed e)) fun _ => .pure _
      exact hm.of_staff ((hpost h).ok hr)
    | _ => exact absurd trivial ht

/-! ## Hosts that leave the staff alone -/

/-- Nanoapps come and go by turns only. -/
def Usage.LeavesStaff : Usage A R → Prop
  | aside f _ => ∀ h, (f h).registry.staff = h.registry.staff
  | _ => True

/-- Whatever hosts do from a new hub on leads to `h`, if they leave it to loading and unloading who
is there. -/
inductive Tended (config : Config) : Hub A R → Prop
  | start {now : Nat} {radios : R} {metrics : Option Metrics} {h : Hub A R}
      (hr : initialise (blank config now radios metrics) = .ok () h) : Tended config h
  | use {h h' : Hub A R} (hh : Tended config h) {u : Usage A R} (hu : u.LeavesStaff)
      (hr : u.run h = .ok () h') : Tended config h'

theorem Reached.tended {config : Config} {h : Hub A R} (hh : Reached config h) :
    Tended config h := by
  induction hh with
  | start hr => exact .start hr
  | turn t _ hr ih => exact ih.use (u := .turn t) trivial hr

theorem Usage.mustered {h h' : Hub A R} {u : Usage A R} (hu : u.LeavesStaff) (hm : h.Mustered)
    (hr : u.run h = .ok () h') : h'.Mustered := by
  have hL : (staffed : Law A R).Operates := staffed_operates
  have hstaffed (hu : Obeys staffed u.run) : h'.Mustered := hm.of_staff ((hu h).ok hr)
  cases u with
  | turn t => exact Turn.mustered hm hr
  | post e => exact hstaffed (.bind (.post (tryPost_staffed e)) fun _ => .pure _)
  | defer c => exact hstaffed (.bind (hL.defer_obeys c) fun _ => .pure _)
  | setTimer s => exact hstaffed (.bind (hL.trySetTimer_obeys s) fun _ => .pure _)
  | cancelTimer owner x => exact hstaffed (.bind (hL.cancelTimer_obeys owner x) fun _ => .pure _)
  | cancelTimersOf owner => exact hstaffed (.bind (hL.cancelTimersOf_obeys owner) fun _ => .pure _)
  | tick => exact hstaffed (.bind tick_staffed fun _ => .pure _)
  | aside f _ => exact hstaffed (.modify hu)

theorem Tended.mustered {config : Config} {h : Hub A R} (hh : Tended config h) : h.Mustered := by
  induction hh with
  | @start now radios metrics h hr =>
    have hblank : Mustered (blank config now radios metrics : Hub A R) :=
      ⟨.nil, fun _ hx => (by cases hx)⟩
    exact hblank.of_staff ((staffed_operates.powers.initialise_obeys _).ok hr)
  | use _ hu hr ih => exact Usage.mustered hu ih hr

/-! ## Handling -/

/-- The event is noted, and the behaviour `a` of one recipient is taken out to run. -/
def begun (e : Event) (id : InstanceId) (a : A) (h : Hub A R) : Hub A R :=
  { h with
    registry := h.registry.takeOut id
    journal :=
      .delivered (Behaviour.watched a) ⟨id, e.sender, e.type, e.payload⟩ h.now :: h.journal }

/-- One nanoapp handles an event to the end. -/
inductive Handles (e : Event) (id : InstanceId) (h : Hub A R) : Hub A R → Prop
  | intro {a a' : A} {h₁ : Hub A R} (ha : h.registry.behaviour? id = some a)
      (hr : execute id (Behaviour.handle ⟨id, e.sender, e.type, e.payload⟩ a) (h.begun e id a) =
        .ok a' h₁) :
      Handles e id h { h₁ with registry := h₁.registry.putBack id a' }

/-- One nanoapp halts the hub while it handles an event. -/
inductive Breaks (e : Event) (id : InstanceId) (h : Hub A R) (er : Halt) (h' : Hub A R) : Prop
  | intro {a : A} (ha : h.registry.behaviour? id = some a)
      (hr : execute id (Behaviour.handle ⟨id, e.sender, e.type, e.payload⟩ a) (h.begun e id a) =
        .error er h')

/-- Some nanoapps handle an event one after the other, and nothing else happens. -/
inductive HandledBy (e : Event) : List InstanceId → Hub A R → Hub A R → Prop
  | none {h : Hub A R} : HandledBy e [] h h
  | next {id : InstanceId} {ids : List InstanceId} {h h₁ h₂ : Hub A R} (hh : Handles e id h h₁)
      (hr : HandledBy e ids h₁ h₂) : HandledBy e (id :: ids) h h₂

section

variable {e : Event} {id : InstanceId} {h h' : Hub A R}

/-- A nanoapp that handled an event has its behaviour back. -/
theorem Handles.staff (hh : Handles e id h h') (hm : h.Manned) :
    h'.registry.staff = h.registry.staff := by
  cases hh with
  | @intro a a' h₁ ha hr =>
    have hs : h₁.registry.staff = (h.registry.takeOut id).staff :=
      ((execute_attending id _ _).ok hr).1
    rw [Registry.putBack, Registry.staff_set, hs, Registry.takeOut, Registry.staff_set,
      List.map_map]
    refine (List.map_congr_left fun x hx => ?_).trans (List.map_id _)
    by_cases hid : x.1 = id
    · refine Prod.ext ?_ ?_ <;> simp [hid, hm x hx]
    · simp [hid]

theorem Handles.deliveries (hh : Handles e id h h') :
    h'.deliveries = ⟨id, e.sender, e.type, e.payload⟩ :: h.deliveries := by
  cases hh with
  | intro ha hr => exact ((execute_attending id _ _).ok hr).2.1

theorem Handles.queue (hh : Handles e id h h') : h.queue.WaitsIn h'.queue := by
  cases hh with
  | intro ha hr => exact ((execute_attending id _ _).ok hr).2.2

theorem HandledBy.staff {ids : List InstanceId} (hh : HandledBy e ids h h') (hm : h.Manned) :
    h'.registry.staff = h.registry.staff := by
  induction hh with
  | none => rfl
  | next hh _ ih => exact (ih (hm.of_staff (hh.staff hm))).trans (hh.staff hm)

theorem HandledBy.deliveries {ids : List InstanceId} (hh : HandledBy e ids h h') :
    h'.deliveries =
      (ids.map fun id => ⟨id, e.sender, e.type, e.payload⟩).reverse ++ h.deliveries := by
  induction hh with
  | none => rfl
  | next hh _ ih =>
    rw [ih, hh.deliveries, List.map_cons, List.reverse_cons, List.append_assoc]
    rfl

theorem HandledBy.queue {ids : List InstanceId} (hh : HandledBy e ids h h') :
    h.queue.WaitsIn h'.queue := by
  induction hh with
  | none => exact .refl _
  | next hh _ ih => exact hh.queue.trans ih

/-! ## Dispatching -/

/-- A recipient's behaviour is there, so it handles the event. -/
theorem deliverTo_handles (hm : h.Manned) (hid : id ∈ h.registry.ids) :
    Ends (deliverTo e id) h (fun _ => Handles e id h) (Breaks e id h) := by
  obtain ⟨a, ha⟩ := hm.behaviour hid
  unfold deliverTo withBehaviour
  rw [ends_bind, ends_get]
  dsimp only
  rw [ha]
  refine ends_bind.2 (ends_modify.2 (ends_bind.2 (ends_bind.2 (ends_get.2 ?_))))
  dsimp only
  rw [ha]
  refine ends_bind.2 (ends_set.2 (ends_bind.2 (ends_execute_bind.2 ?_)))
  exact .of_runs (fun a' h₁ hr => .intro ha hr) fun er h' hr => .intro ha hr

/-- Up to the recipient that halts the hub, if one does, all have handled the event. -/
theorem deliverAll_handles {ids : List InstanceId} (hm : h.Manned)
    (hids : ∀ id ∈ ids, id ∈ h.registry.ids) :
    Ends (ids.forM (deliverTo e)) h (fun _ => HandledBy e ids h) fun er h' =>
      ∃ served id rest h₁, ids = served ++ id :: rest ∧ HandledBy e served h h₁ ∧
        Breaks e id h₁ er h' := by
  induction ids generalizing h with
  | nil => exact .none
  | cons id ids ih =>
    refine ends_bind.2 ((deliverTo_handles hm (hids id List.mem_cons_self)).mono ?_ ?_)
    · intro _ h₁ hh
      have hs := hh.staff hm
      have hids₁ : ∀ i ∈ ids, i ∈ h₁.registry.ids := by
        rw [Registry.ids_eq_staff, hs, ← Registry.ids_eq_staff]
        exact fun i hi => hids i (List.mem_cons_of_mem id hi)
      refine (ih (hm.of_staff hs) hids₁).mono (fun _ _ hr => .next hh hr) ?_
      rintro er h' ⟨served, i, rest, h₂, rfl, hserved, hb⟩
      exact ⟨id :: served, i, rest, h₂, rfl, .next hh hserved, hb⟩
    · exact fun er h' hb => ⟨[], id, ids, h, rfl, .none, hb⟩

end

/-- The event went to all its recipients and is done with. -/
def concluded (e : Event) (since : Nat) (h : Hub A R) : Hub A R :=
  { h with
    stats := { h.stats with dispatched := h.stats.dispatched + 1 }
    metrics := (h.metrics.map (·.addDispatched 1)).map (·.observeLatency (h.now - since))
    journal := .released e :: h.journal }

/-- The event is for nobody and done with. If it had a target it counts as dropped. -/
def missed (e : Event) (h : Hub A R) : Hub A R :=
  match e.target with
  | .broadcast =>
    { h with
      metrics := h.metrics.map (·.observeLatency 0)
      journal := .released e :: h.journal }
  | .nanoapp id =>
    { h with
      stats := { h.stats with dropped := h.stats.dropped + 1 }
      metrics := (h.metrics.map (·.addDropped 1)).map (·.observeLatency 0)
      log := ⟨.warn, "Dropping event for unknown nanoapp",
        [("instance_id", toString id), ("event_type", Hex.word16 e.type)]⟩ :: h.log
      journal := .released e :: h.journal }

omit [Radio R] [Behaviour A] in
theorem dropUndelivered_misses (e : Event) (h : Hub A R) :
    Ends (do
      dropUndelivered e
      let ended := (← get).now
      countMetric (·.observeLatency (ended - h.now))) h
      (fun _ h' => h' = h.missed e) fun _ _ => False := by
  have hnow : h.now - h.now = 0 := Nat.sub_self _
  unfold dropUndelivered missed
  rw [ends_bind]
  cases e.target with
  | broadcast =>
    rw [← hnow]
    exact rfl
  | nanoapp id =>
    rw [← hnow]
    exact rfl

/-- A hub in which everybody is at hand takes an event from its queue. -/
theorem runOnce_handles {e : Event} {h : Hub A R} {q : Queue} (hm : h.Manned)
    (hq : h.queue.next? = some (.event e, q)) :
    Ends runOnce h
      (fun done h' => done = true ∧
        (h.registry.recipients e = [] → h' = missed e { h with queue := q }) ∧
        (h.registry.recipients e ≠ [] → ∃ h₁,
          HandledBy e (h.registry.recipients e) { h with queue := q } h₁ ∧
          h' = h₁.concluded e h.now))
      fun er h' => ∃ served id rest h₁, h.registry.recipients e = served ++ id :: rest ∧
        HandledBy e served { h with queue := q } h₁ ∧ Breaks e id h₁ er h' := by
  unfold runOnce
  rw [ends_bind, ends_get, hq]
  refine ends_bind.2 (ends_set.2 (ends_bind.2 ?_))
  unfold process
  rw [ends_bind, ends_get]
  dsimp only
  unfold deliver
  rw [ends_bind, ends_bind, ends_get]
  dsimp only
  rw [ends_ite]
  split
  · rename_i hnone
    have hnil := List.isEmpty_iff.1 hnone
    refine (ends_bind.1 (dropUndelivered_misses e { h with queue := q })).mono ?_ ?_
    · rintro _ h₁ hh
      refine Ends.mono hh ?_ fun _ _ => False.elim
      rintro _ h' rfl
      exact ⟨rfl, fun _ => rfl, fun hne => absurd hnil hne⟩
    · exact fun _ _ => False.elim
  · rename_i hsome
    have hne : h.registry.recipients e ≠ [] := fun hnil => hsome (List.isEmpty_iff.2 hnil)
    have hids : ∀ id ∈ h.registry.recipients e, id ∈ h.registry.ids :=
      fun id hid => mem_ids_of_mem_recipients hid
    refine ends_bind.2 ((deliverAll_handles (h := { h with queue := q }) hm hids).mono ?_ ?_)
    · intro _ h₁ hh
      exact ⟨rfl, fun hnil => absurd hnil hne, fun _ => ⟨h₁, hh, rfl⟩⟩
    · exact fun _ _ hb => hb

/-- In every hub that is tended the behaviour of everyone who is loaded is at hand. An event that is
taken from the queue goes to its target if that is loaded, or to all who are loaded and registered
for its type: they handle it once each, in ascending order, whatever they do meanwhile, and only
then the next task can be taken. An event for nobody is handled by nobody, and counts as dropped if
it had a target. If a nanoapp halts the hub, those before it have handled the event. -/
theorem events_reach_their_recipients {config : Config} {h : Hub A R} (hh : Tended config h) :
    (∀ id ∈ h.registry.ids, ∃ a, h.registry.behaviour? id = some a) ∧
    ∀ e q, h.queue.next? = some (.event e, q) →
      (h.registry.recipients e).Pairwise (·.val < ·.val) ∧
      (∀ id, id ∈ h.registry.recipients e ↔ ∃ n ∈ h.registry.apps, n.id = id ∧
        (e.target = .nanoapp id ∨ e.target = .broadcast ∧ n.isSubscribed e.type = true)) ∧
      Ends runOnce h
        (fun done h' => done = true ∧
          (h.registry.recipients e = [] → h' = missed e { h with queue := q }) ∧
          (h.registry.recipients e ≠ [] → ∃ h₁,
            HandledBy e (h.registry.recipients e) { h with queue := q } h₁ ∧
            h₁.registry.staff = h.registry.staff ∧
            h₁.deliveries = ((h.registry.recipients e).map
              fun id => ⟨id, e.sender, e.type, e.payload⟩).reverse ++ h.deliveries ∧
            q.WaitsIn h₁.queue ∧ h' = h₁.concluded e h.now))
        fun er h' => ∃ served id rest h₁, h.registry.recipients e = served ++ id :: rest ∧
          HandledBy e served { h with queue := q } h₁ ∧ Breaks e id h₁ er h' := by
  have hm := hh.mustered
  refine ⟨fun id hid => hm.manned.behaviour hid, fun e q hq => ⟨?_, ?_, ?_⟩⟩
  · exact Registry.recipients_ascending hm.ascending e
  · exact fun id => Registry.mem_recipients
  · refine (runOnce_handles hm.manned hq).mono ?_ fun _ _ hb => hb
    rintro done h' ⟨hdone, hnobody, hsome⟩
    refine ⟨hdone, hnobody, fun hne => ?_⟩
    obtain ⟨h₁, hhandled, rfl⟩ := hsome hne
    exact ⟨h₁, hhandled, hhandled.staff hm.manned, hhandled.deliveries, hhandled.queue, rfl⟩

/-- Of three nanoapps the first and the third are registered for a broadcast. While the first
handles it, it unregisters, sends another one and asks to be unloaded; the third handles it all the
same, and before anything that was queued. -/
theorem broadcast_outlasts_its_first_recipient :
    ∃ (h h' : Hub Script Stations) (q : Queue), Tended {} h ∧
      h.queue.next? = some (.event (.toAll 40000 (.number 7)), q) ∧ runOnce h = .ok true h' ∧
      h'.deliveries = [⟨⟨3⟩, .system, 40000, .number 7⟩, ⟨⟨1⟩, .system, 40000, .number 7⟩] ++
        h.deliveries ∧
      h'.registry.ids = [⟨1⟩, ⟨2⟩, ⟨3⟩] ∧ q.WaitsIn h'.queue := by
  obtain ⟨h, hh, hhead, hrecipients, hids, hends⟩ := reached_of_ends (A := Script) {} 0
    Stations.scripted none
    [.load ⟨1⟩ {} {
        start := [.subscribe 40000]
        rules := [⟨some 40000, 1, [.unsubscribe 40000, .send 40000 (.number 8) .everyone false,
          .unload]⟩] },
      .load ⟨2⟩ {} {}, .load ⟨3⟩ {} { start := [.subscribe 40000] },
      .runOnce, .runOnce, .runOnce,
      .post (.toAll 40000 (.number 7)) (Event.toAll_plain (by decide) (by decide) _)]
    (P := fun h => h.queue.next?.map (·.1) = some (.event (.toAll 40000 (.number 7))) ∧
      h.registry.recipients (.toAll 40000 (.number 7)) = [⟨1⟩, ⟨3⟩] ∧
      h.registry.ids = [⟨1⟩, ⟨2⟩, ⟨3⟩] ∧
      Ends runOnce h (fun _ _ => True) fun _ _ => False)
    (by decide +kernel)
  obtain ⟨⟨t, q⟩, hq, rfl⟩ := Option.map_eq_some_iff.1 hhead
  obtain ⟨done, h', hr, -⟩ := hends.exists_ok
  obtain ⟨-, -, hrun⟩ := (events_reach_their_recipients hh.tended).2 _ q hq
  obtain ⟨rfl, -, hsome⟩ := hrun.ok hr
  rw [hrecipients] at hsome
  obtain ⟨h₁, -, hstaff, hdeliveries, hwaits, rfl⟩ := hsome (by decide)
  refine ⟨h, _, q, hh.tended, hq, hr, hdeliveries, ?_, hwaits⟩
  show h₁.registry.ids = _
  rw [Registry.ids_eq_staff, hstaff, ← Registry.ids_eq_staff, hids]

end Hub

end ContextHub
