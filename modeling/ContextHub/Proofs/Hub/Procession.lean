import ContextHub.Proofs.Hub.Course
import ContextHub.Proofs.Hub.Workings
/-!
# Processions

An event that is taken from the queue goes to its recipients one after the other, and until the last
of them had it nothing else is taken and nobody comes or goes. A `Procession` is a course of a hub
that keeps to this order. Whatever a host does is one (`Hosted.procession`): an entry point that has
run is put back, so at every turn of a recipient the handler is there (`Manned`).
-/

namespace ContextHub

/-- Whether a move may also happen while an event is being dispatched. -/
def Move.isInner : Move → Bool
  | called _ _ => true
  | other => true
  | _ => false

theorem Registry.staff_set {A : Type} (r : Registry A) (id : InstanceId) (b : Option A) :
    (r.update id fun n => { n with behaviour := b }).staff =
      r.staff.map fun x => if x.1 = id then (x.1, b.isSome) else x := by
  simp only [staff, update, List.map_map]
  refine List.map_congr_left fun n _ => ?_
  simp only [Function.comp_apply]
  split <;> rfl

theorem Registry.ids_eq_staff {A : Type} (r : Registry A) : r.ids = r.staff.map Prod.fst := by
  rw [staff, List.map_map]
  rfl

namespace Hub

variable {A R α : Type}

/-- The behaviour of every nanoapp is at hand. -/
def Manned (h : Hub A R) : Prop := ∀ x ∈ h.registry.staff, x.2 = true

theorem Manned.of_staff {h h' : Hub A R} (hm : h.Manned)
    (hs : h'.registry.staff = h.registry.staff) : h'.Manned := by
  rw [Manned, hs]
  exact hm

/-- A behaviour that was taken out is put back after work that leaves the staff alone. -/
theorem Manned.putBack {h h₁ : Hub A R} (hm : h.Manned) {id : InstanceId} (a : A)
    (hs : h₁.registry.staff = (h.registry.takeOut id).staff) :
    Manned { h₁ with registry := h₁.registry.putBack id a } := by
  intro x hx
  rw [Registry.putBack, Registry.staff_set, hs, Registry.takeOut, Registry.staff_set] at hx
  obtain ⟨y, hy, rfl⟩ := List.mem_map.1 hx
  obtain ⟨z, hz, rfl⟩ := List.mem_map.1 hy
  by_cases hid : z.1 = id
  · simp [hid]
  · simpa [hid] using hm z hz

theorem Manned.behaviour {h : Hub A R} (hm : h.Manned) {id : InstanceId}
    (hid : id ∈ h.registry.ids) : ∃ a, h.registry.behaviour? id = some a := by
  obtain ⟨n, hn, rfl⟩ := List.mem_map.1 hid
  cases hf : h.registry.find? n.id with
  | none => exact absurd (List.find?_eq_none.1 hf n hn) (by simp)
  | some m =>
    have hmem : m ∈ h.registry.apps := List.mem_of_find?_eq_some hf
    obtain ⟨a, ha⟩ := Option.isSome_iff_exists.1 (hm _ (List.mem_map.2 ⟨m, hmem, rfl⟩))
    exact ⟨a, by rw [Registry.behaviour?, hf, Option.bind_some, ha]⟩

theorem mem_ids_of_mem_recipients {r : Registry A} {e : Event} {id : InstanceId}
    (hid : id ∈ r.recipients e) : id ∈ r.ids := by
  unfold Registry.recipients at hid
  split at hid
  · split at hid
    · rename_i hc
      obtain ⟨n, hn⟩ := Option.isSome_iff_exists.1 hc
      rw [List.mem_singleton.1 hid]
      exact mem_ids_of_find? hn
    · cases hid
  · obtain ⟨n, hn, rfl⟩ := List.mem_map.1 hid
    exact List.mem_map.2 ⟨n, (List.mem_filter.1 hn).1, rfl⟩

variable [Radio R]

/-- A run of a hub. A dispatch tells which event is on its way and who has yet to get it. -/
inductive Procession (h : Hub A R) (o : Option Dispatch) :
    List Move → Hub A R → Option Dispatch → Prop
  | start : Procession h o [] h o
  | inner {ms : List Move} {m : Move} {h₁ h₂ : Hub A R} {o₁ : Option Dispatch}
      (hp : Procession h o ms h₁ o₁) (hm : Moves h₁ o₁ m h₂ o₁) (hi : m.isInner = true) :
      Procession h o (ms ++ [m]) h₂ o₁
  | between {ms : List Move} {m : Move} {h₁ h₂ : Hub A R} (hp : Procession h o ms h₁ none)
      (hm : Moves h₁ none m h₂ none) : Procession h o (ms ++ [m]) h₂ none
  | taken {ms : List Move} {h₁ : Hub A R} {e : Event} {q : Queue}
      (hp : Procession h o ms h₁ none) (hq : h₁.queue.next? = some (.event e, q)) :
      Procession h o (ms ++ [.taken e]) { h₁ with queue := q }
        (some ⟨e, h₁.registry.recipients e⟩)
  | delivered {ms : List Move} {h₁ : Hub A R} {e : Event} {id : InstanceId}
      {ids : List InstanceId} (hp : Procession h o ms h₁ (some ⟨e, id :: ids⟩)) (watched : Bool)
      (time : Nat) : Procession h o (ms ++ [.delivered ⟨id, e.sender, e.type, e.payload⟩])
        { h₁ with
          journal := .delivered watched ⟨id, e.sender, e.type, e.payload⟩ time :: h₁.journal }
        (some ⟨e, ids⟩)
  | ended {ms : List Move} {h₁ : Hub A R} {e : Event} (hp : Procession h o ms h₁ (some ⟨e, []⟩)) :
      Procession h o ms h₁ none

/-! ## Processions are courses -/

theorem Moves.of_inner {h h' : Hub A R} {o o' : Option Dispatch} {m : Move}
    (hm : Moves h o m h' o') (hi : m.isInner = true) (u : Option Dispatch) : Moves h u m h' u := by
  cases hm with
  | call hr => exact .call hr
  | other hf => exact .other hf
  | _ => cases hi

theorem Moves.of_between {h h' : Hub A R} {m : Move} (hm : Moves h none m h' none)
    (u : Option Dispatch) : ∃ u', Moves h u m h' u' := by
  cases hm with
  | call hr => exact ⟨u, .call hr⟩
  | report hr => exact ⟨u, .report hr⟩
  | expiry hr => exact ⟨u, .expiry hr⟩
  | leave hr => exact ⟨none, .leave hr⟩
  | join hr => exact ⟨none, .join hr⟩
  | other hf => exact ⟨u, .other hf⟩

namespace Procession

variable {h h₁ h₂ : Hub A R} {o o₁ o₂ : Option Dispatch} {ms ms' : List Move}

theorem append (hp : Procession h o ms h₁ o₁) (hp' : Procession h₁ o₁ ms' h₂ o₂) :
    Procession h o (ms ++ ms') h₂ o₂ := by
  induction hp' with
  | start => rwa [List.append_nil]
  | inner _ hm hi ih => exact List.append_assoc _ _ _ ▸ ih.inner hm hi
  | between _ hm ih => exact List.append_assoc _ _ _ ▸ ih.between hm
  | taken _ hq ih => exact List.append_assoc _ _ _ ▸ ih.taken hq
  | delivered _ watched time ih => exact List.append_assoc _ _ _ ▸ ih.delivered watched time
  | ended _ ih => exact ih.ended

/-- A course does not tell who of the recipients was served; a procession does. -/
theorem course (hp : Procession h none ms h₁ o₁) : ∃ u, Course Free h none ms h₁ u ∧
    ∀ e ids, o₁ = some ⟨e, ids⟩ → ∃ served, u = some ⟨e, served ++ ids⟩ := by
  induction hp with
  | start => exact ⟨none, .stay, fun _ _ ho => by cases ho⟩
  | inner _ hm hi ih =>
    obtain ⟨u, hc, hu⟩ := ih
    exact ⟨u, hc.snoc (hm.of_inner hi u) trivial, hu⟩
  | between _ hm ih =>
    obtain ⟨u, hc, -⟩ := ih
    obtain ⟨u', hm⟩ := hm.of_between u
    exact ⟨u', hc.snoc hm trivial, fun _ _ ho => by cases ho⟩
  | taken _ hq ih =>
    obtain ⟨u, hc, -⟩ := ih
    refine ⟨_, hc.snoc (.take hq) trivial, fun _ _ ho => ⟨[], ?_⟩⟩
    cases ho
    rfl
  | @delivered ms h₁ e id ids _ watched time ih =>
    obtain ⟨u, hc, hu⟩ := ih
    obtain ⟨served, rfl⟩ := hu e (id :: ids) rfl
    refine ⟨_, hc.snoc (.deliver (by simp) watched time) trivial, fun _ _ ho => ?_⟩
    refine ⟨served ++ [id], ?_⟩
    cases ho
    rw [List.append_assoc]
    rfl
  | ended _ ih =>
    obtain ⟨u, hc, -⟩ := ih
    exact ⟨u, hc, fun _ _ ho => by cases ho⟩

/-- Reports are served between dispatches. -/
theorem split_reported {before after : List Move} {r : Report} (hp : Procession h o ms h₂ o₂)
    (hs : ms = before ++ .reported r :: after) : ∃ h₁ h₁', Procession h o before h₁ none ∧
      handleReport r h₁ = .ok () h₁' ∧ Procession h₁' none after h₂ o₂ := by
  induction hp generalizing after with
  | start => cases before <;> cases hs
  | inner _ hm hi ih =>
    rcases TimerPool.snoc_eq_split hs with ⟨-, -, rfl⟩ | ⟨rest, rfl, hms⟩
    · cases hi
    · obtain ⟨g, g', hg, hr, hg'⟩ := ih hms
      exact ⟨g, g', hg, hr, hg'.inner hm hi⟩
  | between hp hm ih =>
    rcases TimerPool.snoc_eq_split hs with ⟨rfl, rfl, rfl⟩ | ⟨rest, rfl, hms⟩
    · cases hm with
      | report hr => exact ⟨_, _, hp, hr, .start⟩
    · obtain ⟨g, g', hg, hr, hg'⟩ := ih hms
      exact ⟨g, g', hg, hr, hg'.between hm⟩
  | taken _ hq ih =>
    rcases TimerPool.snoc_eq_split hs with ⟨-, -, hm⟩ | ⟨rest, rfl, hms⟩
    · cases hm
    · obtain ⟨g, g', hg, hr, hg'⟩ := ih hms
      exact ⟨g, g', hg, hr, hg'.taken hq⟩
  | delivered _ watched time ih =>
    rcases TimerPool.snoc_eq_split hs with ⟨-, -, hm⟩ | ⟨rest, rfl, hms⟩
    · cases hm
    · obtain ⟨g, g', hg, hr, hg'⟩ := ih hms
      exact ⟨g, g', hg, hr, hg'.delivered watched time⟩
  | ended _ ih =>
    obtain ⟨g, g', hg, hr, hg'⟩ := ih hs
    exact ⟨g, g', hg, hr, hg'.ended⟩

end Procession

/-! ## Handlers -/

/-- The staff stays as it is. -/
def staffed : Law A R where
  rel h h' := h'.registry.staff = h.registry.staff
  halts _ _ _ := True
  refl _ := rfl
  trans hs hs' := hs'.trans hs
  halts_of_rel _ _ := trivial

theorem staffed_operates : (staffed : Law A R).Operates :=
  Law.operates_of_registry (·.staff) (congrArg Registry.staff) fun _ _ _ => trivial

omit [Radio R] in
theorem tryPost_staffed (e : Event) : Obeys staffed (tryPost e : HubM A R _) :=
  tryPost_obeys_of_registry (congrArg Registry.staff) e

theorem tick_staffed : Obeys staffed (tick : HubM A R Nat) :=
  staffed_operates.tick_obeys (fun _ _ => rfl) tryPost_staffed

/-- A procession at any time, with the staff as it was. -/
def performing : Law A R where
  rel h h' := h'.registry.staff = h.registry.staff ∧ ∀ o, ∃ ms, Procession h o ms h' o
  halts _ _ _ := True
  refl _ := ⟨rfl, fun _ => ⟨[], .start⟩⟩
  trans hr hr' := ⟨hr'.1.trans hr.1, fun o =>
    have ⟨ms, hp⟩ := hr.2 o
    have ⟨ms', hp'⟩ := hr'.2 o
    ⟨ms ++ ms', hp.append hp'⟩⟩
  halts_of_rel _ _ := trivial

/-- A procession at any time that leaves nobody without a behaviour. -/
def acting : Law A R where
  rel h h' := h'.registry.ids = h.registry.ids ∧ (h.Manned → h'.Manned) ∧
    ∀ o, ∃ ms, Procession h o ms h' o
  halts _ _ _ := True
  refl _ := ⟨rfl, id, fun _ => ⟨[], .start⟩⟩
  trans hr hr' := ⟨hr'.1.trans hr.1, hr'.2.1 ∘ hr.2.1, fun o =>
    have ⟨ms, hp⟩ := hr.2.2 o
    have ⟨ms', hp'⟩ := hr'.2.2 o
    ⟨ms ++ ms', hp.append hp'⟩⟩
  halts_of_rel _ _ := trivial

/-- A procession from one dispatch to the next. -/
def marching : Law A R where
  rel h h' := h.Manned → h'.Manned ∧ ∃ ms, Procession h none ms h' none
  halts _ _ _ := True
  refl _ hm := ⟨hm, [], .start⟩
  trans hr hr' hm :=
    have ⟨hm₁, ms, hp⟩ := hr hm
    have ⟨hm₂, ms', hp'⟩ := hr' hm₁
    ⟨hm₂, ms ++ ms', hp.append hp'⟩
  halts_of_rel _ _ := trivial

theorem performing_acting : (performing : Law A R).Within acting where
  rel hr := by
    refine ⟨?_, fun hm => hm.of_staff hr.1, hr.2⟩
    rw [Registry.ids_eq_staff, hr.1, ← Registry.ids_eq_staff]
  halts _ := trivial

theorem acting_marching : (acting : Law A R).Within marching where
  rel hr hm := ⟨hr.2.1 hm, hr.2.2 none⟩
  halts _ := trivial

theorem performing_marching : (performing : Law A R).Within marching where
  rel hr := acting_marching.rel (performing_acting.rel hr)
  halts _ := trivial

theorem Procession.of_front {h h' : Hub A R} (hf : h'.front = h.front) (o : Option Dispatch) :
    Procession h o [.other] h' o := .inner .start (.other hf) rfl

/-- What the front does not see, and what leaves the staff alone. -/
theorem performing_of_still {m : HubM A R α} (hs : Obeys still m) (hst : Obeys staffed m) :
    Obeys performing m := fun h =>
  ((hs h).and (hst h)).mono (fun _ _ hr => ⟨hr.2, fun o => ⟨_, .of_front hr.1 o⟩⟩)
    fun _ _ _ => trivial

theorem perform_performing (id : InstanceId) (c : Call) :
    Obeys performing (perform id c : HubM A R c.Reply) := by
  intro h
  have hst := staffed_operates.perform_obeys id c h
  unfold Ends at *
  split
  · rename_i hr
    rw [hr] at hst
    exact ⟨hst, fun o => ⟨_, .inner .start (.call hr) rfl⟩⟩
  · exact trivial

theorem execute_performing (id : InstanceId) (p : Program α) :
    Obeys performing (execute id p : HubM A R α) := by
  induction p with
  | done a => exact .pure a
  | call c next ih => exact .bind (perform_performing id c) fun reply => ih reply

theorem withBehaviour_acting (id : InstanceId) (run : A → Program (α × A)) :
    Obeys acting (withBehaviour id run : HubM A R (Option α)) := by
  intro h
  unfold withBehaviour
  rw [ends_bind, ends_get]
  split
  · exact acting.refl h
  · rename_i a _
    have hout (o : Option Dispatch) :
        Procession h o [.other] { h with registry := h.registry.takeOut id } o :=
      .of_front (front_update h (f := fun n => { n with behaviour := none }) fun _ => rfl) o
    refine ends_bind.2 (ends_set.2 (ends_bind.2 ((execute_performing id (run a) _).mono ?_ ?_)))
    · rintro ⟨result, a⟩ h₁ ⟨hs, hrun⟩
      refine ends_bind.2 (ends_modify.2 (ends_pure.2 ⟨?_, fun hm => hm.putBack a hs, fun o => ?_⟩))
      · refine (update_ids h₁.registry id (f := fun n => { n with behaviour := some a })
          fun _ => rfl).trans ?_
        rw [Registry.ids_eq_staff, hs, ← Registry.ids_eq_staff]
        exact update_ids h.registry id (f := fun n => { n with behaviour := none }) fun _ => rfl
      · obtain ⟨ms, hp⟩ := hrun o
        have hback : Procession h₁ o [.other]
            { h₁ with registry := h₁.registry.putBack id a } o :=
          .of_front (front_update h₁ (f := fun n => { n with behaviour := some a }) fun _ => rfl) o
        exact ⟨_, ((hout o).append hp).append hback⟩
    · exact fun _ _ _ => trivial

variable [Behaviour A]

theorem runHandler_acting (d : Delivery) (id : InstanceId) : Obeys acting (do
    let done ← withBehaviour id fun (a : A) => do return ((), ← Behaviour.handle d a)
    if done.isNone then
      emit .error "Nanoapp handler unavailable during dispatch" [("instance_id", toString id)] :
    HubM A R Unit) :=
  .bind (withBehaviour_acting _ _) fun _ => .ite (fun _ =>
    (performing_of_still (emit_still _ _ _) (staffed_operates.emit_obeys _ _ _)).within
      performing_acting) fun _ => .pure _

/-! ## Dispatches -/

/-- From `h₀` a procession leads to `h`, and whoever is yet to get an event can handle it. -/
def Marches (h₀ h : Hub A R) (o : Option Dispatch) : Prop :=
  h.Manned ∧ (∀ D, o = some D → ∀ id ∈ D.recipients, id ∈ h.registry.ids) ∧
    ∃ ms, Procession h₀ none ms h o

omit [Behaviour A] in
theorem Marches.acting {h₀ h : Hub A R} {o : Option Dispatch} (hh : h₀.Marches h o)
    {m : HubM A R α} (hm : Obeys acting m) :
    Ends m h (fun _ h' => h₀.Marches h' o) fun _ _ => True := by
  obtain ⟨hmanned, hids, ms, hp⟩ := hh
  refine (hm h).mono (fun _ h' hr => ?_) fun _ _ _ => trivial
  obtain ⟨hsame, hm, hr⟩ := hr
  obtain ⟨ms', hp'⟩ := hr o
  exact ⟨hm hmanned, fun D hD id hid => hsame ▸ hids D hD id hid, _, hp.append hp'⟩

omit [Behaviour A] in
theorem Marches.ended {h₀ h : Hub A R} {e : Event} (hh : h₀.Marches h (some ⟨e, []⟩)) :
    h₀.Marches h none := by
  obtain ⟨hmanned, -, ms, hp⟩ := hh
  exact ⟨hmanned, fun _ hD => (by cases hD), ms, hp.ended⟩

/-- A recipient's handler is there, so the event is delivered. -/
theorem deliverTo_marches {h₀ h : Hub A R} {e : Event} {id : InstanceId} {ids : List InstanceId}
    (hh : h₀.Marches h (some ⟨e, id :: ids⟩)) :
    Ends (deliverTo e id) h (fun _ h' => h₀.Marches h' (some ⟨e, ids⟩)) fun _ _ => True := by
  obtain ⟨hmanned, hids, ms, hp⟩ := hh
  obtain ⟨a, ha⟩ := hmanned.behaviour (hids _ rfl id List.mem_cons_self)
  unfold deliverTo
  rw [ends_bind, ends_get]
  dsimp only
  rw [ha]
  let begun : Entry := .delivered (Behaviour.watched a) ⟨id, e.sender, e.type, e.payload⟩ h.now
  have hh : h₀.Marches { h with journal := begun :: h.journal } (some ⟨e, ids⟩) := by
    refine ⟨hmanned, ?_, _, hp.delivered _ _⟩
    rintro _ ⟨⟩ i hi
    exact hids _ rfl i (List.mem_cons_of_mem id hi)
  exact ends_bind.2 (ends_modify.2 (hh.acting (runHandler_acting _ _)))

theorem deliverAll_marches {h₀ h : Hub A R} {e : Event} {ids : List InstanceId}
    (hh : h₀.Marches h (some ⟨e, ids⟩)) :
    Ends (ids.forM (deliverTo e)) h (fun _ h' => h₀.Marches h' (some ⟨e, []⟩))
      fun _ _ => True := by
  induction ids generalizing h with
  | nil => exact hh
  | cons id ids ih => exact (deliverTo_marches hh).bind fun _ _ => ih

omit [Behaviour A] in
theorem dropUndelivered_staffed (e : Event) :
    Obeys staffed (dropUndelivered e : HubM A R Unit) := by
  have hL : (staffed : Law A R).Operates := staffed_operates
  have hrelease : Obeys staffed (release e : HubM A R Unit) := .modify fun _ => rfl
  unfold dropUndelivered
  split
  · exact hrelease
  · refine .bind (hL.emit_obeys _ _ _) fun _ => .bind (hL.modifyStats_obeys _) fun _ => ?_
    exact .bind (hL.countMetric_obeys _) fun _ => hrelease

theorem deliver_marches {h₀ h : Hub A R} {e : Event}
    (hh : h₀.Marches h (some ⟨e, h.registry.recipients e⟩)) :
    Ends (deliver e) h (fun _ h' => h₀.Marches h' none) fun _ _ => True := by
  have hL : (staffed : Law A R).Operates := staffed_operates
  have hact {m : HubM A R Unit} (hs : Obeys still m) (hst : Obeys staffed m) : Obeys acting m :=
    (performing_of_still hs hst).within performing_acting
  unfold deliver
  rw [ends_bind, ends_get]
  dsimp only
  rw [ends_ite]
  split
  · rename_i hnone
    rw [List.isEmpty_iff.1 hnone] at hh
    exact hh.ended.acting (hact (dropUndelivered_still e) (dropUndelivered_staffed e))
  · refine (deliverAll_marches hh).bind fun _ _ hh => hh.ended.acting ?_
    refine .bind (hact (modifyStats_still _) (hL.modifyStats_obeys _)) fun _ => ?_
    refine .bind (hact (countMetric_still _) (hL.countMetric_obeys _)) fun _ => ?_
    exact hact (release_still e) (.modify fun _ => rfl)

/-! ## Loading and unloading -/

theorem runStop_marching (id : InstanceId) : Obeys marching (runStop id : HubM A R Unit) := by
  have hrun : Obeys acting (do
      let _ ← withBehaviour id fun (a : A) => do return ((), ← Behaviour.stop id a) :
      HubM A R Unit) :=
    .bind (withBehaviour_acting _ _) fun _ => .pure _
  refine Obeys.within ?_ acting_marching
  unfold runStop
  refine .get_bind fun h => ?_
  dsimp only
  split
  · exact hrun
  · exact .bind ((performing_of_still (note_still rfl) (.modify fun _ => rfl)).within
      performing_acting) fun _ => hrun

omit [Behaviour A] in
theorem releaseResources_marching (id : InstanceId) :
    Obeys marching (releaseResources id : HubM A R Unit) := by
  intro h
  have hst := staffed_operates.releaseResources_ends id h
  unfold Ends at *
  split
  · rename_i h' hr
    rw [hr] at hst
    obtain ⟨h₁, hs, hs'⟩ := hst
    refine fun hm => ⟨fun x hx => ?_, _, .between .start (.leave hr)⟩
    rw [show h'.registry.staff = (h₁.registry.remove id).staff from hs'] at hx
    obtain ⟨n, hn, rfl⟩ := List.mem_map.1 hx
    refine hm _ ?_
    rw [← show h₁.registry.staff = h.registry.staff from hs]
    exact List.mem_map_of_mem (List.mem_filter.1 hn).1
  · exact trivial

omit [Behaviour A] in
theorem logLifecycle_marching (app : AppId) (id : InstanceId) :
    Obeys marching (logLifecycle app id : HubM A R Unit) :=
  (performing_of_still (emit_still _ _ _) (staffed_operates.emit_obeys _ _ _)).within
    performing_marching

omit [Behaviour A] in
theorem announce_marching {type : EventType} (ht : type.isResult = false) (payload : Payload) :
    Obeys marching (post (.toAll type payload) : HubM A R Bool) :=
  (performing_of_still (post_still (e := .toAll type payload) ht)
    (.post (tryPost_staffed _))).within performing_marching

omit [Behaviour A] in
/-- Who joins brings a behaviour. -/
theorem register_marching {h : Hub A R} {app : AppId} {permissions : Permissions} {behaviour : A}
    {id : InstanceId} {registry : Registry A}
    (hr : h.registry.register app permissions behaviour = .ok (id, registry)) :
    marching.rel h { h with registry } := by
  refine fun hm => ⟨fun x hx => ?_, _, .between .start (.join hr)⟩
  unfold Registry.register at hr
  split at hr
  · cases hr
  · split at hr
    · cases hr
    · obtain ⟨rfl, rfl⟩ := Prod.mk.inj (Except.ok.inj hr)
      obtain ⟨n, hn, rfl⟩ := List.mem_map.1 hx
      rcases mem_place.1 hn with rfl | hn
      · rfl
      · exact hm _ (List.mem_map_of_mem hn)

theorem load_marching (app : AppId) (permissions : Permissions) (behaviour : A) :
    Obeys marching (load app permissions behaviour : HubM A R (Except LoadError InstanceId)) := by
  intro h
  unfold load
  rw [ends_bind, ends_get]
  split
  · exact marching.refl h
  · rename_i id registry hr
    refine ends_bind.2 (ends_set.2 (Obeys.after (.bind ?_ ?_) (register_marching hr)))
    · exact (withBehaviour_acting _ _).within acting_marching
    refine fun started => .ite (fun _ => ?_) fun _ => ?_
    · refine .bind (logLifecycle_marching _ _) fun _ => ?_
      exact .bind (announce_marching rfl _) fun _ => .pure _
    · refine .bind ((performing_of_still (emit_still _ _ _)
        (staffed_operates.emit_obeys _ _ _)).within performing_marching) fun _ => ?_
      exact .bind (releaseResources_marching id) fun _ =>
        .bind (logLifecycle_marching _ _) fun _ => .pure _

theorem unload_marching (id : InstanceId) :
    Obeys marching (unload id : HubM A R (Except LoadError Unit)) := by
  unfold unload
  refine .get_bind fun _ => ?_
  split
  · exact .pure _
  · refine .bind (runStop_marching id) fun _ => .bind (releaseResources_marching id) fun _ => ?_
    refine .bind (logLifecycle_marching _ _) fun _ => ?_
    exact .bind (announce_marching rfl _) fun _ => .pure _

theorem shutdown_marching : Obeys marching (shutdown : HubM A R Unit) := by
  unfold shutdown
  refine .get_bind fun _ => .bind (.forM fun id _ => .bind (unload_marching id) fun r => ?_) ?_
  · split
    · exact .pure _
    · exact (performing_of_still (emit_still _ _ _)
        (staffed_operates.emit_obeys _ _ _)).within performing_marching
  · exact fun _ => (performing_of_still still_powers.closeRadios_obeys
      staffed_operates.powers.closeRadios_obeys).within performing_marching

/-! ## Tasks and turns -/

omit [Behaviour A] in
/-- A report or a timer is served between dispatches. -/
theorem marching_of_move {m : HubM A R Unit} {move : Move} (hst : Obeys staffed m)
    (hmove : ∀ h h', m h = .ok () h' → Moves h none move h' none) : Obeys marching m := by
  intro h
  have hst := hst h
  unfold Ends at *
  split
  · rename_i hr
    rw [hr] at hst
    exact fun hm => ⟨hm.of_staff hst, _, .between .start (hmove _ _ hr)⟩
  · exact trivial

theorem runCallback_marching (c : Callback) : Obeys marching (runCallback c : HubM A R Unit) := by
  have hL : (staffed : Law A R).Operates := staffed_operates
  cases c with
  | timerTick =>
    exact (performing_of_still (.bind tick_still fun _ => countMetric_still _)
      (.bind tick_staffed fun _ => hL.countMetric_obeys _)).within performing_marching
  | timerExpired x u =>
    exact marching_of_move (hL.serves.handleSystemTimer_obeys x u) fun _ _ => .expiry
  | report r => exact marching_of_move (hL.serves.handleReport_obeys r) fun _ _ => .report
  | unload id =>
    refine .bind (unload_marching id) fun r => ?_
    split
    · exact .pure _
    · exact (performing_of_still (emit_still _ _ _) (hL.emit_obeys _ _ _)).within
        performing_marching

theorem runOnce_marching : Obeys marching (runOnce : HubM A R Bool) := by
  have hL : (staffed : Law A R).Operates := staffed_operates
  have hcount (started : Nat) : Obeys acting (do
      let ended := (← get).now
      countMetric (·.observeLatency (ended - started)) : HubM A R Unit) :=
    .get_bind fun _ => (performing_of_still (countMetric_still _)
      (hL.countMetric_obeys _)).within performing_acting
  intro h
  unfold runOnce
  rw [ends_bind, ends_get]
  split
  · exact marching.refl h
  · rename_i t q hq
    refine ends_bind.2 (ends_set.2 (Ends.obeying ?_ fun _ => .pure _))
    unfold process
    rw [ends_bind, ends_get]
    cases t with
    | deferred c =>
      have htake : marching.rel h { h with queue := q } :=
        performing_marching.rel ⟨rfl, fun o => ⟨_, .of_front (front_deferred hq) o⟩⟩
      have hmarch {m : HubM A R Unit} (hs : Obeys still m) (hst : Obeys staffed m) :
          Obeys marching m := (performing_of_still hs hst).within performing_marching
      refine Obeys.after ?_ htake
      refine .bind (hmarch (modifyStats_still _) (hL.modifyStats_obeys _)) fun _ => ?_
      refine .bind (hmarch (countMetric_still _) (hL.countMetric_obeys _)) fun _ => ?_
      refine .bind (hmarch (emit_still _ _ _) (hL.emit_obeys _ _ _)) fun _ => ?_
      exact .bind (runCallback_marching c) fun _ => (hcount _).within acting_marching
    | event e =>
      by_cases hm : h.Manned
      · have htaken : h.Marches { h with queue := q } (some ⟨e, h.registry.recipients e⟩) := by
          refine ⟨hm, ?_, _, Procession.start.taken hq⟩
          rintro _ ⟨⟩ id hid
          exact mem_ids_of_mem_recipients hid
        refine ((deliver_marches htaken).bind fun _ _ hh => hh.acting (hcount h.now)).mono
          (fun _ h' hh _ => ⟨hh.1, hh.2.2⟩) fun _ _ _ => trivial
      · -- nothing is said of a hub without its staff
        unfold Ends
        split
        · exact fun hmanned => absurd hmanned hm
        · exact trivial

theorem Turn.marching {t : Turn A R} (ht : t.Honest) : Obeys Hub.marching t.run := by
  have hL : (staffed : Law A R).Operates := staffed_operates
  have hmarch {m : HubM A R Unit} (hs : Obeys still m) (hst : Obeys staffed m) :
      Obeys Hub.marching m := (performing_of_still hs hst).within performing_marching
  cases t with
  | load => exact .bind (load_marching _ _ _) fun _ => .pure _
  | unload => exact .bind (unload_marching _) fun _ => .pure _
  | shutdown => exact shutdown_marching
  | runOnce => exact .bind runOnce_marching fun _ => .pure _
  | post e =>
    exact hmarch (.bind (post_still (isResult_of_user ht)) fun _ => .pure _)
      (.bind (.post (tryPost_staffed e)) fun _ => .pure _)
  | requestUnload =>
    exact hmarch (.bind (requestUnload_still _) fun _ => .pure _)
      (.bind (hL.defer_obeys _) fun _ => .pure _)
  | report => exact hmarch (deferOrDie_still _) (hL.deferOrDie_obeys _)
  | stop => exact hmarch stopLoop_still (.modify fun _ => rfl)
  | takeStop =>
    refine hmarch (.bind takeStop_still fun _ => .pure _) (.bind (fun h => ?_) fun _ => .pure _)
    unfold Hub.takeStop
    rw [ends_bind, ends_get, ends_ite]
    split <;> exact rfl
  | fireIfDue =>
    exact hmarch (.bind fireIfDue_still fun _ => .pure _)
      (.bind hL.fireIfDue_obeys fun _ => .pure _)
  | advanceClock => exact hmarch (.modify fun _ => rfl) (.modify fun _ => rfl)
  | advanceClockTo => exact hmarch (.modify fun _ => rfl) (.modify fun _ => rfl)
  | radios => exact hmarch (.modify fun _ => rfl) (.modify fun _ => rfl)

/-- Whatever hosts do to a new hub is a procession. -/
theorem Hosted.procession {config : Config} {h : Hub A R} (hh : Hosted config h) :
    ∃ now radios metrics ms,
      Procession (blank config now radios metrics : Hub A R) none ms h none := by
  suffices hmarch : ∃ now radios metrics, h.Manned ∧ ∃ ms,
      Procession (blank config now radios metrics : Hub A R) none ms h none by
    obtain ⟨now, radios, metrics, -, ms, hp⟩ := hmarch
    exact ⟨now, radios, metrics, ms, hp⟩
  induction hh with
  | @start now radios metrics h hr =>
    have hinit : Obeys performing (initialise : HubM A R Unit) :=
      performing_of_still still_powers.initialise_obeys
        staffed_operates.powers.initialise_obeys
    exact ⟨now, radios, metrics, performing_marching.rel ((hinit _).ok hr) fun _ hx => by cases hx⟩
  | turn _ ht hr ih =>
    obtain ⟨now, radios, metrics, hm, ms, hp⟩ := ih
    obtain ⟨hm', ms', hp'⟩ := (Turn.marching ht _).ok hr hm
    exact ⟨now, radios, metrics, hm', _, hp.append hp'⟩

end Hub

end ContextHub
