import ContextHub.Proofs.Hub.Numbering
/-!
# Who is enrolled

Nothing but loading and unloading changes who is loaded as which app, and where the counter of ids
stands (`enrolled`): a nanoapp's call, a report, a timeout and a delivery leave the roll alone. So
the registry of every hub that hosts lead to is sound (`Enlisted.sound`), whatever comes and goes,
starts or does not start. A load answers as the registry does, and one that does not start leaves
the roll as it was, but for the counter.
-/

namespace ContextHub

/-! ## Coming and going -/

namespace Registry

variable {A : Type}

theorem roll_remove (r : Registry A) (id : InstanceId) :
    (r.remove id).roll = (r.roll.1.filter (·.1 != id), r.nextId) := by
  simp only [roll, remove, List.filter_map]
  rfl

theorem roll_remove_congr {r r' : Registry A} (hr : r'.roll = r.roll) (id : InstanceId) :
    (r'.remove id).roll = (r.remove id).roll := by
  rw [roll_remove, roll_remove, hr, (Prod.mk.inj hr).2]

/-- A nanoapp that is put in its place and removed again was never there. -/
theorem filter_place {n : Nanoapp A} {l : List (Nanoapp A)} (hn : n.id ∉ l.map (·.id)) :
    (place n l).filter (·.id != n.id) = l := by
  have hself : (n.id != n.id) = false := bne_self_eq_false n.id
  have hall : l.filter (·.id != n.id) = l := by
    refine List.filter_eq_self.2 fun x hx => bne_iff_ne.2 fun heq => ?_
    exact hn (List.mem_map.2 ⟨x, hx, heq⟩)
  induction l with
  | nil => rw [place, List.filter_cons, hself, if_neg Bool.false_ne_true, List.filter_nil]
  | cons x l ih =>
    have hrest : n.id ∉ l.map (·.id) := fun hin => hn (List.mem_cons_of_mem _ hin)
    have hx : (x.id != n.id) = true :=
      bne_iff_ne.2 fun heq => hn (heq ▸ List.mem_cons_self)
    simp only [place]
    split
    · rw [List.filter_cons, hself, if_neg Bool.false_ne_true, hall]
    · rw [List.filter_cons, if_pos hx] at hall ⊢
      rw [ih hrest (List.cons.inj hall).2]

/-- Who is registered is on the roll, the counter is past it, and removing it restores the roll. -/
theorem Sound.roll_of_register {r r' : Registry A} (hr : r.Sound) {app : AppId}
    {permissions : Permissions} {behaviour : A} {id : InstanceId}
    (hreg : r.register app permissions behaviour = .ok (id, r')) :
    r'.roll.1.Perm ((id, app) :: r.roll.1) ∧ r'.nextId = rollover id.val ∧
      (r'.remove id).roll = (r.roll.1, r'.nextId) := by
  rcases hr.register app permissions behaviour with ⟨-, he⟩ | ⟨-, -, he⟩ | ⟨-, id', hfree, hok⟩
  · rw [he] at hreg
    cases hreg
  · rw [he] at hreg
    cases hreg
  · rw [hok] at hreg
    obtain ⟨rfl, rfl⟩ := Prod.mk.inj (Except.ok.inj hreg)
    let joined : Nanoapp A := { id := id', app, permissions, behaviour := some behaviour }
    have hperm := (Hub.place_perm joined r.apps).map fun n => (n.id, n.app)
    have hgone : (place joined r.apps).filter (·.id != joined.id) = r.apps := filter_place hfree.1
    refine ⟨hperm, rfl, ?_⟩
    rw [roll, Registry.remove]
    exact congrArg (fun l => (l.map fun n => (n.id, n.app), rollover id'.val)) hgone

theorem Revised.sound {r r' : Registry A} (hr : r.Revised r') (hs : r.Sound) : r'.Sound := by
  cases hr with
  | takeOut id => exact hs.of_roll (r.roll_update id fun _ => rfl)
  | putBack id a => exact hs.of_roll (r.roll_update id fun _ => rfl)
  | register h => exact hs.of_register h
  | remove id => exact hs.remove id

end Registry

namespace Hub

open Registry

variable {A R α : Type}

/-! ## What leaves the roll alone -/

/-- The roll stays as it is. -/
def enrolled : Law A R where
  rel h h' := h'.registry.roll = h.registry.roll
  halts _ _ _ := True
  refl _ := rfl
  trans hr hr' := hr'.trans hr
  halts_of_rel _ _ := trivial

/-- A sound registry stays sound. -/
def sounding : Law A R where
  rel h h' := h.registry.Sound → h'.registry.Sound
  halts _ _ _ := True
  refl _ := id
  trans hr hr' hs := hr' (hr hs)
  halts_of_rel _ _ := trivial

variable [Radio R]

theorem enrolled_operates : (enrolled : Law A R).Operates :=
  Law.operates_of_registry (·.roll) (congrArg Registry.roll) fun _ _ _ => trivial

omit [Radio R] in
theorem tryPost_enrolled (e : Event) : Obeys enrolled (tryPost e : HubM A R _) :=
  tryPost_obeys_of_registry (congrArg Registry.roll) e

theorem sounding_dispatches : (sounding : Law A R).Dispatches where
  toOperates := Law.operates_of_registry (fun ha hs => hs.of_roll ha.roll) (fun he hs => he ▸ hs)
    fun _ _ _ => trivial
  enlist hr hs := hr.sound hs
  note _ _ _ _ := id

omit [Radio R] in
theorem tryPost_sounding (e : Event) : Obeys sounding (tryPost e : HubM A R _) :=
  tryPost_obeys_of_registry (fun he hs => he ▸ hs) e

theorem tick_sounding : Obeys sounding (tick : HubM A R Nat) :=
  sounding_dispatches.tick_obeys (fun _ _ => id) tryPost_sounding

theorem withBehaviour_enrolled (id : InstanceId) (run : A → Program (α × A)) :
    Obeys enrolled (withBehaviour id run : HubM A R (Option α)) := by
  intro h
  unfold withBehaviour
  rw [ends_bind, ends_get]
  split
  · exact enrolled.refl h
  · have hout : enrolled.rel h { h with registry := h.registry.takeOut id } :=
      h.registry.roll_update id fun _ => rfl
    refine ends_bind.2 (ends_set.2 (Obeys.after ?_ hout))
    refine .bind (enrolled_operates.execute_obeys id _) fun x => ?_
    exact .bind (.modify fun h => h.registry.roll_update id fun _ => rfl) fun _ => .pure _

variable [Behaviour A]

theorem runStop_enrolled (id : InstanceId) : Obeys enrolled (runStop id : HubM A R Unit) := by
  have hrun : Obeys enrolled (do
      let _ ← withBehaviour id fun (a : A) => do return ((), ← Behaviour.stop id a) :
      HubM A R Unit) :=
    .bind (withBehaviour_enrolled _ _) fun _ => .pure _
  unfold runStop
  refine .get_bind fun h => ?_
  dsimp only
  split
  · exact hrun
  · exact .bind (enrolled_operates.note_obeys rfl rfl) fun _ => hrun

/-! ## Loading and unloading -/

/-- A load answers as the registry does, and a nanoapp that does not start is removed again. -/
theorem load_roll (app : AppId) (permissions : Permissions) (behaviour : A) (h : Hub A R) :
    Ends (load app permissions behaviour) h (fun result h' =>
      match h.registry.register app permissions behaviour with
      | .error e => result = .error e ∧ h' = h
      | .ok (id, r) => result = .ok id ∧ h'.registry.roll = r.roll ∨
          result = .error (.startFailed app) ∧ h'.registry.roll = (r.remove id).roll)
      fun _ _ => True := by
  have hL : (enrolled : Law A R).Operates := enrolled_operates
  unfold load
  rw [ends_bind, ends_get]
  cases h.registry.register app permissions behaviour with
  | error e => exact ⟨rfl, rfl⟩
  | ok joined =>
    obtain ⟨id, r⟩ := joined
    have hlog : Obeys enrolled (logLifecycle app id : HubM A R Unit) := hL.emit_obeys _ _ _
    refine ends_bind.2 (ends_set.2 ?_)
    refine (withBehaviour_enrolled id _).andThen (h := { h with registry := r }) rfl
      (fun _ _ _ => trivial) fun started h₁ hroll => ?_
    rw [ends_ite]
    split
    · refine hlog.andThen hroll (fun _ _ _ => trivial) fun _ h₂ hroll => ?_
      exact (Obeys.post (tryPost_enrolled _)).andThen hroll (fun _ _ _ => trivial) fun _ h₃ hroll =>
        .inl ⟨rfl, hroll⟩
    · refine (hL.emit_obeys _ _ _).andThen hroll (fun _ _ _ => trivial) fun _ h₂ hroll => ?_
      refine ends_bind.2 ((hL.releaseResources_ends id h₂).mono ?_ fun _ _ _ => trivial)
      rintro _ h₄ ⟨h₃, hroll₃, hroll₄⟩
      have hgone : enrolled.rel { h with registry := r.remove id } h₄ :=
        hroll₄.trans (roll_remove_congr (hroll₃.trans hroll) id)
      exact hlog.andThen hgone (fun _ _ _ => trivial) fun _ _ hroll => .inr ⟨rfl, hroll⟩

/-- Unloading takes a nanoapp off the roll and leaves the counter where it is. -/
theorem unload_roll (id : InstanceId) (h : Hub A R) :
    Ends (unload id) h (fun result h' =>
      match h.registry.find? id with
      | none => result = .error (.nanoappNotFound id) ∧ h' = h
      | some _ => result = .ok () ∧ h'.registry.roll = (h.registry.remove id).roll)
      fun _ _ => True := by
  have hL : (enrolled : Law A R).Operates := enrolled_operates
  unfold unload
  rw [ends_bind, ends_get]
  cases h.registry.find? id with
  | none => exact ⟨rfl, rfl⟩
  | some n =>
    have hlog : Obeys enrolled (logLifecycle n.app id : HubM A R Unit) := hL.emit_obeys _ _ _
    refine (runStop_enrolled id).andThen (enrolled.refl h) (fun _ _ _ => trivial)
      fun _ h₁ hroll => ?_
    refine ends_bind.2 ((hL.releaseResources_ends id h₁).mono ?_ fun _ _ _ => trivial)
    rintro _ h₃ ⟨h₂, hroll₂, hroll₃⟩
    have hgone : enrolled.rel { h with registry := h.registry.remove id } h₃ :=
      hroll₃.trans (roll_remove_congr (hroll₂.trans hroll) id)
    refine hlog.andThen hgone (fun _ _ _ => trivial) fun _ h₄ hroll => ?_
    exact (Obeys.post (tryPost_enrolled _)).andThen hroll (fun _ _ _ => trivial) fun _ _ hroll =>
      ⟨rfl, hroll⟩

/-! ## Whatever hosts do -/

theorem turn_sounding (t : Turn A R) : Obeys sounding t.run := by
  have hL : (sounding : Law A R).Dispatches := sounding_dispatches
  by_cases ht : t = .runOnce
  · subst ht
    exact .bind (hL.runOnce_obeys tick_sounding fun _ _ _ _ => id) fun _ => .pure _
  · cases hc : t.movesClock with
    | false => exact hL.turn_obeys t hc ht
    | true =>
      cases t with
      | advanceClock d => exact .modify fun _ => id
      | advanceClockTo d => exact .modify fun _ => id
      | _ => cases hc

/-- Nanoapps come and go by turns only. -/
def Usage.LeavesRoll : Usage A R → Prop
  | aside f _ => ∀ h, (f h).registry.roll = h.registry.roll
  | _ => True

theorem usage_sounding {u : Usage A R} (hu : u.LeavesRoll) : Obeys sounding u.run := by
  have hL : (sounding : Law A R).Dispatches := sounding_dispatches
  cases u with
  | turn t => exact turn_sounding t
  | post e => exact .bind (.post (tryPost_sounding e)) fun _ => .pure _
  | defer c => exact .bind (hL.defer_obeys c) fun _ => .pure _
  | setTimer s => exact .bind (hL.trySetTimer_obeys s) fun _ => .pure _
  | cancelTimer owner x => exact .bind (hL.cancelTimer_obeys owner x) fun _ => .pure _
  | cancelTimersOf owner => exact .bind (hL.cancelTimersOf_obeys owner) fun _ => .pure _
  | tick => exact .bind tick_sounding fun _ => .pure _
  | aside f _ => exact .modify fun h hs => hs.of_roll (hu h)

/-- Whatever hosts do from a new hub on leads to `h`, if they leave it to loading and unloading who
is loaded, and as which app. -/
inductive Enlisted (config : Config) : Hub A R → Prop
  | start {now : Nat} {radios : R} {metrics : Option Metrics} {h : Hub A R}
      (hr : initialise (blank config now radios metrics) = .ok () h) : Enlisted config h
  | use {h h' : Hub A R} (hh : Enlisted config h) {u : Usage A R} (hu : u.LeavesRoll)
      (hr : u.run h = .ok () h') : Enlisted config h'

theorem Reached.enlisted {config : Config} {h : Hub A R} (hh : Reached config h) :
    Enlisted config h := by
  induction hh with
  | start hr => exact .start hr
  | turn t _ hr ih => exact ih.use (u := .turn t) trivial hr

theorem Enlisted.sound {config : Config} {h : Hub A R} (hh : Enlisted config h) :
    h.registry.Sound := by
  induction hh with
  | start hr => exact Sound.empty.of_roll ((enrolled_operates.powers.initialise_obeys _).ok hr)
  | use _ hu hr ih => exact (usage_sounding hu _).ok hr ih

/-- Whatever nanoapps were loaded and unloaded, started or did not start: the loaded have distinct
ids from `1` to `65534` and distinct apps, and ids and apps lead to each other. An app is refused
exactly if it is loaded already, or it is new and all ids are in use; any other gets the first free
id from the counter on, going round, and the counter moves past it. A load answers likewise, and
adds the nanoapp to the roll if it starts; if it does not, only the counter has changed. -/
theorem registry_stays_sound (config : Config) {h : Hub A R} (hh : Enlisted config h) :
    h.registry.Sound ∧ (∀ id ∈ h.registry.ids, id ≠ .system ∧ id ≠ .broadcast) ∧
    (∀ id app n, h.registry.find? id = some n ∧ n.app = app ↔
      h.registry.findApp? app = some n ∧ n.id = id) ∧
    ∀ app permissions behaviour,
      (h.registry.register app permissions behaviour = .error (.duplicateAppId app) ↔
        ∃ n ∈ h.registry.apps, n.app = app) ∧
      (h.registry.register app permissions behaviour = .error .instanceIdsExhausted ↔
        (∀ n ∈ h.registry.apps, n.app ≠ app) ∧ h.registry.apps.length = 65534) ∧
      (∀ id, (∃ r, h.registry.register app permissions behaviour = .ok (id, r)) ↔
        (∀ n ∈ h.registry.apps, n.app ≠ app) ∧ h.registry.FirstFree id) ∧
      Ends (load app permissions behaviour) h (fun result h' =>
        match h.registry.register app permissions behaviour with
        | .error e => result = .error e ∧ h' = h
        | .ok (id, r) =>
            r.roll.1.Perm ((id, app) :: h.registry.roll.1) ∧ r.nextId = rollover id.val ∧
              (result = .ok id ∧ h'.registry.roll = r.roll ∨
                result = .error (.startFailed app) ∧
                  h'.registry.roll = (h.registry.roll.1, r.nextId)))
        fun _ _ => True := by
  have hs := hh.sound
  refine ⟨hs, fun id hid => (hs.ranged id hid).ne_reserved, hs.find?_iff_findApp?,
    fun app permissions behaviour => ⟨hs.register_duplicate_iff app permissions behaviour, ?_,
      hs.register_ok_iff app permissions behaviour, ?_⟩⟩
  · rw [hs.register_exhausted_iff, hs.full_iff, lastId]
  · refine (load_roll app permissions behaviour h).mono (fun result h' hload => ?_) fun _ _ => id
    cases hreg : h.registry.register app permissions behaviour with
    | error e => rwa [hreg] at hload
    | ok joined =>
      obtain ⟨id, r⟩ := joined
      obtain ⟨hroll, hnext, hremove⟩ := hs.roll_of_register hreg
      rw [hreg] at hload
      dsimp only at hload
      rw [hremove] at hload
      exact ⟨hroll, hnext, hload⟩

/-- The second nanoapp does not start and the first is unloaded, but their ids do not come back: the
third has the third. Its app is refused from then on, and the app of the first would be the fourth.
-/
theorem ids_are_not_reused_soon : ∃ h : Hub Script Stations, Enlisted {} h ∧
    h.registry.roll = ([(⟨3⟩, ⟨30⟩)], 4) ∧
      h.registry.register ⟨30⟩ {} {} = .error (.duplicateAppId ⟨30⟩) ∧
      ∃ r, h.registry.register ⟨10⟩ {} {} = .ok (⟨4⟩, r) := by
  obtain ⟨h, hh, hroll'⟩ := reached_of_ends (A := Script) {} 0 Stations.scripted none
    [.load ⟨10⟩ {} {}, .load ⟨20⟩ {} { starts := false }, .unload ⟨1⟩, .load ⟨30⟩ {} {}]
    (P := fun h => h.registry.roll = ([(⟨3⟩, ⟨30⟩)], 4)) (by decide +kernel)
  obtain ⟨-, -, -, hregister⟩ := registry_stays_sound {} hh.enlisted
  obtain ⟨hroll, hnext⟩ := Prod.mk.inj hroll'
  have hmember (x : InstanceId × AppId) : (∃ n ∈ h.registry.apps, (n.id, n.app) = x) ↔
      x = (⟨3⟩, ⟨30⟩) := by
    rw [← List.mem_map, hroll, List.mem_singleton]
  have hthird : ∃ n ∈ h.registry.apps, n.app = ⟨30⟩ := by
    obtain ⟨n, hn, he⟩ := (hmember _).2 rfl
    exact ⟨n, hn, (Prod.mk.inj he).2⟩
  refine ⟨h, hh.enlisted, hroll', (hregister ⟨30⟩ {} {}).1.2 hthird, ?_⟩
  refine ((hregister ⟨10⟩ {} {}).2.2.1 ⟨4⟩).2 ⟨fun n hn happ => ?_, fun hid => ?_, 0, by decide,
    by rw [hnext]; rfl, fun _ hj => absurd hj (Nat.not_lt_zero _)⟩
  · have he := (hmember _).1 ⟨n, hn, rfl⟩
    rw [happ] at he
    exact absurd (Prod.mk.inj he).2 (by decide)
  · obtain ⟨n, hn, he⟩ := List.mem_map.1 hid
    have he' := (hmember _).1 ⟨n, hn, rfl⟩
    rw [he] at he'
    exact absurd (Prod.mk.inj he').1 (by decide)

end Hub

end ContextHub
