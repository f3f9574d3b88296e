import ContextHub.Config.Validate
import ContextHub.Proofs.Hub.Procession
import ContextHub.Proofs.Hub.Subsiding
import ContextHub.Proofs.Hub.Unloading
/-!
# Radios are used while they are on

The journal tells when a radio was on: from when it was powered on with success until it was powered
off. In a hub that turns lead to, no radio is powered on or off twice in a row, and nothing is asked
of it while it is off, but for one thing: a radio that was switched off without having been at rest
may be asked again to switch a service off, by a hub that follows up a change that was still in
flight. If it was at rest, it is left alone for good (`radios_used_while_on`).
-/

namespace ContextHub

/-! ## What the journal tells -/

/-- Whether a radio is on after what the journal tells, latest first. -/
def isOn (dev : Device) : List Entry → Bool
  | [] => false
  | .poweredOn d _ worked :: older => if d = dev then worked else isOn dev older
  | .poweredOff d :: older => if d = dev then false else isOn dev older
  | _ :: older => isOn dev older

/-- Whether a radio was ever on. -/
def wasOn (dev : Device) (journal : List Entry) : Bool :=
  journal.any fun
    | .poweredOn d _ worked => d == dev && worked
    | _ => false

/-- A radio is powered on when it is off, and off when it is on; and it is used when it is on, but
for requests to switch a service off. -/
def Entry.Fits (older : List Entry) : Entry → Prop
  | poweredOn d _ _ => isOn d older = false
  | poweredOff d => isOn d older = true
  | requested q _ =>
    isOn q.device older = true ∨ wasOn q.device older = true ∧ q.isSwitchOff = true
  | _ => True

def Lawful (journal : List Entry) : Prop :=
  ∀ newer e older, journal = newer ++ e :: older → e.Fits older

theorem lawful_nil : Lawful [] := fun _ _ _ hj => by simp at hj

theorem Lawful.cons {e : Entry} {journal : List Entry} (hj : Lawful journal)
    (he : e.Fits journal) : Lawful (e :: journal) := by
  intro newer e' older hs
  cases newer with
  | nil =>
    obtain ⟨rfl, rfl⟩ := List.cons.inj hs
    exact he
  | cons _ newer => exact hj newer e' older (List.cons.inj hs).2

theorem isOn_cons {e : Entry} (he : e.Powerless) (dev : Device) (journal : List Entry) :
    isOn dev (e :: journal) = isOn dev journal := by
  cases e <;> first | rfl | cases he

theorem wasOn_cons {e : Entry} (he : e.Powerless) (dev : Device) (journal : List Entry) :
    wasOn dev (e :: journal) = wasOn dev journal := by
  cases e <;> first | rfl | cases he

theorem wasOn_of_isOn {dev : Device} {journal : List Entry} (hj : isOn dev journal = true) :
    wasOn dev journal = true := by
  induction journal with
  | nil => cases hj
  | cons e journal ih =>
    cases e with
    | poweredOn d _ worked =>
      simp only [isOn, wasOn, List.any_cons, Bool.or_eq_true, Bool.and_eq_true, beq_iff_eq] at hj ⊢
      split at hj
      · rename_i hd
        exact .inl ⟨hd, hj⟩
      · exact .inr (ih hj)
    | poweredOff d =>
      simp only [isOn] at hj
      split at hj
      · cases hj
      · exact ih hj
    | _ => exact ih hj

/-- What is new tells of no radio that was powered on or off. -/
theorem isOn_append {news : List Entry} (hn : ∀ e ∈ news, e.Powerless) (dev : Device)
    (journal : List Entry) : isOn dev (news ++ journal) = isOn dev journal := by
  induction news with
  | nil => rfl
  | cons e news ih =>
    rw [List.cons_append, isOn_cons (hn e List.mem_cons_self),
      ih fun e he => hn e (List.mem_cons_of_mem _ he)]

theorem wasOn_append {news : List Entry} (hn : ∀ e ∈ news, e.Powerless) (dev : Device)
    (journal : List Entry) : wasOn dev (news ++ journal) = wasOn dev journal := by
  induction news with
  | nil => rfl
  | cons e news ih =>
    rw [List.cons_append, wasOn_cons (hn e List.mem_cons_self),
      ih fun e he => hn e (List.mem_cons_of_mem _ he)]

theorem Lawful.append {news journal : List Entry} (hj : Lawful journal)
    (hn : ∀ e ∈ news, e.Powerless) (hq : ∀ q accepted, .requested q accepted ∈ news →
      isOn q.device journal = true ∨ wasOn q.device journal = true ∧ q.isSwitchOff = true) :
    Lawful (news ++ journal) := by
  induction news with
  | nil => exact hj
  | cons e news ih =>
    have hn' : ∀ e ∈ news, e.Powerless := fun e he => hn e (List.mem_cons_of_mem _ he)
    refine (ih hn' fun q accepted hm => hq q accepted (List.mem_cons_of_mem _ hm)).cons ?_
    cases e with
    | requested q accepted =>
      rw [Entry.Fits, isOn_append hn', wasOn_append hn']
      exact hq q accepted List.mem_cons_self
    | poweredOn | poweredOff => cases hn _ List.mem_cons_self
    | _ => trivial

namespace Hub

variable {A R α : Type}

/-- A radio is in use if and only if the journal tells that it is on; and if it is not in use,
nobody wants anything of it. -/
structure Governed (h : Hub A R) : Prop where
  lawful : Lawful h.journal
  isOn : ∀ dev, isOn dev h.journal = h.inUse dev
  owned : h.desks.Owned
  shut : ∀ dev, h.inUse dev = false → h.desks.Shut dev
  fresh : ∀ dev, wasOn dev h.journal = false → h.desks.Rest dev

namespace Governed

variable {h h' : Hub A R}

/-- A radio that was never on is not in use. -/
theorem unused (hg : h.Governed) {dev : Device} (hw : wasOn dev h.journal = false) :
    h.inUse dev = false := by
  rw [← hg.isOn]
  exact Bool.eq_false_iff.2 fun hon => Bool.eq_false_iff.1 hw (wasOn_of_isOn hon)

theorem subsides (hg : h.Governed) (hs : h.Subsides h') : h'.Governed := by
  obtain ⟨news, hj, hpowerless⟩ := hs.supplied.grown
  have hu : h'.inUse = h.inUse := hs.supplied.inUse
  have hwas (dev : Device) : wasOn dev h'.journal = wasOn dev h.journal := by
    rw [hj, wasOn_append hpowerless]
  refine ⟨?_, fun dev => ?_, hs.owned hg.owned, fun dev hoff => ?_, fun dev hw => ?_⟩
  · rw [hj]
    refine hg.lawful.append hpowerless fun q accepted hm => ?_
    have hm : q ∈ news.filterMap Entry.request? := List.mem_filterMap.2 ⟨_, hm, rfl⟩
    cases hoff : h.inUse q.device with
    | true => exact .inl ((hg.isOn _).trans hoff)
    | false =>
      have hw := hs.winds q.device news hoff (hg.shut _ hoff) hj
      refine .inr ⟨Bool.eq_false_or_eq_true _ |>.resolve_right fun hnever => ?_, hw.off q hm rfl⟩
      exact (hw.rest (hg.fresh _ hnever)).2 q hm rfl
  · rw [hj, isOn_append hpowerless, hg.isOn, hu]
  · rw [hu] at hoff
    exact (hs.winds dev news hoff (hg.shut dev hoff) hj).shut
  · rw [hwas] at hw
    have hoff := hg.unused hw
    exact ((hs.winds dev news hoff (hg.shut dev hoff) hj).rest (hg.fresh dev hw)).1

/-- A radio is powered on, or fails to. -/
theorem poweredOn (hg : h.Governed) {dev : Device} {time : Nat} {worked : Bool}
    (hoff : h.inUse dev = false) (hd : h'.desks = h.desks)
    (hu : h'.inUse = Function.update h.inUse dev worked)
    (hj : h'.journal = .poweredOn dev time worked :: h.journal) : h'.Governed := by
  refine ⟨?_, fun d => ?_, hd ▸ hg.owned, fun d hd' => ?_, fun d hw => ?_⟩
  · rw [hj]
    exact hg.lawful.cons ((hg.isOn dev).trans hoff)
  · rw [hj, hu, ContextHub.isOn, Function.update_apply, hg.isOn]
    simp only [eq_comm]
  · rw [hd]
    rw [hu, Function.update_apply] at hd'
    split at hd'
    · rename_i heq
      exact hg.shut d (heq ▸ hoff)
    · exact hg.shut d hd'
  · rw [hd]
    rw [hj, wasOn, List.any_cons, Bool.or_eq_false_iff] at hw
    exact hg.fresh d hw.2

/-- A radio of which nobody wants anything is powered off. -/
theorem poweredOff (hg : h.Governed) {dev : Device} (hon : h.inUse dev = true)
    (hs : h.desks.Shut dev) (hd : h'.desks = h.desks)
    (hu : h'.inUse = Function.update h.inUse dev false)
    (hj : h'.journal = .poweredOff dev :: h.journal) : h'.Governed := by
  refine ⟨?_, fun d => ?_, hd ▸ hg.owned, fun d hd' => ?_, fun d hw => ?_⟩
  · rw [hj]
    exact hg.lawful.cons ((hg.isOn dev).trans hon)
  · rw [hj, hu, ContextHub.isOn, Function.update_apply, hg.isOn]
    simp only [eq_comm]
  · rw [hd]
    rw [hu, Function.update_apply] at hd'
    split at hd'
    · rename_i heq
      exact heq ▸ hs
    · exact hg.shut d hd'
  · rw [hd]
    rw [hj] at hw
    exact hg.fresh d hw

end Governed

/-- The hub after a radio was taken to be in use, or not. -/
def flagged (dev : Device) (on : Bool) (h : Hub A R) : Hub A R :=
  match dev with
  | .wifi => { h with wifi := { h.wifi with available := on } }
  | .wwan => { h with wwan := { h.wwan with available := on } }
  | .gnss => { h with gnss := { h.gnss with available := on } }

theorem inUse_flagged (dev : Device) (on : Bool) (h : Hub A R) :
    (flagged dev on h).inUse = Function.update h.inUse dev on := by
  funext d
  cases dev <;> cases d <;> rfl

theorem desks_flagged (dev : Device) (on : Bool) (h : Hub A R) :
    (flagged dev on h).desks = h.desks := by
  cases dev with
  | wifi | wwan => rfl
  | gnss =>
    have hsame : (flagged .gnss on h).desks.session = h.desks.session :=
      funext fun k => by cases k <;> rfl
    exact congrArg (fun g => { h.desks with session := g }) hsame

theorem journal_flagged (dev : Device) (on : Bool) (h : Hub A R) :
    (flagged dev on h).journal = h.journal := by cases dev <;> rfl

/-! ## Starting -/

theorem blank_governed (config : Config) (now : Nat) (radios : R) (metrics : Option Metrics) :
    (blank config now radios metrics : Hub A R).Governed where
  lawful := lawful_nil
  isOn dev := by cases dev <;> rfl
  owned := ⟨by simp [blank, desks], by simp [blank, desks], by simp [blank, desks]⟩
  shut dev _ := by
    cases dev with
    | wifi => exact ⟨rfl, by simp [blank, desks], rfl, rfl⟩
    | wwan => rfl
    | gnss => exact fun k => by cases k <;> exact ⟨rfl, by simp [blank, desks, GnssState.session]⟩
  fresh dev _ := by
    cases dev with
    | wifi => exact ⟨rfl, rfl⟩
    | wwan => trivial
    | gnss => exact fun k => by cases k <;> exact ⟨rfl, rfl⟩

section

variable [Radio R]

theorem powerOn_governed {h : Hub A R} (hg : h.Governed) {dev : Device}
    (hoff : h.inUse dev = false) :
    Ends (powerOn dev) h (fun worked h' => (flagged dev worked h').Governed ∧
      (flagged dev worked h').inUse = Function.update h.inUse dev worked) fun _ _ => False := by
  have hafter (worked : Bool) {h' : Hub A R} (hd : h'.desks = h.desks) (hu : h'.inUse = h.inUse)
      (hj : h'.journal = .poweredOn dev h.now worked :: h.journal) :
      (flagged dev worked h').Governed ∧
        (flagged dev worked h').inUse = Function.update h.inUse dev worked := by
    have hu' := (inUse_flagged dev worked h').trans (by rw [hu])
    exact ⟨hg.poweredOn hoff ((desks_flagged ..).trans hd) hu' ((journal_flagged ..).trans hj), hu'⟩
  unfold powerOn
  rw [ends_bind, ends_get]
  refine ends_bind.2 (ends_set.2 ?_)
  split <;> exact hafter _ rfl rfl rfl

theorem openRadios_governed {h : Hub A R} (hg : h.Governed) (hoff : ∀ dev, h.inUse dev = false) :
    Ends openRadios h (fun _ => Governed) fun _ _ => False := by
  unfold openRadios
  refine (powerOn_governed hg (hoff .wifi)).bind fun wifi h₁ hp => ends_bind.2 (ends_modify.2 ?_)
  obtain ⟨hg₁, hu₁⟩ := hp
  refine (powerOn_governed hg₁ ?_).bind fun wwan h₂ hp => ends_bind.2 (ends_modify.2 ?_)
  · rw [hu₁]
    exact hoff .wwan
  obtain ⟨hg₂, hu₂⟩ := hp
  refine (powerOn_governed hg₂ ?_).bind fun gnss h₃ hp => ends_modify.2 hp.1
  rw [hu₂, hu₁]
  exact hoff .gnss

theorem initialise_governed {h : Hub A R} (hg : h.Governed) (hoff : ∀ dev, h.inUse dev = false) :
    Ends initialise h (fun _ => Governed) fun _ _ => True := by
  refine Ends.bind ((openRadios_governed hg hoff).mono (fun _ _ hg => hg) fun _ _ => False.elim) ?_
  intro _ h₁ hg₁
  exact hg₁.subsides (.of_mute rfl (.of_same rfl rfl))

/-! ## Shutting down -/

/-- Radios were powered off, and nothing else was done. -/
structure Closes (h h' : Hub A R) : Prop where
  governed : h'.Governed
  desks : h'.desks = h.desks
  inUse : ∀ dev, h.inUse dev = false → h'.inUse dev = false
  journal : ∃ news, h'.journal = news ++ h.journal ∧ news.filterMap Entry.request? = []

theorem Closes.close {h h₁ : Hub A R} (hc : Closes h h₁) (dev : Device) (hon : h₁.inUse dev = true)
    (hs : h.desks.Shut dev) :
    Closes h (flagged dev false { h₁ with
      radios := Radio.powerOff dev h₁.radios, journal := .poweredOff dev :: h₁.journal }) := by
  obtain ⟨news, hj, hnone⟩ := hc.journal
  refine ⟨?_, (desks_flagged ..).trans hc.desks, fun d hd => ?_, .poweredOff dev :: news, ?_, hnone⟩
  · exact hc.governed.poweredOff hon (hc.desks ▸ hs) (desks_flagged ..) (inUse_flagged ..)
      (journal_flagged ..)
  · rw [inUse_flagged, Function.update_apply]
    split
    · rfl
    · exact hc.inUse d hd
  · rw [journal_flagged]
    exact congrArg _ hj

theorem closeRadios_closes {h : Hub A R} (hg : h.Governed) (hs : ∀ dev, h.desks.Shut dev) :
    Ends closeRadios h (fun _ h' => Closes h h' ∧ ∀ dev, h'.inUse dev = false)
      fun _ _ => False := by
  have hall {h' : Hub A R} (hc : Closes h h') (hwifi : h'.inUse .wifi = false)
      (hwwan : h'.inUse .wwan = false) (hgnss : h'.inUse .gnss = false) :
      Closes h h' ∧ ∀ dev, h'.inUse dev = false :=
    ⟨hc, fun dev => by cases dev <;> assumption⟩
  have hgnss (h₂ : Hub A R) (hc : Closes h h₂) (hwifi : h₂.inUse .wifi = false)
      (hwwan : h₂.inUse .wwan = false) : Ends (do
      if (← get).gnss.available then
        powerOff .gnss
        modify fun h => { h with gnss := { h.gnss with available := false } }) h₂
      (fun _ h' => Closes h h' ∧ ∀ dev, h'.inUse dev = false) fun _ _ => False := by
    rw [ends_bind, ends_get, ends_ite]
    split
    · rename_i hon
      exact ends_bind.2 (ends_modify.2 (ends_modify.2
        (hall (hc.close .gnss hon (hs .gnss)) hwifi hwwan rfl)))
    · rename_i hoff
      exact hall hc hwifi hwwan (Bool.eq_false_iff.2 hoff)
  have hwwan (h₁ : Hub A R) (hc : Closes h h₁) (hwifi : h₁.inUse .wifi = false) : Ends (do
      if (← get).wwan.available then
        powerOff .wwan
        modifyWwan fun w => { w with available := false }
      if (← get).gnss.available then
        powerOff .gnss
        modify fun h => { h with gnss := { h.gnss with available := false } }) h₁
      (fun _ h' => Closes h h' ∧ ∀ dev, h'.inUse dev = false) fun _ _ => False := by
    rw [ends_bind, ends_get, ends_ite]
    split
    · rename_i hon
      exact ends_bind.2 (ends_modify.2 (ends_bind.2 (ends_modify.2
        (hgnss _ (hc.close .wwan hon (hs .wwan)) hwifi rfl))))
    · rename_i hoff
      exact hgnss _ hc hwifi (Bool.eq_false_iff.2 hoff)
  have hself : Closes h h := ⟨hg, rfl, fun _ hoff => hoff, [], rfl, rfl⟩
  unfold closeRadios
  rw [ends_bind, ends_get, ends_ite]
  split
  · rename_i hon
    exact ends_bind.2 (ends_modify.2 (ends_bind.2 (ends_modify.2
      (hwwan _ (hself.close .wifi hon (hs .wifi)) rfl))))
  · rename_i hoff
    exact hwwan _ hself (Bool.eq_false_iff.2 hoff)

omit [Radio R] in
/-- Nobody is left who wants anything. -/
theorem shut_of_vacant {h : Hub A R} (ho : h.Orderly) (howned : h.desks.Owned)
    (hids : h.registry.ids = []) (dev : Device) : h.desks.Shut dev := by
  have hout (id : InstanceId) : h.strangers id = true := by
    rw [strangers, hids]
    rfl
  have hnone {κ : Type} {s : Slot κ} (hs : s.FreeOf h.strangers) : ∀ p ∈ s, p.requester = none :=
    fun p hp => Option.eq_none_iff_forall_not_mem.2 fun id hid => by
      have := hs p hp id hid
      rw [hout] at this
      cases this
  have hempty {κ : Type} {s : Slot κ} (hs : s.FreeOf h.strangers)
      (hsome : ∀ p ∈ s, p.requester.isSome = true) : s = none :=
    Option.eq_none_iff_forall_not_mem.2 fun p hp => by
      have := hsome p hp
      rw [hnone hs p hp] at this
      cases this
  cases dev with
  | wifi =>
    have hw := ho.free.wifi
    refine ⟨List.eq_nil_iff_forall_not_mem.2 fun id hid => ?_, hnone hw.monitor,
      hempty hw.scan howned.scan, hempty hw.ranging howned.ranging⟩
    have := hw.monitors id hid
    rw [hout] at this
    cases this
  | wwan => exact hempty ho.free.cell howned.cell
  | gnss =>
    refine fun k => ⟨List.eq_nil_iff_forall_not_mem.2 fun r hr => ?_,
      hnone (ho.free.session k).slot⟩
    have := (ho.free.session k).requests r hr
    rw [hout] at this
    cases this

variable [Behaviour A]

theorem runStop_acting (id : InstanceId) : Obeys acting (runStop id : HubM A R Unit) := by
  have hrun : Obeys acting (do
      let _ ← withBehaviour id fun (a : A) => do return ((), ← Behaviour.stop id a) :
      HubM A R Unit) :=
    .bind (withBehaviour_acting _ _) fun _ => .pure _
  unfold runStop
  refine .get_bind fun h => ?_
  dsimp only
  split
  · exact hrun
  · exact .bind ((performing_of_still (note_still rfl)
      (staffed_operates.note_obeys rfl rfl)).within performing_acting) fun _ => hrun

theorem unload_ids (id : InstanceId) {h : Hub A R} (ho : h.Orderly) :
    Ends (unload id) h (fun _ h' => ∀ x ∈ h'.registry.ids, x ∈ h.registry.ids ∧ x ≠ id)
      fun _ _ => True := by
  unfold unload
  rw [ends_bind, ends_get]
  split
  · rename_i hnone
    intro x hx
    refine ⟨hx, ?_⟩
    rintro rfl
    obtain ⟨n, hn, rfl⟩ := List.mem_map.1 hx
    simpa using List.find?_eq_none.1 hnone n hn
  · rename_i n hn
    refine ((orderly_after (runStop_recording id) ho).and
      ((runStop_acting id h).mono (fun _ _ hr => hr) fun _ _ _ => trivial)).mono ?_
      (fun _ _ _ => trivial) |> ends_bind.2
    rintro _ h₁ ⟨ho₁, hids, -⟩
    refine (releaseResources_released id ho₁.free.timers.coherent ho₁.free.heap.exact).bind ?_
    intro _ h₂ hr
    have htell : Obeys staffed (do
        logLifecycle n.app id
        let _ ← post (.toAll EventType.nanoappStopped (.nanoapp n.app id))
        return .ok () : HubM A R (Except LoadError Unit)) :=
      .bind (staffed_operates.emit_obeys _ _ _) fun _ =>
        .bind (.post (tryPost_staffed _)) fun _ => .pure _
    refine (htell h₂).mono (fun _ h₃ hs x hx => ?_) fun _ _ _ => trivial
    rw [Registry.ids_eq_staff, show h₃.registry.staff = h₂.registry.staff from hs,
      ← Registry.ids_eq_staff, hr.registry, mem_ids_remove] at hx
    exact ⟨hids ▸ hx.1, hx.2⟩

theorem unloadAll_ids (ids : List InstanceId) {h : Hub A R} (ho : h.Orderly) :
    Ends (ids.forM fun id => do
      match ← unload id with
      | .ok () => pure ()
      | .error e => emit .warn "Unload during shutdown failed" [("error", e.message)]) h
      (fun _ h' => h'.Orderly ∧ ∀ x ∈ h'.registry.ids, x ∈ h.registry.ids ∧ x ∉ ids)
      fun _ _ => True := by
  induction ids generalizing h with
  | nil => exact ⟨ho, fun x hx => ⟨hx, List.not_mem_nil⟩⟩
  | cons id ids ih =>
    have hfirst : Ends (do
        match ← unload id with
        | .ok () => pure ()
        | .error e => emit .warn "Unload during shutdown failed" [("error", e.message)]) h
        (fun _ h₁ => h₁.Orderly ∧ ∀ x ∈ h₁.registry.ids, x ∈ h.registry.ids ∧ x ≠ id)
        fun _ _ => True := by
      refine (((orderly_after (unload_recording id) ho).and (unload_ids id ho)).mono
        (fun r h₁ hp => ?_) fun _ _ _ => trivial) |> ends_bind.2
      cases r with
      | ok => exact hp
      | error => exact ⟨⟨hp.1.free.of_same rfl rfl rfl rfl rfl, hp.1.nextId, hp.1.system⟩, hp.2⟩
    refine hfirst.bind fun _ h₁ hp => ?_
    refine (ih hp.1).mono (fun _ h₂ hp' => ⟨hp'.1, fun x hx => ?_⟩) fun _ _ _ => trivial
    obtain ⟨hx₁, hout⟩ := hp'.2 x hx
    obtain ⟨hx, hne⟩ := hp.2 x hx₁
    exact ⟨hx, List.not_mem_cons_of_ne_of_not_mem hne hout⟩

/-- A radio that is not in use stays so. If it is at rest too, it is left alone. -/
structure Retires (h h' : Hub A R) (dev : Device) : Prop where
  inUse : h'.inUse dev = false
  rest : h.desks.Rest dev → h'.desks.Rest dev ∧ ∃ news, h'.journal = news ++ h.journal ∧
    ∀ q ∈ news.filterMap Entry.request?, q.device ≠ dev

omit [Radio R] [Behaviour A] in
theorem Governed.retires {h h' : Hub A R} (hg : h.Governed) (hs : h.Subsides h') {dev : Device}
    (hoff : h.inUse dev = false) : Retires h h' dev := by
  obtain ⟨news, hj, -⟩ := hs.supplied.grown
  have hw := hs.winds dev news hoff (hg.shut dev hoff) hj
  refine ⟨by rw [hs.supplied.inUse, hoff], fun hrest => ?_⟩
  obtain ⟨hrest', hnone⟩ := hw.rest hrest
  exact ⟨hrest', news, hj, hnone⟩

omit [Radio R] [Behaviour A] in
theorem Retires.trans {h h' h'' : Hub A R} {dev : Device} (hr : Retires h h' dev)
    (hr' : Retires h' h'' dev) : Retires h h'' dev := by
  refine ⟨hr'.inUse, fun hrest => ?_⟩
  obtain ⟨hrest', news, hj, hnone⟩ := hr.rest hrest
  obtain ⟨hrest'', news', hj', hnone'⟩ := hr'.rest hrest'
  refine ⟨hrest'', news' ++ news, by rw [hj', hj, List.append_assoc], ?_⟩
  rw [List.filterMap_append]
  exact List.forall_mem_append.2 ⟨hnone', hnone⟩

omit [Radio R] [Behaviour A] in
theorem Closes.retires {h h' : Hub A R} (hc : Closes h h') {dev : Device}
    (hoff : h.inUse dev = false) : Retires h h' dev := by
  obtain ⟨news, hj, hnone⟩ := hc.journal
  refine ⟨hc.inUse dev hoff, fun hrest => ⟨hc.desks ▸ hrest, news, hj, ?_⟩⟩
  simp [hnone]

/-- By the time that radios are powered off, nobody wants anything of them. -/
theorem shutdown_governed {h : Hub A R} (hg : h.Governed) (ho : h.Orderly) :
    Ends shutdown h (fun _ h' => h'.Governed ∧ (∀ dev, h'.inUse dev = false) ∧
      ∀ dev, h.inUse dev = false → Retires h h' dev) fun _ _ => True := by
  have hunload := subsiding_steers.unloadAll_obeys (Behaviour.only_true A) h.registry.ids h
  unfold shutdown
  rw [ends_bind, ends_get]
  refine ((hunload.and (unloadAll_ids h.registry.ids ho)).mono ?_ fun _ _ _ => trivial)
    |> ends_bind.2
  rintro _ h₁ ⟨hs, ho₁, hids⟩
  have hvacant : h₁.registry.ids = [] :=
    List.eq_nil_iff_forall_not_mem.2 fun x hx => (hids x hx).2 (hids x hx).1
  have hg₁ := hg.subsides hs
  have hshut := shut_of_vacant ho₁ (hs.owned hg.owned) hvacant
  refine (closeRadios_closes hg₁ hshut).mono (fun _ h' hc => ⟨hc.1.governed, hc.2, ?_⟩)
    fun _ _ => False.elim
  intro dev hoff
  have hr := hg.retires hs hoff
  exact hr.trans (hc.1.retires hr.inUse)

theorem Turn.governed {t : Turn A R} {h : Hub A R} (hg : h.Governed) (ho : h.Orderly) :
    Ends t.run h (fun _ h' => h'.Governed ∧ ∀ dev, h.inUse dev = false → Retires h h' dev)
      fun _ _ => True := by
  by_cases ht : t = .shutdown
  · subst ht
    exact (shutdown_governed hg ho).mono (fun _ _ hp => ⟨hp.1, hp.2.2⟩) fun _ _ _ => trivial
  · refine (subsiding_steers.turn_obeys (Behaviour.only_true A) t ht h).mono (fun _ h' hs => ?_)
      fun _ _ _ => trivial
    exact ⟨hg.subsides hs, fun dev hoff => hg.retires hs hoff⟩

theorem Reached.orderly {config : Config} {h : Hub A R} (hh : Reached config h) : h.Orderly :=
  have ⟨_, hr⟩ := hh.visited.recorded
  hr.orderly

theorem Reached.governed {config : Config} {h : Hub A R} (hh : Reached config h) : h.Governed := by
  induction hh with
  | start hr =>
    exact (initialise_governed (blank_governed ..) fun dev => by cases dev <;> rfl).ok hr
  | turn t hh hr ih => exact ((Turn.governed ih hh.orderly).ok hr).1

theorem Reached.retires {config : Config} {h : Hub A R} (hh : Reached config h) {dev : Device}
    (hoff : h.inUse dev = false) (turns : List (Turn A R)) :
    Ends (turns.forM Turn.run) h (fun _ h' => Retires h h' dev) fun _ _ => True := by
  induction turns generalizing h with
  | nil => exact ⟨hoff, fun hrest => ⟨hrest, [], rfl, by simp⟩⟩
  | cons t turns ih =>
    have hturn := Turn.governed (t := t) hh.governed hh.orderly
    have hreached : Ends t.run h (fun _ => Reached config) fun _ _ => True := by
      unfold Ends
      split
      · exact .turn t hh ‹_›
      · trivial
    refine ((hturn.and hreached).mono (fun _ h₁ hp => ?_) fun _ _ _ => trivial) |> ends_bind.2
    have hr := hp.1.2 dev hoff
    exact (ih hp.2 hr.inUse).mono (fun _ _ hr' => hr.trans hr') fun _ _ _ => trivial

/-- In a hub that turns lead to, the radios in use are those that are on as the journal tells. No
radio is powered off twice, and while it is off it is asked for nothing, unless it was on before and
is asked to switch a service off. And a radio that is not in use and at rest is left alone, whatever
is still queued and whoever is loaded and unloaded from there on. -/
theorem radios_used_while_on {config : Config} {h : Hub A R} (hh : Reached config h) :
    (∀ dev, isOn dev h.journal = h.inUse dev) ∧
    (∀ newer e older, h.journal = newer ++ e :: older → e.Fits older) ∧
    ∀ dev, h.inUse dev = false → h.desks.Rest dev →
      ∀ (turns : List (Turn A R)) h', turns.forM Turn.run h = .ok () h' →
        ∃ news, h'.journal = news ++ h.journal ∧
          ∀ q accepted, .requested q accepted ∈ news → q.device ≠ dev := by
  refine ⟨hh.governed.isOn, hh.governed.lawful, fun dev hoff hrest turns h' hr => ?_⟩
  obtain ⟨-, news, hj, hnone⟩ := ((hh.retires hoff turns).ok hr).rest hrest
  exact ⟨news, hj, fun q accepted hm => hnone q (List.mem_filterMap.2 ⟨_, hm, rfl⟩)⟩

end

/-- A nanoapp scans when the hub is shut down. From then on WiFi is left alone, also by the nanoapp
that is loaded afterwards and would like to monitor scans. -/
theorem resting_radio_is_left_alone : ∃ h h' : Hub Script Stations, Reached {} h ∧
    isOn .wifi h.journal = false ∧ wasOn .wifi h.journal = true ∧
    [Turn.load ⟨2⟩ { wifi := true } { start := [.monitor true ⟨8⟩] }].forM Turn.run h = .ok () h' ∧
    h'.registry.ids = [⟨2⟩] ∧
    ∃ news, h'.journal = news ++ h.journal ∧
      ∀ q accepted, .requested q accepted ∈ news → q.device ≠ .wifi := by
  obtain ⟨h, hh, hoff, hslot, henabled, hwas, hload⟩ :=
    reached_of_ends (A := Script) {} 0 Stations.scripted none
      [.load ⟨1⟩ { wifi := true } { start := [.scan {} ⟨7⟩] }, .shutdown]
      (P := fun h => h.inUse .wifi = false ∧ h.wifi.monitorSlot.isNone = true ∧
        h.wifi.monitorEnabled = false ∧ wasOn .wifi h.journal = true ∧
        Ends ([Turn.load ⟨2⟩ { wifi := true } { start := [.monitor true ⟨8⟩] }].forM Turn.run) h
          (fun _ h' => h'.registry.ids = [⟨2⟩]) fun _ _ => False) (by decide +kernel)
  obtain ⟨_, h', hr, hids⟩ := hload.exists_ok
  obtain ⟨hon, -, hleft⟩ := radios_used_while_on hh
  have hrest : h.desks.Rest .wifi := ⟨Option.isNone_iff_eq_none.1 hslot, henabled⟩
  exact ⟨h, h', hh, (hon .wifi).trans hoff, hwas, hr, hids, hleft .wifi hoff hrest _ h' hr⟩

/-- A nanoapp wishes to monitor scans, and the radio's confirmation is still queued when the hub is
shut down. The hub follows it up, and asks a radio that it has powered off. -/
theorem late_confirmation_asks_radio_that_is_off : ¬ ∀ (config : Config)
    (turns : List (Turn Script Stations)) (h : Hub Script Stations), config.isValid = true →
      (do initialise; turns.forM Turn.run) (blank config 0 Stations.scripted none) = .ok () h →
        ∀ newer q accepted older, h.journal = newer ++ .requested q accepted :: older →
          isOn q.device older = true := by
  intro hclaim
  obtain ⟨_, h, hr, n, -, hhead, hoff⟩ := Ends.exists_ok (m := do
      initialise
      [Turn.load ⟨1⟩ { wifi := true } { start := [.monitor true ⟨7⟩] },
        .report (.wifi (.monitorStatus true 0)), .shutdown, .runOnce, .runOnce].forM Turn.run)
    (h := (blank {} 0 Stations.scripted none : Hub Script Stations))
    (Q := fun _ h => ∃ n ∈ List.range h.journal.length,
      (h.journal.drop n).head? = some (.requested (.scanMonitor false) true) ∧
        isOn .wifi (h.journal.drop n).tail = false)
    (by decide +kernel)
  obtain ⟨older, hdrop⟩ := List.head?_eq_some_iff.1 hhead
  have hj : h.journal = h.journal.take n ++ .requested (.scanMonitor false) true :: older := by
    rw [← hdrop, List.take_append_drop]
  have hon := hclaim {} _ h (by decide +kernel) hr _ _ _ older hj
  rw [hdrop, List.tail_cons] at hoff
  exact Bool.false_ne_true (hoff.symm.trans hon)

end Hub

end ContextHub
