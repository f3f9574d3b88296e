import ContextHub.Proofs.Hub.Bookkeeping
import ContextHub.Proofs.Hub.Winding
/-!
# Radios that are not in use

A hub asks a radio that is not in use for nothing on behalf of a nanoapp: the call is refused, and
the front stays as it is. So whatever hosts do short of starting and shutting down, and whatever is
still queued, a radio that is not in use and of which nobody wants anything winds up (`Subsides`).
-/

namespace ContextHub.Hub

open Desks

variable {A R α : Type}

/-! ## Calls are refused -/

/-- The front stays as it is, and the same radios are in use. -/
def dozing : Law A R where
  rel h h' := h'.front = h.front ∧ h'.inUse = h.inUse
  halts _ _ _ := True
  refl _ := ⟨rfl, rfl⟩
  trans hd hd' := ⟨hd'.1.trans hd.1, hd'.2.trans hd.2⟩
  halts_of_rel _ _ := trivial

theorem emit_dozing (level : Level) (message : String) (fields : List (String × String)) :
    Obeys dozing (emit level message fields : HubM A R Unit) :=
  .modify fun _ => ⟨rfl, rfl⟩

theorem permitted_dozing (id : InstanceId) (p : Permission) :
    Obeys dozing (permitted id p : HubM A R Bool) := by
  unfold permitted
  refine .get_bind fun h => ?_
  split
  · exact .pure _
  · exact .ite (fun _ => .pure _) fun _ => .bind (emit_dozing _ _ _) fun _ => .pure _

theorem admitted_dozing (id : InstanceId) (request : String) (result : Except RequestError Unit) :
    Obeys dozing (admitted id request result : HubM A R Bool) := by
  unfold admitted
  split
  · exact .pure _
  · exact .bind (emit_dozing _ _ _) fun _ => .pure _

/-- A radio that is not in use is capable of nothing. -/
theorem ends_incapable {caps : HubM A R Nat} {h : Hub A R} (hc : caps h = .ok 0 h) (mask : Nat)
    (e : RequestError) (rest : HubM A R (Except RequestError Unit)) :
    Ends (do
      if (← caps) &&& mask = 0 then return .error e
      rest) h (fun _ => dozing.rel h) (dozing.halts h) := by
  rw [ends_bind, Ends, hc]
  simp only [Nat.zero_and, ↓reduceIte]
  exact dozing.refl h

variable [Radio R]

theorem wifiCapabilities_unused {h : Hub A R} (hu : h.inUse .wifi = false) :
    wifiCapabilities h = .ok 0 h := by
  have hw : h.wifi.available = false := hu
  change EStateM.Result.ok (if h.wifi.available then _ else 0) h = _
  rw [hw]
  rfl

theorem wwanCapabilities_unused {h : Hub A R} (hu : h.inUse .wwan = false) :
    wwanCapabilities h = .ok 0 h := by
  have hw : h.wwan.available = false := hu
  change EStateM.Result.ok (if h.wwan.available then _ else 0) h = _
  rw [hw]
  rfl

theorem gnssCapabilities_unused {h : Hub A R} (hu : h.inUse .gnss = false) :
    gnssCapabilities h = .ok 0 h := by
  have hg : h.gnss.available = false := hu
  change EStateM.Result.ok (if h.gnss.available then _ else 0) h = _
  rw [hg]
  rfl

omit [Radio R] in
theorem askFor_dozing {id : InstanceId} {p : Permission} {request : String}
    {ask : HubM A R (Except RequestError Unit)} {dev : Device} {h : Hub A R}
    (ha : ∀ h : Hub A R, h.inUse dev = false →
      Ends ask h (fun _ => dozing.rel h) (dozing.halts h))
    (hu : h.inUse dev = false) :
    Ends (askFor id p request ask) h (fun _ => dozing.rel h) (dozing.halts h) := by
  unfold askFor
  refine Ends.bind (permitted_dozing id p h) fun b h₁ hd => ?_
  rw [ends_ite]
  split
  · refine ends_bind.2 ((ha h₁ (by rw [hd.2, hu])).mono (fun r h₂ hd₂ => ?_) fun _ _ _ => trivial)
    exact (admitted_dozing id request r).after (dozing.trans hd hd₂)
  · exact hd

/-- A call that asks a radio for something is refused when the radio is not in use. -/
theorem perform_dozing {id : InstanceId} {c : Call} {dev : Device} {h : Hub A R}
    (hc : c.device? = some dev) (hu : h.inUse dev = false) :
    Ends (perform id c) h (fun _ => dozing.rel h) (dozing.halts h) := by
  have hsession (k : SessionKind) (request : Option SessionRequest) (cookie : Cookie)
      (hu : h.inUse .gnss = false) :
      Ends (askForSession id k request cookie) h (fun _ => dozing.rel h) (dozing.halts h) :=
    askFor_dozing (fun _ hu => ends_incapable (gnssCapabilities_unused hu) _ _ _) hu
  cases c <;> cases hc
  case scanMonitor | scan | ranging =>
    exact askFor_dozing (fun _ hu => ends_incapable (wifiCapabilities_unused hu) _ _ _) hu
  case cellInfo =>
    exact askFor_dozing (fun _ hu => ends_incapable (wwanCapabilities_unused hu) _ _ _) hu
  case location | stopLocation | measurement | stopMeasurement => exact hsession _ _ _ hu

/-! ## What is in use stays so -/

/-- The same radios stay in use, and none is powered on or off. -/
def supplying : Law A R where
  rel := Supplied Entry.Powerless
  halts _ _ _ := True
  refl := .refl
  trans := .trans
  halts_of_rel _ _ := trivial

omit [Radio R] in
theorem discard_supplying (p : Event → Bool) :
    Obeys supplying (discard p : HubM A R (List Event)) := by
  intro h
  unfold discard
  rw [ends_bind, ends_get]
  refine ends_bind.2 (ends_set.2 (Obeys.after (h := h) (.bind (.forM fun e _ => ?_) ?_)
    (.of_same rfl rfl)))
  · have hreleased : (Entry.released e).Powerless := trivial
    exact .bind (.modify fun _ => .of_same rfl rfl) fun _ =>
      .modify fun _ => .of_entry hreleased rfl rfl
  · exact fun _ => .pure _

omit [Radio R] in
theorem tryPost_mute (e : Event) (h : Hub A R) :
    Ends (tryPost e) h (fun _ h' => h'.desks = h.desks ∧ Supplied Entry.Mute h h')
      fun _ _ => True := by
  have hhanded (accepted : Bool) : (Entry.handed e accepted).Mute := ⟨trivial, rfl⟩
  have hreleased : (Entry.released e).Mute := ⟨trivial, rfl⟩
  unfold tryPost
  rw [ends_bind, ends_get]
  split
  · exact ⟨rfl, .of_entry (hhanded _) rfl rfl⟩
  · exact ⟨rfl, rfl, [.released e, .handed e false], rfl, by simp [hhanded, hreleased]⟩

omit [Radio R] in
theorem supplying_oversees : (supplying : Law A R).Oversees where
  halt _ _ _ := trivial
  level _ hs := hs
  tryPost_obeys e h := (tryPost_mute e h).mono
    (fun _ _ hs => hs.2.mono fun _ he => he.powerless) fun _ _ _ => trivial
  cancelled _ _ := discard_supplying _
  purged hr := ((discard_supplying _ _).ok hr).trans (.of_same rfl rfl)
  dispatched _ := .of_same rfl rfl
  deferred _ := .of_same rfl rfl
  undelivered _ := .of_same rfl rfl

/-! ## Winding up -/

/-- Radios that are not in use, and of which nobody wants anything, wind up. -/
structure Subsides (h h' : Hub A R) : Prop where
  supplied : Supplied Entry.Powerless h h'
  owned : h.desks.Owned → h'.desks.Owned
  winds : ∀ dev news, h.inUse dev = false → h.desks.Shut dev → h'.journal = news ++ h.journal →
    Winds dev h.desks (news.filterMap Entry.request?) h'.desks

namespace Subsides

variable {h h' h'' : Hub A R}

omit [Radio R] in
theorem of_mute (hd : h'.desks = h.desks) (hs : Supplied Entry.Mute h h') : h.Subsides h' where
  supplied := hs.mono fun _ he => he.powerless
  owned ho := hd ▸ ho
  winds dev news _ hshut hj := by
    obtain ⟨news', hj', hmute⟩ := hs.grown
    obtain rfl := List.append_cancel_right (hj.symm.trans hj')
    have hnone : news.filterMap Entry.request? = [] :=
      List.filterMap_eq_nil_iff.2 fun e he => (hmute e he).unasked
    rw [hnone, hd]
    exact .refl hshut (by simp)

omit [Radio R] in
theorem trans (hs : h.Subsides h') (hs' : h'.Subsides h'') : h.Subsides h'' where
  supplied := hs.supplied.trans hs'.supplied
  owned := hs'.owned ∘ hs.owned
  winds dev news hu hshut hj := by
    obtain ⟨news₁, hj₁, -⟩ := hs.supplied.grown
    obtain ⟨news₂, hj₂, -⟩ := hs'.supplied.grown
    have hnews : news = news₂ ++ news₁ := by
      refine List.append_cancel_right (hj.symm.trans ?_)
      rw [hj₂, hj₁, List.append_assoc]
    have hw := hs.winds dev news₁ hu hshut hj₁
    have hw' := hs'.winds dev news₂ (by rw [hs.supplied.inUse, hu]) hw.shut hj₂
    refine (hw.trans hw').congr ?_
    simp [hnews, or_comm]

omit [Radio R] in
theorem requests_eq (h : Hub A R) :
    h.journal.filterMap Entry.request? = h.front.notes.filterMap Entry.request? := by
  rw [front, List.filterMap_filter]
  congr 1
  funext e
  cases e <;> simp [Entry.request?, Entry.isNoted]

omit [Radio R] in
/-- What the front tells of a step. -/
theorem of_front {d : Desks} {fx : List Effect} (hs : Supplied Entry.Powerless h h')
    (hd : h'.desks = d)
    (hn : h'.front.notes = (fx.filterMap Effect.entry?).reverse ++ h.front.notes)
    (ho : h.desks.Owned → d.Owned)
    (hw : ∀ dev, h.inUse dev = false → h.desks.Shut dev → Winds dev h.desks (asks fx) d) :
    h.Subsides h' where
  supplied := hs
  owned := hd ▸ ho
  winds dev news hu hshut hj := by
    have hentry (x : Effect) : x.entry?.bind Entry.request? = x.request? := by cases x <;> rfl
    have hasks : news.filterMap Entry.request? = (asks fx).reverse := by
      have hall := requests_eq h'
      rw [hj, hn, List.filterMap_append, List.filterMap_append, ← requests_eq h] at hall
      rw [List.append_cancel_right hall, List.filterMap_reverse, List.filterMap_filterMap]
      simp only [hentry]
      rfl
    rw [hd, hasks]
    exact (hw dev hu hshut).congr (by simp)

end Subsides

def subsiding : Law A R where
  rel := Subsides
  halts _ _ _ := True
  refl _ := .of_mute rfl (.refl _)
  trans := .trans
  halts_of_rel _ _ := trivial

/-- A step of which the rules of the desks tell. -/
theorem subsiding_of_rule {m : HubM A R α} (move : Move) (hsupplied : Obeys supplying m)
    (hyields : ∀ h, Yields m h fun _ d fx => DeskRule move h.desks fx d)
    (hidle : ∀ (h : Hub A R) id c dev, move = .called id c → c.device? = some dev →
      h.inUse dev = false → Ends m h (fun _ => dozing.rel h) (dozing.halts h)) :
    Obeys subsiding m := by
  intro h
  have hs := hsupplied h
  have hy := hyields h
  unfold Yields Ends at hs hy
  unfold Ends
  split
  · rename_i a h' hr
    rw [hr] at hs hy
    obtain ⟨d, fx, hrule, hc⟩ := hy
    by_cases hcall : ∃ id c dev, move = .called id c ∧ c.device? = some dev ∧ h.inUse dev = false
    · obtain ⟨id, c, dev, hmove, hdev, hu⟩ := hcall
      have hfront := ((hidle h id c dev hmove hdev hu).ok hr).1
      have hnotes : h'.front.notes = (([] : List Effect).filterMap Effect.entry?).reverse ++
          h.front.notes := congrArg Front.notes hfront
      exact .of_front hs (congrArg Front.desks hfront) hnotes (fun ho => ho)
        fun _ _ hshut => .refl hshut (by simp)
    · refine .of_front hs hc.desks (congrArg Front.notes hc) hrule.owned fun dev hu hshut => ?_
      exact hrule.winds hshut fun id c hmove hdev => hcall ⟨id, c, dev, hmove, hdev, hu⟩
  · trivial

/-- Whatever is left in the queue, and whoever is loaded or unloaded. -/
theorem subsiding_steers : (subsiding : Law A R).Steers fun _ => True where
  halt _ _ _ := trivial
  level ha hs := .of_mute (congrArg Account.desks ha) hs
  tryPost_obeys e h := (tryPost_mute e h).mono (fun _ _ hs => .of_mute hs.1 hs.2)
    fun _ _ _ => trivial
  perform_obeys id c _ := by
    refine subsiding_of_rule (.called id c) (supplying_oversees.perform_obeys id c)
      (fun h => (perform_yields id c h).mono fun _ _ _ hr => hr.1) ?_
    intro h _ _ dev hmove hdev hu
    cases hmove
    exact perform_dozing hdev hu
  releaseResources_obeys id h := by
    have hs := supplying_oversees.releaseResources_obeys id h
    refine (hs.and (releaseResources_front id h)).mono ?_ fun _ _ _ => trivial
    rintro _ h' ⟨hs, d, fx, hl, hf⟩
    exact .of_front hs (congrArg Front.desks hf) (congrArg Front.notes hf) hl.owned
      fun _ _ hshut => hl.winds hshut
  handleReport_obeys r := subsiding_of_rule (.reported r)
    (supplying_oversees.serves.handleReport_obeys r) (handleReport_yields r)
    fun _ _ _ _ hmove => by cases hmove
  handleSystemTimer_obeys x u := subsiding_of_rule (.expired x u)
    (supplying_oversees.serves.handleSystemTimer_obeys x u) (handleSystemTimer_yields x u)
    fun _ _ _ _ hmove => by cases hmove
  register _ := .of_mute rfl (.of_same rfl rfl)
  dispatched _ := .of_mute rfl (.of_same rfl rfl)
  deferred _ := .of_mute rfl (.of_same rfl rfl)
  undelivered _ := .of_mute rfl (.of_same rfl rfl)

end ContextHub.Hub
